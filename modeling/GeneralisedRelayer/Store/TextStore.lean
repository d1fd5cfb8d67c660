/-
  GeneralisedRelayer.Store.TextStore — the `Store` as the code runs it: redis holds texts, every
  writer `JSON.stringify`s its object literal, and every reader `JSON.parse`s what it gets.

  The record model of `Store.Lib` reads a stored record as a `BountyJson` and writes
  `JsObject.stringify` of a literal.  Here the database holds the texts (`TextRedis`).  A register
  call reads the text at its key as the code does (no text, or the empty text, is no record; any
  other text goes through `JSON.parse`, and a text it refuses makes the call throw), builds the
  same literal as in the record model, and writes `JSON.stringify` of it.  JavaScript enumerates a
  literal's properties in the order they were created, which depends on the record read: the
  order is left open, and every result holds for each order a write may take.

  `recordOfText` reads a parsed text as a record: an object whose keys are `BountyJson`'s and
  whose values are `null`, booleans, strings or decimal integers; a key given twice keeps its last
  value, as the object `JSON.parse` builds does.  Any other text (an array, a fraction, a key no
  writer uses) is outside the record model and is read like a text `JSON.parse` refuses; no
  writer produces one.

  Main results:
    * `textRecord_stringifyBounty` — `JSON.parse (JSON.stringify o)` is the record
      `o.stringify`, for every literal and every property order: the record model's `stringify`
      is the code's.
    * `applyText_represents` — a register call on the texts refines the same call on the records.
    * `applyAllText_refines` — so does every run of calls, whatever the property orders, and
      `getBounty` then returns on the texts what it returns on the records.
-/
import GeneralisedRelayer.Store.JsonText
import GeneralisedRelayer.Store.Runs

namespace GeneralisedRelayer

/-! ## §1. Property names and orders. -/

/-- The property name of a field in the stored text. -/
def BountyField.key : BountyField → String
  | .messageIdentifier => "messageIdentifier"
  | .fromChainId => "fromChainId"
  | .toChainId => "toChainId"
  | .maxGasDelivery => "maxGasDelivery"
  | .maxGasAck => "maxGasAck"
  | .refundGasTo => "refundGasTo"
  | .priceOfDeliveryGas => "priceOfDeliveryGas"
  | .priceOfAckGas => "priceOfAckGas"
  | .targetDelta => "targetDelta"
  | .status => "status"
  | .address => "address"
  | .finalised => "finalised"
  | .submitTransactionHash => "submitTransactionHash"
  | .execTransactionHash => "execTransactionHash"
  | .ackTransactionHash => "ackTransactionHash"

/-- Every field once. -/
def BountyField.all : List BountyField :=
  [.messageIdentifier, .fromChainId, .toChainId, .maxGasDelivery, .maxGasAck, .refundGasTo,
    .priceOfDeliveryGas, .priceOfAckGas, .targetDelta, .status, .address, .finalised,
    .submitTransactionHash, .execTransactionHash, .ackTransactionHash]

/-- The field a property name stands for. -/
def BountyField.ofKey (k : String) : Option BountyField := BountyField.all.find? (·.key = k)

theorem BountyField.ofKey_key (f : BountyField) : BountyField.ofKey f.key = some f := by
  cases f <;> decide

theorem BountyField.key_injective : Function.Injective BountyField.key := fun a b h => by
  simpa [BountyField.ofKey_key] using congrArg BountyField.ofKey h

/-- An order of a literal's properties: each field once. -/
def KeyOrder := { order : List BountyField // order.Nodup ∧ ∀ f, f ∈ order }

/-! ## §2. `JSON.stringify` of a bounty, and reading a text back as a record. -/

/-- The members `JSON.stringify` writes of a literal whose properties come in `order`: each
property that is present, with its key and its value's text. -/
def bountyMembers (order : KeyOrder) (o : BountyObject) : List (String × List Char) :=
  order.1.filterMap fun f => (o f).map fun v => (f.key, serializeJsValue v)

/-- `JSON.stringify(bounty)` -/
def stringifyBounty (order : KeyOrder) (o : BountyObject) : String :=
  ⟨serializeObject (bountyMembers order o)⟩

/-- The value a record holds, of a parsed member: `null`, a boolean, a string, or a number
written as a decimal integer. -/
def JsonText.toJson? : JsonText → Option Json
  | .null => some .null
  | .bool b => some (.bool b)
  | .number literal => (parseDecimal ⟨literal⟩).map .num
  | .str s => some (.str s)
  | .arr _ | .obj _ => none

/-- The record a parsed text stands for, if it is one: an object whose keys are all property
names of fields and whose values a record holds.  The object `JSON.parse` builds sets its
members one after another, so a field reads the last member of its name. -/
def recordOfText : JsonText → Option BountyJson
  | .obj members =>
    if members.all fun m => (BountyField.ofKey m.1).isSome && m.2.toJson?.isSome then
      some fun f => ((JsMap.empty.setAll members).get f.key).bind JsonText.toJson?
    else none
  | _ => none

/-- What a reader makes of a stored text: `JSON.parse`, read as a record. -/
def textRecord (text : String) : Option BountyJson := (jsonParse text).bind recordOfText

theorem toJson?_toText (j : Json) : j.toText.toJson? = some j := by
  cases j with
  | num n =>
    show (parseDecimal (toDecimal n)).map Json.num = _
    rw [parseDecimal_toDecimal]
    rfl
  | _ => rfl

/-- The members of a literal as the JSON values `JSON.parse` reads back. -/
def jsonMembers (order : KeyOrder) (o : BountyObject) : List (String × Json) :=
  order.1.filterMap fun f => (o.stringify f).map fun j => (f.key, j)

theorem bountyMembers_eq (order : KeyOrder) (o : BountyObject) :
    bountyMembers order o = (jsonMembers order o).map fun m => (m.1, serializeJson m.2) := by
  rw [bountyMembers, jsonMembers, List.map_filterMap]
  congr 1
  funext f
  rw [JsObject.stringify_apply]
  cases o f <;> simp [serializeJsValue_eq]

/-- Distinct fields give distinct property names. -/
theorem jsonMembers_keys_nodup (order : KeyOrder) (o : BountyObject) :
    ((jsonMembers order o).map Prod.fst).Nodup := by
  rw [jsonMembers, List.map_filterMap]
  refine order.2.1.filterMap fun a a' b ha ha' => BountyField.key_injective ?_
  simp only [Option.map_map, Option.mem_def, Option.map_eq_some'] at ha ha'
  obtain ⟨_, -, rfl⟩ := ha
  obtain ⟨_, -, h⟩ := ha'
  exact h.symm

/-- A field the order does not list has no property in the members. -/
theorem lookup_filterMap_key_none {α : Type} (order : List BountyField)
    (val : BountyField → Option α) (f : BountyField) (hf : f ∉ order) :
    (order.filterMap fun g => (val g).map fun v => (g.key, v)).lookup f.key = none := by
  induction order with
  | nil => rfl
  | cons g order ih =>
    have hk : f.key ≠ g.key := fun h => hf (BountyField.key_injective h ▸ List.mem_cons_self _ _)
    rw [List.filterMap_cons]
    cases val g <;> simp only [Option.map_some', Option.map_none', JsMap.lookup_cons_ite, hk,
      if_false, ih (fun h => hf (List.mem_cons_of_mem _ h))]

/-- A field's property in the members is its value in the record, when the order lists it. -/
theorem lookup_filterMap_key {α : Type} (order : List BountyField) (hnd : order.Nodup)
    (val : BountyField → Option α) (f : BountyField) (hf : f ∈ order) :
    (order.filterMap fun g => (val g).map fun v => (g.key, v)).lookup f.key = val f := by
  induction order with
  | nil => simp at hf
  | cons g order ih =>
    obtain ⟨hg, hnd⟩ := List.nodup_cons.1 hnd
    rw [List.filterMap_cons]
    by_cases hgf : g = f
    · subst hgf
      cases val g <;> simp only [Option.map_some', Option.map_none', JsMap.lookup_cons_ite, if_true,
        lookup_filterMap_key_none order val g hg]
    · have hk : f.key ≠ g.key := fun h => hgf (BountyField.key_injective h).symm
      have hf' : f ∈ order := (List.mem_cons.1 hf).resolve_left (Ne.symm hgf)
      cases val g <;> simp only [Option.map_some', Option.map_none', JsMap.lookup_cons_ite, hk,
        if_false, ih hnd hf']

/-- The parsed members, as the fields' values read back in `order`. -/
theorem textMembers_eq (order : KeyOrder) (o : BountyObject) :
    (jsonMembers order o).map (fun m => (m.1, m.2.toText))
      = order.1.filterMap fun f => ((o.stringify f).map Json.toText).map fun v => (f.key, v) := by
  rw [jsonMembers, List.map_filterMap]
  congr 1
  funext f
  cases o.stringify f <;> rfl

/-- The parsed members of a literal's text make a record, and it is the literal's. -/
theorem recordOfText_jsonMembers (order : KeyOrder) (o : BountyObject) :
    recordOfText (.obj ((jsonMembers order o).map fun m => (m.1, m.2.toText)))
      = some o.stringify := by
  have hnd : (((jsonMembers order o).map fun m => (m.1, m.2.toText)).map Prod.fst).Nodup := by
    simpa using jsonMembers_keys_nodup order o
  have hall : ((jsonMembers order o).map fun m => (m.1, m.2.toText)).all
      (fun m => (BountyField.ofKey m.1).isSome && m.2.toJson?.isSome) := by
    rw [List.all_eq_true]
    intro m hm
    obtain ⟨_, hj, rfl⟩ := List.mem_map.1 hm
    obtain ⟨f, -, hf⟩ := List.mem_filterMap.1 hj
    obtain ⟨j, -, rfl⟩ := Option.map_eq_some'.1 hf
    simp [BountyField.ofKey_key, toJson?_toText]
  rw [recordOfText, if_pos hall]
  congr 1
  funext f
  rw [JsMap.get_setAll, JsMap.lookup_reverse _ hnd, JsMap.get_empty, Option.or_none,
    textMembers_eq, lookup_filterMap_key order.1 order.2.1 _ f (order.2.2 f)]
  cases o.stringify f <;> simp [toJson?_toText]

/-- **`JSON.parse (JSON.stringify o)` is `o.stringify`**: the text a writer stores reads back as
the record the record model stores, for every literal and every order of its properties. -/
theorem textRecord_stringifyBounty (order : KeyOrder) (o : BountyObject) :
    textRecord (stringifyBounty order o) = some o.stringify := by
  rw [textRecord, stringifyBounty, bountyMembers_eq, jsonParse_serializeObject, Option.some_bind,
    recordOfText_jsonMembers]

/-! ## §3. The database of texts. -/

/-- The redis database as the code sees it: the text at each bounty key and at each AMB key, and
what was published on `relayer:key`. -/
structure TextRedis where
  bounties : String → Option String
  ambs : String → Option String
  keyChannel : List KeyNotification

namespace TextRedis

/-- An empty database. -/
def empty : TextRedis := ⟨fun _ => none, fun _ => none, []⟩

/-- `Store.set`: write the text, then publish `{ key, action: 'set' }`. -/
def set (db : TextRedis) (key value : String) : TextRedis :=
  { db with
    bounties := Function.update db.bounties key (some value)
    keyChannel := db.keyChannel ++ [⟨key, "set"⟩] }

/-- A register method's read: `existingValue = await this.redis.get(key)`; no text and the empty
text (`!existingValue`) are no record, any other text is `JSON.parse`d, and one it refuses
throws (`SyntaxError` stands for V8's message, which the model does not keep). -/
def read (db : TextRedis) (key : String) : Except String (Option BountyJson) :=
  match db.bounties key with
  | none => pure none
  | some text =>
    if text = "" then pure none
    else
      match textRecord text with
      | some r => pure (some r)
      | none => throw "SyntaxError"

/-- `getBounty`'s read: `query === null ? undefined : JSON.parse(query)`. -/
def query (db : TextRedis) (key : String) : Except String (Option BountyJson) :=
  match db.bounties key with
  | none => pure none
  | some text =>
    match textRecord text with
    | some r => pure (some r)
    | none => throw "SyntaxError"

theorem textRecord_empty : textRecord "" = none := rfl

/-- A text that stands for a record, or no text where none is, is read as that record. -/
theorem read_of_text {db : TextRedis} {key : String} {r : Option BountyJson}
    (h : (db.bounties key).map textRecord = r.map some) : db.read key = .ok r := by
  cases ht : db.bounties key with
  | none =>
    rw [ht, Option.map_none', eq_comm, Option.map_eq_none'] at h
    simp only [read, ht, h]
    rfl
  | some text =>
    rw [ht] at h
    cases r with
    | none => cases h
    | some r =>
      have hr : textRecord text = some r := Option.some.inj h
      have hne : text ≠ "" := by
        rintro rfl
        rw [textRecord_empty] at hr
        cases hr
      simp only [read, ht, if_neg hne, hr]
      rfl

/-- Such a text is also queried as that record. -/
theorem query_of_text {db : TextRedis} {key : String} {r : Option BountyJson}
    (h : (db.bounties key).map textRecord = r.map some) : db.query key = .ok r := by
  cases ht : db.bounties key with
  | none =>
    rw [ht, Option.map_none', eq_comm, Option.map_eq_none'] at h
    simp only [query, ht, h]
    rfl
  | some text =>
    rw [ht] at h
    cases r with
    | none => cases h
    | some r =>
      simp only [query, ht, Option.some.inj h]
      rfl

end TextRedis

/-- The bounty texts stand for the records: a text exactly where a record is, reading back as it;
and the key channel is the same. -/
structure Represents (tdb : TextRedis) (db : Redis) : Prop where
  bounties : ∀ key, (tdb.bounties key).map textRecord = (db.get key).map some
  keyChannel : tdb.keyChannel = db.keyChannel

namespace Represents

variable {tdb : TextRedis} {db : Redis}

theorem empty : Represents TextRedis.empty Redis.empty := ⟨fun _ => rfl, rfl⟩

theorem read (h : Represents tdb db) (key : String) : tdb.read key = .ok (db.get key) :=
  TextRedis.read_of_text (h.bounties key)

theorem query (h : Represents tdb db) (key : String) : tdb.query key = .ok (db.get key) :=
  TextRedis.query_of_text (h.bounties key)

/-- A writer's text set at a key stands for the record set there. -/
theorem set (h : Represents tdb db) (key : String) (order : KeyOrder) (o : BountyObject) :
    Represents (tdb.set key (stringifyBounty order o)) (db.set key o.stringify) where
  bounties key' := by
    by_cases hk : key' = key
    · subst hk
      simp [TextRedis.set, textRecord, stringifyBounty, bountyMembers_eq,
        jsonParse_serializeObject, recordOfText_jsonMembers]
    · simpa [TextRedis.set, Function.update_noteq hk, hk] using h.bounties key'
  keyChannel := by simp [TextRedis.set, h.keyChannel]

end Represents

/-! ## §4. Register calls on the texts. -/

namespace RegisterCall

/-- What the call hands to `JSON.stringify`, given what it read: its literal, `none` when it
writes nothing (an increase that raises no price), or what it throws. -/
def build (chainId : String) : RegisterCall → Option BountyJson →
    Except String (Option BountyObject)
  | .bountyPlaced e, r => pure (some (placedBounty chainId e r))
  | .messageDelivered e, r => pure (some (deliveredBounty chainId e r))
  | .bountyClaimed e, r => pure (some (claimedBounty chainId e r))
  | .bountyIncreased e, none => pure (some (increasedBaseline e))
  | .bountyIncreased e, some r => increasedBounty e r

/-- The call as the code makes it on the texts: the read-only check, `get`, `JSON.parse`, the
literal, and `set` of `JSON.stringify` of it with its properties in `order`. -/
def runText (store : Store) (order : KeyOrder) (c : RegisterCall) (db : TextRedis) :
    Except String TextRedis := do
  let chainId ← store.writableChainId
  let key := bountyKey c.messageIdentifier
  let existing ← db.read key
  match ← c.build chainId existing with
  | some bounty => pure (db.set key (stringifyBounty order bounty))
  | none => pure db

/-- The texts after chain `chainId`'s `Store` made the call: as `runText` leaves them, and as
they were where the call throws. -/
def applyText (chainId : String) (order : KeyOrder) (c : RegisterCall) (db : TextRedis) :
    TextRedis :=
  match c.runText ⟨some chainId⟩ order db with
  | .ok db' => db'
  | .error _ => db

/-- The record model's `write?` is the literal `build` hands to `JSON.stringify`, stringified. -/
theorem write?_eq_build (chainId : String) (c : RegisterCall) (r : Option BountyJson) :
    c.write? chainId r = match c.build chainId r with
      | .ok (some o) => some o.stringify
      | _ => none := by
  cases c <;> cases r <;> rfl

/-- **One call**: the call on texts that stand for records leaves texts that stand for what the
call leaves on the records. -/
theorem applyText_represents (chainId : String) (order : KeyOrder) (c : RegisterCall)
    {tdb : TextRedis} {db : Redis} (h : Represents tdb db) :
    Represents (c.applyText chainId order tdb) (c.apply chainId db) := by
  rw [apply_eq, write?_eq_build]
  simp only [applyText, runText, Store.writableChainId, h.read, bind, Except.bind, pure,
    Except.pure]
  rcases c.build chainId (db.get (bountyKey c.messageIdentifier)) with _ | _ | o
  · exact h
  · exact h
  · exact h.set _ order o

end RegisterCall

/-! ## §5. Runs. -/

/-- A call of a run on the texts: the worker's call, and the order of its literal's
properties. -/
structure TextCall where
  call : WorkerCall
  order : KeyOrder

/-- The texts after the calls, one after another. -/
def applyAllText (cs : List TextCall) (db : TextRedis) : TextRedis :=
  cs.foldl (fun db c => c.call.call.applyText c.call.chainId c.order db) db

/-- A run of calls on texts that stand for records leaves texts that stand for what the same
run leaves on the records. -/
theorem Represents.applyAllText (cs : List TextCall) {tdb : TextRedis} {db : Redis}
    (h : Represents tdb db) :
    Represents (applyAllText cs tdb) (applyAll (cs.map (·.call)) db) := by
  induction cs generalizing tdb db with
  | nil => exact h
  | cons c cs ih => exact ih (RegisterCall.applyText_represents _ _ _ h)

/-- `getBounty` on the texts: its query, then `Store.getBounty`'s checks and `BigNumber` reads on
the record the text parses to. -/
def getBountyText (db : TextRedis) (messageIdentifier : String) :
    Except String (Option BountyObject) := do
  let bounty ← db.query (bountyKey messageIdentifier)
  Store.getBounty { Redis.empty with bounties := fun _ => bounty } messageIdentifier

theorem Represents.getBountyText {tdb : TextRedis} {db : Redis} (h : Represents tdb db)
    (messageIdentifier : String) :
    getBountyText tdb messageIdentifier = Store.getBounty db messageIdentifier := by
  rw [GeneralisedRelayer.getBountyText, h.query]
  rfl

/-- **The texts refine the records**: a run of register calls on texts that stand for records,
whatever the orders its writes take, leaves texts that stand for what the same run leaves on the
records, and `getBounty` then returns on the texts what it returns on the records. -/
theorem applyAllText_refines (cs : List TextCall) {tdb : TextRedis} {db : Redis}
    (h : Represents tdb db) :
    Represents (applyAllText cs tdb) (applyAll (cs.map (·.call)) db) ∧
      ∀ messageIdentifier, getBountyText (applyAllText cs tdb) messageIdentifier
        = Store.getBounty (applyAll (cs.map (·.call)) db) messageIdentifier :=
  ⟨h.applyAllText cs, (h.applyAllText cs).getBountyText⟩

/-- Chain `1` records a delivery on an empty database, its literal's properties in
`BountyField`'s order. -/
theorem delivered_text_refines :
    Represents TextRedis.empty Redis.empty ∧
      (Represents
          (applyAllText [⟨⟨"1", .messageDelivered ⟨"0x01", "0xab", "0xcd"⟩⟩,
            ⟨BountyField.all, by decide, by decide⟩⟩] TextRedis.empty)
          (applyAll [⟨"1", .messageDelivered ⟨"0x01", "0xab", "0xcd"⟩⟩] Redis.empty) ∧
        ∀ messageIdentifier,
          getBountyText (applyAllText [⟨⟨"1", .messageDelivered ⟨"0x01", "0xab", "0xcd"⟩⟩,
            ⟨BountyField.all, by decide, by decide⟩⟩] TextRedis.empty) messageIdentifier
          = Store.getBounty (applyAll [⟨"1", .messageDelivered ⟨"0x01", "0xab", "0xcd"⟩⟩]
            Redis.empty) messageIdentifier) :=
  ⟨Represents.empty, applyAllText_refines _ Represents.empty⟩

end GeneralisedRelayer
