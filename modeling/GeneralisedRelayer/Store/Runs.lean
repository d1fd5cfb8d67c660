/-
  GeneralisedRelayer.Store.Runs — register calls made one after another, and the shape of every
  record they leave.

  A run is a list of `WorkerCall`s, each a register call made by the `Store` of some chain's
  worker.  On the database it is `applyAll`; at one bounty key it is `replay`, the fold of
  `RegisterCall.step` (`applyAll_get`).

  Every record a run leaves is well formed (`Wf`): its status is absent, `null` or a number, and
  its prices and `targetDelta` are absent or decimal strings that `BigNumber.from` reads back.

  Main results:
    * `applyAll_get` — the database view of a run is the record view at its key.
    * `step_wf` / `replay_wf` — every call keeps `Wf`, so every reachable record has it.
    * `applyAll_keyChannel` — a run keeps what `relayer:key` held, adds only `set`s of its calls'
      keys, and names every key whose record it changed.
-/
import GeneralisedRelayer.Store.Lib

namespace GeneralisedRelayer

/-! ## §1. Runs. -/

/-- A register call made by the `Store` of the worker of chain `chainId`. -/
structure WorkerCall where
  chainId : String
  call : RegisterCall
  deriving DecidableEq, Repr

namespace WorkerCall

/-- The call's effect at its bounty key. -/
def step (c : WorkerCall) : Option BountyJson → Option BountyJson := c.call.step c.chainId

/-- The call's effect on the database. -/
def apply (c : WorkerCall) : Redis → Redis := c.call.apply c.chainId

end WorkerCall

/-- The record at one key after the calls, one after another. -/
def replay (cs : List WorkerCall) (r : Option BountyJson) : Option BountyJson :=
  cs.foldl (fun r c => c.step r) r

/-- The database after the calls, one after another. -/
def applyAll (cs : List WorkerCall) (db : Redis) : Redis :=
  cs.foldl (fun db c => c.apply db) db

@[simp] theorem replay_nil (r : Option BountyJson) : replay [] r = r := rfl

@[simp] theorem replay_cons (c : WorkerCall) (cs : List WorkerCall) (r : Option BountyJson) :
    replay (c :: cs) r = replay cs (c.step r) := rfl

@[simp] theorem replay_append_singleton (cs : List WorkerCall) (c : WorkerCall)
    (r : Option BountyJson) : replay (cs ++ [c]) r = c.step (replay cs r) := by
  simp [replay]

theorem replay_append (cs cs' : List WorkerCall) (r : Option BountyJson) :
    replay (cs ++ cs') r = replay cs' (replay cs r) := List.foldl_append _ _ _ _

/-- **The database view of a run is the record view at its key.** -/
theorem applyAll_get (cs : List WorkerCall) (db : Redis) (id : String)
    (hcs : ∀ c ∈ cs, c.call.messageIdentifier = id) :
    (applyAll cs db).get (bountyKey id) = replay cs (db.get (bountyKey id)) := by
  induction cs generalizing db with
  | nil => rfl
  | cons c cs ih =>
    have hc := hcs c (List.mem_cons_self c cs)
    rw [applyAll, List.foldl_cons, ← applyAll, ih _ fun c' h => hcs c' (List.mem_cons_of_mem c h)]
    simp only [WorkerCall.apply, RegisterCall.apply_get, hc, if_true, replay_cons, WorkerCall.step]

/-! ## §2. Well-formed records. -/

/-- A field as the writers of a `BigNumber` leave it: absent, or a decimal string. -/
def DecimalField (v : Option Json) : Prop := v = none ∨ ∃ n, v = some (.str (toDecimal n))

/-- A status as the writers leave it: absent, `null` (a `NaN` written back), or a number. -/
def StatusField (v : Option Json) : Prop := v = none ∨ v = some .null ∨ ∃ n, v = some (.num n)

/-- The shape of every record the register calls leave. -/
structure Wf (r : BountyJson) : Prop where
  status : StatusField (r .status)
  priceOfDeliveryGas : DecimalField (r .priceOfDeliveryGas)
  priceOfAckGas : DecimalField (r .priceOfAckGas)
  targetDelta : DecimalField (r .targetDelta)

/-- `Wf` of a key's content; no record is well formed. -/
def WfOpt : Option BountyJson → Prop
  | none => True
  | some r => Wf r

theorem DecimalField.or {a b : Option Json} (ha : DecimalField a) (hb : DecimalField b) :
    DecimalField (a.or b) := by
  rcases ha with rfl | ⟨n, rfl⟩ <;> simp_all [DecimalField]

theorem StatusField.or {a b : Option Json} (ha : StatusField a) (hb : StatusField b) :
    StatusField (a.or b) := by
  rcases ha with rfl | rfl | ⟨n, rfl⟩ <;> simp_all [StatusField]

@[simp] theorem decimalField_str (n : Nat) : DecimalField (some (.str (toDecimal n))) :=
  .inr ⟨n, rfl⟩

@[simp] theorem statusField_num (n : Nat) : StatusField (some (.num n)) := .inr (.inr ⟨n, rfl⟩)

@[simp] theorem statusField_null : StatusField (some .null) := .inr (.inl rfl)

@[simp] theorem statusField_number (x : JsNumber) :
    StatusField (some (JsValue.number x).toJson) := by
  cases x <;> simp

@[simp] theorem decimalField_none : DecimalField none := .inl rfl

@[simp] theorem statusField_none : StatusField none := .inl rfl

/-- Every field of the record `registerBountyPlaced` builds from nothing is well formed. -/
theorem wf_placed_none (chainId : String) (e : BountyPlacedEvent) :
    Wf (placedBounty chainId e none).stringify := by
  constructor <;> simp [placedBounty]

theorem wf_placed (chainId : String) (e : BountyPlacedEvent) (r : Option BountyJson)
    (hr : WfOpt r) : Wf (placedBounty chainId e r).stringify := by
  cases r with
  | none => exact wf_placed_none chainId e
  | some r =>
    have h := wf_placed_none chainId e
    have hs : ∀ f, (placedBounty chainId e (some r)).stringify f
        = (r f).or ((placedBounty chainId e none).stringify f) := fun f => by
      cases hf : r f <;> simp [placedBounty, hf, JsValue.toJson]
    exact ⟨by rw [hs]; exact hr.status.or h.status,
      by rw [hs]; exact hr.priceOfDeliveryGas.or h.priceOfDeliveryGas,
      by rw [hs]; exact hr.priceOfAckGas.or h.priceOfAckGas,
      by rw [hs]; exact hr.targetDelta.or h.targetDelta⟩

/-- The status calls leave every field but the four they write as it was. -/
theorem statusBounty_other (s : BountyStatus) (hashField chainField : BountyField)
    (chainId : String) (e : EscrowEvent) (r : Option BountyJson) (f : BountyField)
    (hf : f ∉ [.messageIdentifier, .status, hashField, chainField]) :
    (statusBounty s hashField chainField chainId e r).stringify f = r.bind (· f) := by
  simp only [List.mem_cons, List.mem_singleton, not_or, List.not_mem_nil] at hf
  cases r <;> simp [statusBounty, hf.1, hf.2.1, hf.2.2.1, hf.2.2.2.1]

/-- `registerMessageDelivered` and `registerBountyClaimed` leave the prices and `targetDelta`
as they were. -/
theorem step_status_call_frame (chainId : String) (e : EscrowEvent) (r : Option BountyJson)
    (f : BountyField) (hf : f ∈ [.priceOfDeliveryGas, .priceOfAckGas, .targetDelta]) :
    (RegisterCall.step chainId (.messageDelivered e) r).bind (· f) = r.bind (· f) ∧
      (RegisterCall.step chainId (.bountyClaimed e) r).bind (· f) = r.bind (· f) := by
  simp only [List.mem_cons, List.mem_singleton, List.not_mem_nil, or_false] at hf
  simp only [RegisterCall.step_messageDelivered, RegisterCall.step_bountyClaimed, Option.some_bind,
    deliveredBounty, claimedBounty_eq]
  rcases hf with rfl | rfl | rfl <;>
    exact ⟨statusBounty_other _ _ _ chainId e r _ (by decide),
      statusBounty_other _ _ _ chainId e r _ (by decide)⟩

theorem wf_status (s : BountyStatus) (hashField chainField : BountyField)
    (hh : hashField ∉ [.status, .priceOfDeliveryGas, .priceOfAckGas, .targetDelta])
    (hc : chainField ∉ [.status, .priceOfDeliveryGas, .priceOfAckGas, .targetDelta])
    (chainId : String) (e : EscrowEvent) (r : Option BountyJson) (hr : WfOpt r) :
    Wf (statusBounty s hashField chainField chainId e r).stringify := by
  simp only [List.mem_cons, List.mem_singleton, not_or, List.not_mem_nil] at hh hc
  cases r with
  | none =>
    constructor <;> simp [statusBounty, Ne.symm hh.1, Ne.symm hh.2.1, Ne.symm hh.2.2.1,
      Ne.symm hh.2.2.2.1, Ne.symm hc.1, Ne.symm hc.2.1, Ne.symm hc.2.2.1, Ne.symm hc.2.2.2.1]
  | some r =>
    constructor <;> simp [statusBounty, Ne.symm hh.1, Ne.symm hh.2.1, Ne.symm hh.2.2.1,
      Ne.symm hh.2.2.2.1, Ne.symm hc.1, Ne.symm hc.2.1, Ne.symm hc.2.2.1, Ne.symm hc.2.2.2.1]
    · exact hr.priceOfDeliveryGas
    · exact hr.priceOfAckGas
    · exact hr.targetDelta

theorem wf_delivered (chainId : String) (e : EscrowEvent) (r : Option BountyJson)
    (hr : WfOpt r) : Wf (deliveredBounty chainId e r).stringify :=
  wf_status _ _ _ (by decide) (by decide) chainId e r hr

theorem wf_claimed (chainId : String) (e : EscrowEvent) (r : Option BountyJson)
    (hr : WfOpt r) : Wf (claimedBounty chainId e r).stringify := by
  rw [claimedBounty_eq]
  exact wf_status _ _ _ (by decide) (by decide) chainId e r hr

/-! ## §3. `registerBountyIncreased` on a well-formed record. -/

/-- The integer a `DecimalField` holds; an absent field is `0`. -/
def decimalValue : Option Json → Nat
  | some (.str s) => (parseDecimal s).getD 0
  | _ => 0

@[simp] theorem decimalValue_none : decimalValue none = 0 := rfl

@[simp] theorem decimalValue_str (n : Nat) : decimalValue (some (.str (toDecimal n))) = n := by
  simp [decimalValue, parseDecimal_toDecimal]

/-- `BigNumber.from(field ?? '0')` reads a well-formed field as its `decimalValue`. -/
theorem bigNumberFrom_nullish {v : Option Json} (h : DecimalField v) :
    bigNumberFrom (nullish v (.str "0")) = .ok (decimalValue v) := by
  rcases h with rfl | ⟨n, rfl⟩
  · rfl
  · simp [nullish, decimalValue, parseDecimal_toDecimal]

/-- **`registerBountyIncreased` on a stored record**: both prices become the maximum of the
stored and the new one, and nothing is written unless one of them rises. -/
theorem increasedBounty_eq (e : BountyIncreasedEvent) (r : BountyJson)
    (hd : DecimalField (r .priceOfDeliveryGas)) (ha : DecimalField (r .priceOfAckGas)) :
    increasedBounty e r =
      .ok (if decimalValue (r .priceOfDeliveryGas) < e.newDeliveryGasPrice ∨
              decimalValue (r .priceOfAckGas) < e.newAckGasPrice then
            some (JsObject.ofJson r
              |>.set .priceOfDeliveryGas
                (.bigNumber (max (decimalValue (r .priceOfDeliveryGas)) e.newDeliveryGasPrice))
              |>.set .priceOfAckGas
                (.bigNumber (max (decimalValue (r .priceOfAckGas)) e.newAckGasPrice)))
          else none) := by
  have hmax : ∀ a b : Nat, (if a < b then b else a) = max a b := fun a b => by
    split <;> omega
  simp only [increasedBounty, bigNumberFrom_nullish hd, bigNumberFrom_nullish ha, bind,
    Except.bind, pure, Except.pure, Bool.or_eq_true, decide_eq_true_eq, hmax]
  split_ifs <;> rfl

/-- A call on a well-formed record: the `Increased` step, spelled out. -/
theorem step_increased (chainId : String) (e : BountyIncreasedEvent) (r : BountyJson)
    (hr : Wf r) :
    RegisterCall.step chainId (.bountyIncreased e) (some r) =
      if decimalValue (r .priceOfDeliveryGas) < e.newDeliveryGasPrice ∨
          decimalValue (r .priceOfAckGas) < e.newAckGasPrice then
        some (JsObject.ofJson r
          |>.set .priceOfDeliveryGas
            (.bigNumber (max (decimalValue (r .priceOfDeliveryGas)) e.newDeliveryGasPrice))
          |>.set .priceOfAckGas
            (.bigNumber (max (decimalValue (r .priceOfAckGas)) e.newAckGasPrice))).stringify
      else some r := by
  rw [RegisterCall.step_bountyIncreased_some,
    increasedBounty_eq e r hr.priceOfDeliveryGas hr.priceOfAckGas]
  split_ifs <;> rfl

theorem wf_increased (r : BountyJson) (hr : Wf r) (x y : Nat) :
    Wf (JsObject.ofJson r |>.set .priceOfDeliveryGas (.bigNumber x)
      |>.set .priceOfAckGas (.bigNumber y)).stringify := by
  constructor <;> simp [hr.status, hr.targetDelta]

/-- **Every register call keeps `Wf`.** -/
theorem step_wf (c : WorkerCall) {r : Option BountyJson} (hr : WfOpt r) : WfOpt (c.step r) := by
  rcases c with ⟨chainId, _ | e | e | e⟩
  · exact wf_placed chainId _ r hr
  · exact wf_delivered chainId e r hr
  · exact wf_claimed chainId e r hr
  · cases r with
    | none => constructor <;> simp [WorkerCall.step, increasedBaseline]
    | some r =>
      simp only [WorkerCall.step, step_increased chainId e r hr]
      split_ifs
      · exact wf_increased r hr _ _
      · exact hr

/-- **Every record a run leaves is well formed.** -/
theorem replay_wf (cs : List WorkerCall) {r : Option BountyJson} (hr : WfOpt r) :
    WfOpt (replay cs r) := by
  induction cs generalizing r with
  | nil => exact hr
  | cons c cs ih => exact ih (step_wf c hr)

/-! ## §4. What a run publishes on `relayer:key`.

`Store.set` writes the key, then publishes `{ key, action: 'set' }`; a subscriber re-reads the
keys it is told of.  Over any run, what is published before is kept, what is added names only
the calls' bounty keys, and every key whose record changed is named. -/

/-- A call publishes one `set` of its bounty key when it writes, and nothing otherwise. -/
theorem RegisterCall.apply_keyChannel (chainId : String) (c : RegisterCall) (db : Redis) :
    (c.apply chainId db).keyChannel = db.keyChannel ++
      ((c.write? chainId (db.get (bountyKey c.messageIdentifier))).map
        fun _ => ⟨bountyKey c.messageIdentifier, "set"⟩).toList := by
  rw [RegisterCall.apply_eq]
  cases c.write? chainId (db.get (bountyKey c.messageIdentifier)) <;> simp

/-- A call that changes the record at a key publishes a `set` of that key. -/
theorem RegisterCall.notifies_of_get_ne (chainId : String) (c : RegisterCall) (db : Redis)
    (key : String) (h : (c.apply chainId db).get key ≠ db.get key) :
    (c.write? chainId (db.get (bountyKey c.messageIdentifier))).isSome ∧
      key = bountyKey c.messageIdentifier := by
  rw [RegisterCall.apply_eq] at h
  cases hw : c.write? chainId (db.get (bountyKey c.messageIdentifier)) with
  | none => simp only [hw, ne_eq, not_true_eq_false] at h
  | some w =>
    simp only [hw, Redis.set_get, ne_eq, ite_eq_right_iff, Classical.not_imp] at h
    exact ⟨rfl, h.1⟩

/-- **Every change is notified**: over any run from any database, the notifications published
before are kept; those the run adds are `set`s, each of some call's bounty key; and every key
whose record the run changed is named by one of them. -/
theorem applyAll_keyChannel (cs : List WorkerCall) (db : Redis) :
    ∃ added, (applyAll cs db).keyChannel = db.keyChannel ++ added ∧
      (∀ n ∈ added, n.action = "set" ∧ ∃ c ∈ cs, n.key = bountyKey c.call.messageIdentifier) ∧
      ∀ key, (applyAll cs db).get key ≠ db.get key → ⟨key, "set"⟩ ∈ added := by
  induction cs generalizing db with
  | nil => exact ⟨[], by simp [applyAll], by simp, fun key h => absurd rfl h⟩
  | cons c cs ih =>
    obtain ⟨added, hch, hset, hchg⟩ := ih (c.apply db)
    let first := ((c.call.write? c.chainId (db.get (bountyKey c.call.messageIdentifier))).map
      fun _ => (⟨bountyKey c.call.messageIdentifier, "set"⟩ : KeyNotification)).toList
    have hfirst : (c.apply db).keyChannel = db.keyChannel ++ first :=
      RegisterCall.apply_keyChannel c.chainId c.call db
    refine ⟨first ++ added, ?channel, ?sets, ?changes⟩
    case channel => rw [applyAll, List.foldl_cons, ← applyAll, hch, hfirst, List.append_assoc]
    case sets =>
      intro n hn
      rcases List.mem_append.1 hn with hn | hn
      · obtain ⟨-, rfl⟩ : (∃ w, _ = some w) ∧ _ = n := by simpa [first] using hn
        exact ⟨rfl, c, List.mem_cons_self c cs, rfl⟩
      · obtain ⟨hact, c', hc', hk⟩ := hset n hn
        exact ⟨hact, c', List.mem_cons_of_mem c hc', hk⟩
    case changes =>
      intro key hkey
      by_cases hc : (c.apply db).get key = db.get key
      · exact List.mem_append_right _ (hchg key (hc ▸ hkey))
      · obtain ⟨hw, rfl⟩ := RegisterCall.notifies_of_get_ne c.chainId c.call db key hc
        obtain ⟨w, hw⟩ := Option.isSome_iff_exists.1 hw
        exact List.mem_append_left _ (by simp [first, hw])

end GeneralisedRelayer
