/-
  GeneralisedRelayer.Collector.AmbJson — `setAmb` of the message the LayerZero sniffer builds, as
  the code runs it: `JSON.stringify(amb)`, then the `set`.

  `decodePacket` decodes the packet with ethers 6's `AbiCoder`, which returns every `uintN` as a
  BigInt: the packet's `srcEid` and `dstEid` are BigInts, and the AMB literal holds them as
  `sourceChain` and `destinationChain`.  `store.lib.ts` gives a `toJSON` to ethers 5's
  `BigNumber` only, and ECMAScript's `SerializeJSONProperty` throws a `TypeError` on a BigInt that
  has none.  `setAmb` evaluates `JSON.stringify(amb)` before it calls `set`, so it throws with
  nothing written, and `handleLogPacketSentEvent`'s `catch` only logs.  The handler's next call,
  `setPayloadLayerZeroAmb`, names a method `Store` does not define, and would throw a `TypeError`;
  it is never reached.  A packet whose payload is not UTF-8 is lost earlier, at decoding.

  Main results:
    * `packet_dropped_invalid_utf8` — a packet whose payload is the byte `0xff` ends the handler's
      `try` block at decoding.
    * `handle_decodes_text_then_throws` — a packet carrying UTF-8 text is decoded right, and the
      block ends at `setAmb`'s throw.
    * `snifferRun_stores_nothing` — whatever the configuration, the tips and the logs, a run of
      the LayerZero sniffer leaves redis as it was.
-/
import GeneralisedRelayer.Collector.LayerZero
import GeneralisedRelayer.Collector.Scan
import GeneralisedRelayer.Store.TextStore

namespace GeneralisedRelayer

/-! ## §1. `JSON.stringify` of an object literal. -/

/-- A property value of an object literal, as `JSON.stringify` meets it. -/
inductive JsProperty where
  /-- A value `JSON.stringify` writes. -/
  | value (v : JsValue)
  /-- An ECMAScript BigInt; nothing under `src/` gives `BigInt.prototype` a `toJSON`. -/
  | bigInt (n : Nat)
  deriving DecidableEq, Repr

/-- `SerializeJSONProperty` of one value; a BigInt without `toJSON` throws V8's `TypeError`. -/
def serializeProperty : JsProperty → Except String (List Char)
  | .value v => pure (serializeJsValue v)
  | .bigInt _ => throw "Do not know how to serialize a BigInt"

/-- `JSON.stringify` of an object literal: `SerializeJSONObject` over its properties in order, the
first that throws ending it. -/
def stringifyLiteral (props : List (String × JsProperty)) : Except String String := do
  let members ← props.mapM fun p => do pure (p.1, ← serializeProperty p.2)
  pure ⟨serializeObject members⟩

/-- A literal holding a BigInt is never written: `JSON.stringify` throws on it, wherever it is. -/
theorem stringifyLiteral_bigInt (props : List (String × JsProperty)) (k : String) (n : Nat)
    (h : (k, .bigInt n) ∈ props) :
    stringifyLiteral props = .error "Do not know how to serialize a BigInt" := by
  suffices hm : props.mapM (fun p => do pure (p.1, ← serializeProperty p.2))
      = .error "Do not know how to serialize a BigInt" by
    rw [stringifyLiteral, hm]; rfl
  induction props with
  | nil => simp at h
  | cons p props ih =>
    obtain ⟨k', v⟩ := p
    cases v with
    | bigInt m => rfl
    | value v =>
      have hk : (k, JsProperty.bigInt n) ∈ props := by simpa using h
      rw [List.mapM_cons, ih hk]
      rfl

/-! ## §2. The sniffer's `setAmb`. -/

/-- `decodePacket`'s result as ethers 6 decodes it: the `uint64` and `uint32` fields as BigInts,
the addresses checksummed, `guid` and `message` as hex. -/
structure DecodedPacket where
  nonce : Nat
  srcEid : Nat
  sender : String
  dstEid : Nat
  receiver : String
  guid : String
  message : String
  deriving DecidableEq, Repr

/-- A queried log: its block and transaction, and `decodePacket` of the `PacketSent` event it
holds (`none` when `parseLog` finds none). -/
structure PacketLog where
  blockNumber : Nat
  blockHash : String
  transactionHash : String
  packet : Option DecodedPacket
  deriving DecidableEq, Repr

/-- The object literal `handleLogPacketSentEvent` hands to `setAmb`, in its property order. -/
def ambLiteral (log : PacketLog) (packet : DecodedPacket) (decodedMessage : GARPDecodedMessage)
    (transactionBlockNumber : Nat) : List (String × JsProperty) :=
  [("messageIdentifier", .value (.json (.str decodedMessage.messageIdentifier))),
    ("amb", .value (.json (.str "LayerZero"))),
    ("sourceChain", .bigInt packet.srcEid),
    ("destinationChain", .bigInt packet.dstEid),
    ("sourceEscrow", .value (.json (.str packet.sender))),
    ("payload", .value (.json (.str decodedMessage.payload))),
    ("recoveryContext", .value (.json (.str decodedMessage.context))),
    ("blockNumber", .value (.number (.num log.blockNumber))),
    ("transactionBlockNumber", .value (.number (.num transactionBlockNumber))),
    ("blockHash", .value (.json (.str log.blockHash))),
    ("transactionHash", .value (.json (.str log.transactionHash)))]

/-- `Store.setAmb`: the key from the message's identifier, `JSON.stringify(amb)`, then `set` of the
text there, which publishes the key. -/
def Store.setAmbText (messageIdentifier : String) (amb : List (String × JsProperty))
    (db : TextRedis) : Except String TextRedis := do
  let key := ambKey messageIdentifier
  let text ← stringifyLiteral amb
  pure { db with
    ambs := Function.update db.ambs key (some text)
    keyChannel := db.keyChannel ++ [⟨key, "set"⟩] }

/-- What calling `this.store.setPayloadLayerZeroAmb(...)` throws: `store.lib.ts` defines no such
method, so V8 raises a `TypeError`. -/
def setPayloadLayerZeroAmbError : String := "this.store.setPayloadLayerZeroAmb is not a function"

/-- The `try` block of `handleLogPacketSentEvent`: redis as the block leaves it, and what it
throws, if anything.  It decodes the packet's message; for a packet from `incentivesAddress` it
calls `setAmb` with the AMB literal, then `setPayloadLayerZeroAmb`.  A write made before a throw
stays. -/
def handleLogPacketSentEventTry (incentivesAddress : String)
    (keccak256 : List UInt8 → List UInt8) (getTransactionBlockNumber : Nat → Nat)
    (log : PacketLog) (db : TextRedis) : TextRedis × Option String :=
  match log.packet with
  | none => (db, none)
  | some packet =>
    match decodeMessageWithContext keccak256 packet.message with
    | .error e => (db, some e)
    | .ok decodedMessage =>
      if packet.sender = incentivesAddress then
        match Store.setAmbText decodedMessage.messageIdentifier
            (ambLiteral log packet decodedMessage (getTransactionBlockNumber log.blockNumber))
            db with
        | .ok db' => (db', some setPayloadLayerZeroAmbError)
        | .error e => (db, some e)
      else (db, none)

/-- `handleLogPacketSentEvent`: its `try` block, whose `catch` only logs what the block threw. -/
def handleLogPacketSentEventText (incentivesAddress : String)
    (keccak256 : List UInt8 → List UInt8) (getTransactionBlockNumber : Nat → Nat)
    (log : PacketLog) (db : TextRedis) : TextRedis :=
  (handleLogPacketSentEventTry incentivesAddress keccak256 getTransactionBlockNumber log db).1

/-- The sniffer's `setAmb` always throws: `sourceChain` is a BigInt. -/
theorem setAmbText_ambLiteral (messageIdentifier : String) (log : PacketLog)
    (packet : DecodedPacket) (decodedMessage : GARPDecodedMessage) (transactionBlockNumber : Nat)
    (db : TextRedis) :
    Store.setAmbText messageIdentifier
        (ambLiteral log packet decodedMessage transactionBlockNumber) db
      = .error "Do not know how to serialize a BigInt" := by
  rw [Store.setAmbText,
    stringifyLiteral_bigInt _ "sourceChain" packet.srcEid (by simp [ambLiteral])]
  rfl

/-- The handler leaves redis as it was: no branch of its `try` block writes. -/
theorem handleLogPacketSentEventText_eq (incentivesAddress : String)
    (keccak256 : List UInt8 → List UInt8) (getTransactionBlockNumber : Nat → Nat)
    (log : PacketLog) (db : TextRedis) :
    handleLogPacketSentEventText incentivesAddress keccak256 getTransactionBlockNumber log db
      = db := by
  unfold handleLogPacketSentEventText handleLogPacketSentEventTry
  split
  · rfl
  · split
    · rfl
    · split_ifs
      · rw [setAmbText_ambLiteral]
      · rfl

/-! ## §3. Where a packet is lost. -/

/-- **A packet whose payload is not UTF-8 is lost at decoding**, wherever it comes from: the
`try` block throws what `toUtf8String` throws, before `setAmb`, and redis is as it was. -/
theorem handle_drops_non_utf8 (incentivesAddress : String) (keccak256 : List UInt8 → List UInt8)
    (getTransactionBlockNumber : Nat → Nat) (db : TextRedis) (log : PacketLog)
    (packet : DecodedPacket) (hp : log.packet = some packet) (c : UInt8) (id s d p : List UInt8)
    (hid : id.length = 32) (hs : s.length = 20) (hd : d.length = 20)
    (hm : packet.message = hexlify (c :: (id ++ (s ++ (d ++ p))))) (e : String)
    (he : toUtf8String p = .error e) :
    decodeMessageWithContext keccak256 packet.message = .error e ∧
      handleLogPacketSentEventTry incentivesAddress keccak256 getTransactionBlockNumber log db =
        (db, some e) := by
  have hdec : decodeMessageWithContext keccak256 packet.message = .error e := by
    rw [hm, decodeMessageWithContext_eq keccak256 c id s d p hid hs hd, he]; rfl
  exact ⟨hdec, by simp [handleLogPacketSentEventTry, hp, hdec]⟩

/-- **A packet with a payload that is not UTF-8 is dropped**: the message below has a context
byte, a 32-byte identifier, two 20-byte addresses and the payload byte `0xff`, and the packet
comes from `incentivesAddress`; `toUtf8String` throws `BAD_PREFIX`, the `try` block ends there,
and the `catch` leaves redis as it was. -/
theorem packet_dropped_invalid_utf8 (keccak256 : List UInt8 → List UInt8)
    (getTransactionBlockNumber : Nat → Nat) (db : TextRedis) :
    let message := hexlify (1 :: (List.replicate 32 0x11 ++ (List.replicate 20 0x22 ++
      (List.replicate 20 0x33 ++ [0xff]))))
    let packet : DecodedPacket := ⟨1, 30101, "0x1111111111111111111111111111111111111111", 30110,
      "0x2222222222222222222222222222222222222222", "0x9d", message⟩
    let log : PacketLog := ⟨100, "0xb10c", "0x7a", some packet⟩
    decodeMessageWithContext keccak256 message = .error (utf8Error 0 "BAD_PREFIX") ∧
      handleLogPacketSentEventTry "0x1111111111111111111111111111111111111111" keccak256
        getTransactionBlockNumber log db = (db, some (utf8Error 0 "BAD_PREFIX")) ∧
      handleLogPacketSentEventText "0x1111111111111111111111111111111111111111" keccak256
        getTransactionBlockNumber log db = db := by
  intro message packet log
  obtain ⟨hdec, htry⟩ := handle_drops_non_utf8 _ keccak256 getTransactionBlockNumber db log
    packet rfl 1 (List.replicate 32 0x11) (List.replicate 20 0x22) (List.replicate 20 0x33) [0xff]
    (List.length_replicate _ _) (List.length_replicate _ _) (List.length_replicate _ _) rfl _
    (toUtf8String_ff [])
  exact ⟨hdec, htry, by rw [handleLogPacketSentEventText, htry]⟩

/-- **A packet carrying UTF-8 text is decoded right, then lost at `setAmb`**: for a context byte
`c`, a 32-byte identifier, two 20-byte addresses and the UTF-8 encoding of any text, from
`incentivesAddress`, the decoder gives the identifier in hex, the addresses in checksum form and
the text back; the `try` block then ends at `setAmb`, whose `JSON.stringify` throws on the
BigInt chain ids, with redis as it was. -/
theorem handle_decodes_text_then_throws (incentivesAddress : String)
    (keccak256 : List UInt8 → List UInt8) (getTransactionBlockNumber : Nat → Nat)
    (db : TextRedis) (log : PacketLog) (packet : DecodedPacket) (hp : log.packet = some packet)
    (hsender : packet.sender = incentivesAddress) (c : UInt8) (id s d : List UInt8) (text : String)
    (hid : id.length = 32) (hs : s.length = 20) (hd : d.length = 20)
    (hm : packet.message = hexlify (c :: (id ++ (s ++ (d ++ text.toUTF8.data.toList))))) :
    decodeMessageWithContext keccak256 packet.message =
        .ok ⟨contextHex (some c), hexlify id, getChecksumAddress keccak256 (s.flatMap byteHex),
          getChecksumAddress keccak256 (d.flatMap byteHex), text⟩ ∧
      handleLogPacketSentEventTry incentivesAddress keccak256 getTransactionBlockNumber log db =
        (db, some "Do not know how to serialize a BigInt") := by
  have htext : toUtf8String text.toUTF8.data.toList = .ok text := by
    rw [toUtf8String, getUtf8CodePoints_toUTF8]
    exact congrArg Except.ok (mk_map_ofNat_toNat text)
  have hdec : decodeMessageWithContext keccak256 packet.message =
      .ok ⟨contextHex (some c), hexlify id, getChecksumAddress keccak256 (s.flatMap byteHex),
        getChecksumAddress keccak256 (d.flatMap byteHex), text⟩ := by
    rw [hm, decodeMessageWithContext_eq keccak256 c id s d _ hid hs hd, htext]; rfl
  exact ⟨hdec, by simp [handleLogPacketSentEventTry, hp, hdec, hsender, setAmbText_ambLiteral]⟩

/-- The packet of `packet_dropped_invalid_utf8` with the payload `gm ✓`, whose last character
takes three bytes: decoded with that payload, then lost at `setAmb`. -/
theorem packet_decodes_then_throws :
    let keccak256 : List UInt8 → List UInt8 := fun _ => List.replicate 32 0
    let message := hexlify (1 :: (List.replicate 32 0x11 ++ (List.replicate 20 0x22 ++
      (List.replicate 20 0x33 ++ "gm ✓".toUTF8.data.toList))))
    let packet : DecodedPacket := ⟨1, 30101, "0x1111111111111111111111111111111111111111", 30110,
      "0x2222222222222222222222222222222222222222", "0x9d", message⟩
    let log : PacketLog := ⟨100, "0xb10c", "0x7a", some packet⟩
    (log.packet = some packet ∧ packet.sender = "0x1111111111111111111111111111111111111111" ∧
      (List.replicate 32 (0x11 : UInt8)).length = 32 ∧
      (List.replicate 20 (0x22 : UInt8)).length = 20 ∧
      (List.replicate 20 (0x33 : UInt8)).length = 20) ∧
    decodeMessageWithContext keccak256 packet.message =
        .ok ⟨"1", hexlify (List.replicate 32 0x11),
          getChecksumAddress keccak256 ((List.replicate 20 0x22).flatMap byteHex),
          getChecksumAddress keccak256 ((List.replicate 20 0x33).flatMap byteHex), "gm ✓"⟩ ∧
      handleLogPacketSentEventTry "0x1111111111111111111111111111111111111111" keccak256
        (· + 1) log TextRedis.empty =
        (TextRedis.empty, some "Do not know how to serialize a BigInt") := by
  intro keccak256 message packet log
  exact ⟨⟨rfl, rfl, List.length_replicate _ _, List.length_replicate _ _,
      List.length_replicate _ _⟩,
    handle_decodes_text_then_throws "0x1111111111111111111111111111111111111111" keccak256
      (· + 1) TextRedis.empty log packet rfl rfl 1
      (List.replicate 32 0x11) (List.replicate 20 0x22) (List.replicate 20 0x33) "gm ✓"
      (List.length_replicate _ _) (List.length_replicate _ _) (List.length_replicate _ _) rfl⟩

/-! ## §4. The sniffer's run. -/

/-- One event of the run on redis: a log goes to `handleLogPacketSentEvent`, whose `catch` takes
every throw, so the loop never sees one; the other events leave redis alone. -/
def snifferStep (incentivesAddress : String) (keccak256 : List UInt8 → List UInt8)
    (getTransactionBlockNumber : Nat → Nat) (db : TextRedis) : ScanEvent PacketLog → TextRedis
  | .handle log _ =>
    handleLogPacketSentEventText incentivesAddress keccak256 getTransactionBlockNumber log db
  | _ => db

/-- The LayerZero sniffer with its redis: the events of `SendMessageSnifferWorker.run`, and redis
after each of them in turn. -/
def snifferRun (cfg : ScanConfig) (incentivesAddress : String)
    (keccak256 : List UInt8 → List UInt8) (getTransactionBlockNumber : Nat → Nat)
    (ticks : List (Tick PacketLog)) (db : TextRedis) : List (ScanEvent PacketLog) × TextRedis :=
  let events := SendMessageSnifferWorker.run cfg (fun _ => .ok ()) ticks
  (events, events.foldl (snifferStep incentivesAddress keccak256 getTransactionBlockNumber) db)

theorem snifferStep_eq (incentivesAddress : String) (keccak256 : List UInt8 → List UInt8)
    (getTransactionBlockNumber : Nat → Nat) (db : TextRedis) (event : ScanEvent PacketLog) :
    snifferStep incentivesAddress keccak256 getTransactionBlockNumber db event = db := by
  cases event with
  | handle log _ => exact handleLogPacketSentEventText_eq _ _ getTransactionBlockNumber log db
  | _ => rfl

/-- **The LayerZero sniffer stores nothing**: whatever the configuration, the tips the monitor
reports and the logs `getLogs` returns, redis after the run is redis before it. -/
theorem snifferRun_stores_nothing (cfg : ScanConfig) (incentivesAddress : String)
    (keccak256 : List UInt8 → List UInt8) (getTransactionBlockNumber : Nat → Nat)
    (ticks : List (Tick PacketLog)) (db : TextRedis) :
    (snifferRun cfg incentivesAddress keccak256 getTransactionBlockNumber ticks db).2 = db := by
  show List.foldl _ db _ = db
  generalize SendMessageSnifferWorker.run cfg (fun _ => .ok ()) ticks = events
  induction events generalizing db with
  | nil => rfl
  | cons event events ih => rw [List.foldl_cons, snifferStep_eq, ih]

end GeneralisedRelayer
