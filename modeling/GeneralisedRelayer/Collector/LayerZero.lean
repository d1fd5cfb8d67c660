/-
  GeneralisedRelayer.Collector.LayerZero — `decodeMessageWithContext`, the LayerZero sniffer's
  decoder of the GARP message a `PacketSent` packet carries.

  One context byte, a 32-byte message identifier, the 20-byte sender and destination addresses,
  then the payload, read as UTF-8 text with ethers' `toUtf8String`.  Keccak-256, which the
  checksum of an address uses, is a parameter.  The handler that calls the decoder, with the
  packet as ethers 6 decodes it, is `Collector.AmbJson`'s.

  Main result:
    * `decodeMessageWithContext_eq` — on a well-formed message, the identifier, sender and
      destination are the hex and checksum forms of their slices, and the payload is the
      decoded text of the rest, or `toUtf8String`'s throw.
-/
import GeneralisedRelayer.Collector.Bytes
import GeneralisedRelayer.Collector.Utf8

namespace GeneralisedRelayer

/-! ## §1. The GARP message. -/

/-- `GARPDecodedMessage`. -/
structure GARPDecodedMessage where
  context : String
  messageIdentifier : String
  sender : String
  destination : String
  payload : String
  deriving DecidableEq, Repr

/-- `(messageBytes[0] || '').toString(16)`: the first byte in hex, no padding; empty when there
is no first byte, or when it is `0`, which `||` reads as false. -/
def contextHex : Option UInt8 → String
  | some b => if b.toNat = 0 then "" else ⟨Nat.toDigits 16 b.toNat⟩
  | none => ""

/-- `decodeMessageWithContext`: byte 0 the context, bytes 1 to 32 the message identifier, 33 to
52 the sender, 53 to 72 the destination, and the rest the payload text. -/
def decodeMessageWithContext (keccak256 : List UInt8 → List UInt8) (encodedMessage : String) :
    Except String GARPDecodedMessage := do
  let messageBytes ← arrayify encodedMessage
  let context := contextHex messageBytes.head?
  let messageIdentifier := hexlify ((messageBytes.drop 1).take 32)
  let sender ← getAddress keccak256 (hexlify ((messageBytes.drop 33).take 20))
  let destination ← getAddress keccak256 (hexlify ((messageBytes.drop 53).take 20))
  let payload ← toUtf8String (messageBytes.drop 73)
  pure ⟨context, messageIdentifier, sender, destination, payload⟩

/-- **The fields of a well-formed message**: for a context byte `c`, a 32-byte identifier, two
20-byte addresses and payload bytes `p`, the decoding succeeds exactly when `p` is UTF-8, and
then gives the identifier in hex, the addresses in checksum form and the payload text. -/
theorem decodeMessageWithContext_eq (keccak256 : List UInt8 → List UInt8) (c : UInt8)
    (id s d p : List UInt8) (hid : id.length = 32) (hs : s.length = 20) (hd : d.length = 20) :
    decodeMessageWithContext keccak256 (hexlify (c :: (id ++ (s ++ (d ++ p))))) =
      (fun payload => ⟨contextHex (some c), hexlify id,
        getChecksumAddress keccak256 (s.flatMap byteHex),
        getChecksumAddress keccak256 (d.flatMap byteHex), payload⟩) <$> toUtf8String p := by
  have h1 : ((c :: (id ++ (s ++ (d ++ p)))).drop 1).take 32 = id := List.take_left' hid
  have h2 : ((c :: (id ++ (s ++ (d ++ p)))).drop 33).take 20 = s := by
    show ((id ++ (s ++ (d ++ p))).drop 32).take 20 = s
    rw [List.drop_left' hid, List.take_left' hs]
  have h3 : ((c :: (id ++ (s ++ (d ++ p)))).drop 53).take 20 = d := by
    show ((id ++ (s ++ (d ++ p))).drop 52).take 20 = d
    rw [show 52 = id.length + 20 by omega, List.drop_append, List.drop_left' hs, List.take_left' hd]
  have h4 : (c :: (id ++ (s ++ (d ++ p)))).drop 73 = p := by
    show (id ++ (s ++ (d ++ p))).drop 72 = p
    rw [show 72 = id.length + (s.length + 20) by omega, List.drop_append, List.drop_append,
      List.drop_left' hd]
  simp only [decodeMessageWithContext, arrayify_hexlify, bind, Except.bind, h1, h2, h3, h4,
    getAddress_hexlify keccak256 s hs, getAddress_hexlify keccak256 d hd, List.head?_cons]
  cases toUtf8String p <;> rfl

end GeneralisedRelayer
