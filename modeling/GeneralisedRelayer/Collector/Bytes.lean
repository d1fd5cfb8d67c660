/-
  GeneralisedRelayer.Collector.Bytes — the byte and text conversions of the LayerZero sniffer.

  `decodeMessageWithContext` reads a hex string into bytes with ethers 5's `arrayify`, writes
  slices of them back with ethers 6's `hexlify`, and checks the two addresses with `getAddress`.
  These are library functions, modelled from their behaviour; Keccak-256, which only the
  checksum of an address uses, is a parameter.  The payload's text is read in
  `GeneralisedRelayer.Collector.Utf8`.

  Main results:
    * `arrayify_hexlify` — `hexlify` then `arrayify` gives the bytes back.
    * `getAddress_hexlify` — `getAddress` of a hexlified 20-byte slice is its checksum form.
-/
import Mathlib.Data.List.Basic

namespace GeneralisedRelayer

/-! ## §1. Hex strings. -/

/-- A hex digit, lowercase. -/
def hexDigit (n : Nat) : Char := Nat.digitChar n

/-- The two lowercase hex digits of a byte, high half first. -/
def byteHex (b : UInt8) : List Char := [hexDigit (b.toNat / 16), hexDigit (b.toNat % 16)]

/-- ethers 6 `hexlify` of bytes: `0x`, then two lowercase digits per byte. -/
def hexlify (bytes : List UInt8) : String := ⟨'0' :: 'x' :: bytes.flatMap byteHex⟩

/-- The value of a hex digit of either case. -/
def hexValue (c : Char) : Option Nat :=
  if '0' ≤ c ∧ c ≤ '9' then some (c.toNat - '0'.toNat)
  else if 'a' ≤ c ∧ c ≤ 'f' then some (c.toNat - 'a'.toNat + 10)
  else if 'A' ≤ c ∧ c ≤ 'F' then some (c.toNat - 'A'.toNat + 10)
  else none

/-- `[0-9a-fA-F]` -/
def isHexDigit (c : Char) : Bool := (hexValue c).isSome

/-- Two digits at a time, each pair a byte. -/
def hexPairs : List Char → List UInt8
  | hi :: lo :: rest =>
    UInt8.ofNat (16 * (hexValue hi).getD 0 + (hexValue lo).getD 0) :: hexPairs rest
  | _ => []

/-- ethers 5 `arrayify` of a string: a `0x` hex string, of even length, read two digits to a
byte. -/
def arrayify (value : String) : Except String (List UInt8) :=
  match value.data with
  | '0' :: 'x' :: hex =>
    if hex.all isHexDigit then
      if hex.length % 2 = 1 then .error "hex data is odd-length" else .ok (hexPairs hex)
    else .error "invalid arrayify value"
  | _ => .error "invalid arrayify value"

theorem hexValue_hexDigit : ∀ d < 16, hexValue (hexDigit d) = some d := by
  decide

theorem byte_halves (b : UInt8) : b.toNat / 16 < 16 ∧ b.toNat % 16 < 16 := by
  have := UInt8.toNat_lt_size b
  simp only [UInt8.size] at this
  omega

theorem isHexDigit_byteHex (b : UInt8) : ∀ c ∈ byteHex b, isHexDigit c = true := by
  simp [byteHex, isHexDigit, hexValue_hexDigit _ (byte_halves b).1,
    hexValue_hexDigit _ (byte_halves b).2]

theorem hexPairs_flatMap_byteHex (bytes : List UInt8) :
    hexPairs (bytes.flatMap byteHex) = bytes := by
  induction bytes with
  | nil => rfl
  | cons b bytes ih =>
    have hb : UInt8.ofNat (16 * (b.toNat / 16) + b.toNat % 16) = b :=
      UInt8.eq_of_val_eq (Fin.ext (by
        rw [Nat.div_add_mod]; exact UInt8.toNat_ofNat_of_lt (UInt8.toNat_lt_size b)))
    rw [List.flatMap_cons]
    show hexPairs (hexDigit (b.toNat / 16) :: hexDigit (b.toNat % 16) :: bytes.flatMap byteHex) = _
    rw [hexPairs, hexValue_hexDigit _ (byte_halves b).1, hexValue_hexDigit _ (byte_halves b).2,
      Option.getD_some, Option.getD_some, hb, ih]

theorem length_flatMap_byteHex (bytes : List UInt8) :
    (bytes.flatMap byteHex).length = 2 * bytes.length := by
  induction bytes with
  | nil => rfl
  | cons b bytes ih => simp [List.flatMap_cons, byteHex, ih]; omega

/-- **`arrayify` reads back what `hexlify` writes.** -/
theorem arrayify_hexlify (bytes : List UInt8) : arrayify (hexlify bytes) = .ok bytes := by
  have hall : (bytes.flatMap byteHex).all isHexDigit = true := by
    simpa [List.all_eq_true] using fun b _ => isHexDigit_byteHex b
  have hlen : (bytes.flatMap byteHex).length % 2 = 0 := by
    rw [length_flatMap_byteHex]; omega
  simp only [arrayify, hexlify, hall, hlen, if_true, hexPairs_flatMap_byteHex, Nat.zero_ne_one,
    if_false]

/-! ## §2. Addresses. -/

/-- `getChecksumAddress`: the digits in lowercase, each capitalised where its half of the
Keccak-256 hash of the lowercase digits' ASCII codes is at least 8. -/
def getChecksumAddress (keccak256 : List UInt8 → List UInt8) (digits : List Char) : String :=
  let chars := digits.map Char.toLower
  let hashed := keccak256 (chars.map fun c => UInt8.ofNat c.toNat)
  let half (i : Nat) : Nat :=
    let h := (hashed.getD (i / 2) 0).toNat
    if i % 2 = 0 then h / 16 else h % 16
  ⟨'0' :: 'x' :: chars.enum.map fun (i, c) => if half i ≥ 8 then c.toUpper else c⟩

/-- A digit string holds both an upper- and a lowercase letter. -/
def mixedCase (digits : List Char) : Bool :=
  digits.any (fun c => 'A' ≤ c ∧ c ≤ 'F') && digits.any (fun c => 'a' ≤ c ∧ c ≤ 'f')

/-- ethers 6 `getAddress` of a hex address: 40 hex digits behind an optional `0x`, returned in
checksum form; an address in mixed case must already be in that form. -/
def getAddress (keccak256 : List UInt8 → List UInt8) (address : String) : Except String String :=
  let digits := match address.data with
    | '0' :: 'x' :: ds => ds
    | ds => ds
  if digits.length = 40 ∧ digits.all isHexDigit then
    let result := getChecksumAddress keccak256 digits
    if mixedCase digits ∧ result ≠ ⟨'0' :: 'x' :: digits⟩ then .error "bad address checksum"
    else .ok result
  else .error "invalid address"

theorem hexDigit_not_upper : ∀ d < 16, ¬('A' ≤ hexDigit d ∧ hexDigit d ≤ 'F') := by
  decide

/-- `hexlify` writes lowercase letters only. -/
theorem mixedCase_flatMap_byteHex (bytes : List UInt8) :
    mixedCase (bytes.flatMap byteHex) = false := by
  have : (bytes.flatMap byteHex).any (fun c => 'A' ≤ c ∧ c ≤ 'F') = false := by
    simp only [List.any_eq_false, List.mem_flatMap, byteHex, List.mem_cons, List.mem_singleton,
      List.not_mem_nil, or_false, decide_eq_true_eq]
    rintro c ⟨b, -, rfl | rfl⟩
    · exact hexDigit_not_upper _ (byte_halves b).1
    · exact hexDigit_not_upper _ (byte_halves b).2
  rw [mixedCase, this, Bool.false_and]

/-- **A hexlified 20-byte slice is an address**: `getAddress` returns its checksum form. -/
theorem getAddress_hexlify (keccak256 : List UInt8 → List UInt8) (bytes : List UInt8)
    (h : bytes.length = 20) :
    getAddress keccak256 (hexlify bytes) =
      .ok (getChecksumAddress keccak256 (bytes.flatMap byteHex)) := by
  have hall : (bytes.flatMap byteHex).all isHexDigit = true := by
    simpa [List.all_eq_true] using fun b _ => isHexDigit_byteHex b
  have hlen : (bytes.flatMap byteHex).length = 40 := by rw [length_flatMap_byteHex, h]
  simp only [getAddress, hexlify, hlen, hall, mixedCase_flatMap_byteHex, and_self, if_true,
    Bool.false_eq_true, false_and, if_false]

end GeneralisedRelayer
