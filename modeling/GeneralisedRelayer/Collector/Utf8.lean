/-
  GeneralisedRelayer.Collector.Utf8 — ethers' `toUtf8String`, and the UTF-8 text it reads back.

  The LayerZero sniffer reads a message's payload with ethers 6's `toUtf8String`, whose default
  error function throws at the first malformed UTF-8 sequence.  The decoder is modelled from
  ethers' `getUtf8CodePoints`: a lead byte announces up to three continuation bytes, six bits
  each, and a sequence that overruns, leaves the Unicode range, encodes a UTF-16 surrogate or
  is overlong is an error.

  The encoding it reads back is RFC 3629's (`utf8Encode`), which is core Lean's
  `String.utf8EncodeChar` (`utf8EncodeChar_eq`).

  Main results:
    * `toUtf8String_ff` — `toUtf8String` throws on the byte `0xff`, which no UTF-8 text has.
    * `getUtf8CodePoints_encode` — the encoding of one scalar value decodes to it.
    * `toUtf8String_toUTF8` — `toUtf8String` reads back `String.toUTF8` of every string.
-/
import Mathlib.Data.List.Basic

namespace GeneralisedRelayer

/-! ## §1. The decoder. -/

/-- The message of ethers 6's default UTF-8 error function. -/
def utf8Error (offset : Nat) (reason : String) : String :=
  "invalid codepoint at offset " ++ toString offset ++ "; " ++ reason

/-- What a lead byte announces: the number of continuation bytes, and the largest code point a
shorter sequence writes. -/
def utf8Lead (c : Nat) : Option (Nat × Nat) :=
  if c &&& 0xe0 = 0xc0 then some (1, 0x7f)
  else if c &&& 0xf0 = 0xe0 then some (2, 0x7ff)
  else if c &&& 0xf8 = 0xf0 then some (3, 0xffff)
  else none

/-- The continuation bytes of a sequence folded into its code point; `offset` is the index of
the first. -/
def utf8Continue (res offset : Nat) : List UInt8 → Except String Nat
  | [] => .ok res
  | b :: bs =>
    if b.toNat &&& 0xc0 ≠ 0x80 then .error (utf8Error offset "MISSING_CONTINUE")
    else utf8Continue ((res <<< 6) ||| (b.toNat &&& 0x3f)) (offset + 1) bs

/-- `getUtf8CodePoints` with the error function that throws: the code points of `bytes`, the
first at index `offset`; `fuel` bounds the loop's turns. -/
def getUtf8CodePoints : (fuel offset : Nat) → List UInt8 → Except String (List Nat)
  | _, _, [] => .ok []
  | 0, offset, _ :: _ => .error (utf8Error offset "OVERRUN")
  | fuel + 1, offset, b :: bs =>
    let c := b.toNat
    if c >>> 7 = 0 then (c :: ·) <$> getUtf8CodePoints fuel (offset + 1) bs
    else
      match utf8Lead c with
      | none => .error (utf8Error offset
          (if c &&& 0xc0 = 0x80 then "UNEXPECTED_CONTINUE" else "BAD_PREFIX"))
      | some (extraLength, overlongMask) =>
        if bs.length < extraLength then .error (utf8Error offset "OVERRUN")
        else do
          let res ← utf8Continue (c &&& ((1 <<< (8 - extraLength - 1)) - 1)) (offset + 1)
            (bs.take extraLength)
          if res > 0x10ffff then .error (utf8Error offset "OUT_OF_RANGE")
          else if 0xd800 ≤ res ∧ res ≤ 0xdfff then .error (utf8Error offset "UTF16_SURROGATE")
          else if res ≤ overlongMask then .error (utf8Error offset "OVERLONG")
          else
            (res :: ·) <$> getUtf8CodePoints fuel (offset + 1 + extraLength) (bs.drop extraLength)

/-- ethers 6 `toUtf8String`: the text of the code points; it throws on malformed UTF-8. -/
def toUtf8String (bytes : List UInt8) : Except String String :=
  (fun cps => String.mk (cps.map Char.ofNat)) <$> getUtf8CodePoints bytes.length 0 bytes

/-- `toUtf8String` throws on `0xff`, a byte no UTF-8 text has. -/
theorem toUtf8String_ff (bytes : List UInt8) :
    toUtf8String (0xff :: bytes) = .error (utf8Error 0 "BAD_PREFIX") := rfl

/-! ## §2. The encoding. -/

/-- The UTF-8 encoding of a code point (RFC 3629): a lead byte that announces the length, then
six bits per continuation byte. -/
def utf8Encode (c : Nat) : List UInt8 :=
  if c < 0x80 then [c.toUInt8]
  else if c < 0x800 then [(0xc0 + c / 0x40).toUInt8, (0x80 + c % 0x40).toUInt8]
  else if c < 0x10000 then
    [(0xe0 + c / 0x1000).toUInt8, (0x80 + c / 0x40 % 0x40).toUInt8, (0x80 + c % 0x40).toUInt8]
  else
    [(0xf0 + c / 0x40000).toUInt8, (0x80 + c / 0x1000 % 0x40).toUInt8,
      (0x80 + c / 0x40 % 0x40).toUInt8, (0x80 + c % 0x40).toUInt8]

/-- A Unicode scalar value: a code point below `0x110000` that is not a UTF-16 surrogate;
`Nat.isValidChar` in core Lean. -/
def IsScalar (c : Nat) : Prop := c < 0xd800 ∨ (0xdfff < c ∧ c < 0x110000)

/-! ## §3. One code point. -/

theorem toNat_toUInt8 {n : Nat} (h : n < 256) : n.toUInt8.toNat = n :=
  UInt8.toNat_ofNat_of_lt h

/-- A continuation byte `10xxxxxx` passes ethers' check and gives its six bits. -/
theorem continuation_byte : ∀ y < 64, (0x80 + y) &&& 0xc0 = 0x80 ∧ (0x80 + y) &&& 0x3f = y := by
  decide

theorem shiftLeft_six_or (a y : Nat) (hy : y < 64) : (a <<< 6) ||| y = a * 64 + y := by
  rw [Nat.shiftLeft_eq, Nat.mul_comm, ← Nat.mul_add_lt_is_or (i := 6) hy]

/-- A continuation byte adds its six bits. -/
theorem utf8Continue_cons (res offset y : Nat) (hy : y < 64) (rest : List UInt8) :
    utf8Continue res offset ((0x80 + y).toUInt8 :: rest) =
      utf8Continue (res * 64 + y) (offset + 1) rest := by
  have hb : (0x80 + y).toUInt8.toNat = 0x80 + y := toNat_toUInt8 (by omega)
  obtain ⟨h1, h2⟩ := continuation_byte y hy
  simp only [utf8Continue, hb, h1, h2, shiftLeft_six_or res y hy, ne_eq, not_true_eq_false,
    if_false]

/-- The lead bytes `110xxxxx`, `1110xxxx` and `11110xxx`: what ethers reads from them. -/
theorem lead_two :
    ∀ x < 32, (0xc0 + x) >>> 7 ≠ 0 ∧ utf8Lead (0xc0 + x) = some (1, 0x7f) ∧
      (0xc0 + x) &&& ((1 <<< (8 - 1 - 1)) - 1) = x := by
  decide

theorem lead_three :
    ∀ x < 16, (0xe0 + x) >>> 7 ≠ 0 ∧ utf8Lead (0xe0 + x) = some (2, 0x7ff) ∧
      (0xe0 + x) &&& ((1 <<< (8 - 2 - 1)) - 1) = x := by
  decide

theorem lead_four :
    ∀ x < 8, (0xf0 + x) >>> 7 ≠ 0 ∧ utf8Lead (0xf0 + x) = some (3, 0xffff) ∧
      (0xf0 + x) &&& ((1 <<< (8 - 3 - 1)) - 1) = x := by
  decide

@[simp] theorem utf8Continue_nil (res offset : Nat) : utf8Continue res offset [] = .ok res := rfl

/-- A sequence of a lead byte `l` announcing `n` continuation bytes, and `n` bytes that fold into
`c`, a code point in range, not a surrogate and not overlong, decodes to `c`. -/
theorem getUtf8CodePoints_lead (fuel offset l n mask c : Nat) (cont rest : List UInt8)
    (h256 : l < 256) (hlead : l >>> 7 ≠ 0) (hl : utf8Lead l = some (n, mask))
    (hn : cont.length = n)
    (hres : utf8Continue (l &&& ((1 <<< (8 - n - 1)) - 1)) (offset + 1) cont = .ok c)
    (hc : c ≤ 0x10ffff) (hs : ¬(0xd800 ≤ c ∧ c ≤ 0xdfff)) (ho : mask < c) :
    getUtf8CodePoints (fuel + 1) offset (l.toUInt8 :: (cont ++ rest)) =
      (c :: ·) <$> getUtf8CodePoints fuel (offset + 1 + n) rest := by
  have hlen : ¬(cont ++ rest).length < n := by simp [hn]
  simp only [getUtf8CodePoints, toNat_toUInt8 h256, hlead, if_false, hl, hlen,
    List.take_left' hn, hres, bind, Except.bind, List.drop_left' hn, Nat.not_lt.2 hc, gt_iff_lt,
    hs, Nat.not_le.2 ho]

/-- **The encoding of a scalar value decodes to it**, whatever follows it. -/
theorem getUtf8CodePoints_encode (fuel offset c : Nat) (hc : IsScalar c) (bs : List UInt8) :
    getUtf8CodePoints (fuel + 1) offset (utf8Encode c ++ bs) =
      (c :: ·) <$> getUtf8CodePoints fuel (offset + (utf8Encode c).length) bs := by
  unfold IsScalar at hc
  have hy : ∀ k, c / k % 0x40 < 64 := fun k => Nat.mod_lt _ (by decide)
  have hy0 : c % 0x40 < 64 := Nat.mod_lt _ (by decide)
  by_cases h1 : c < 0x80
  · have hs : c >>> 7 = 0 := by rw [Nat.shiftRight_eq_div_pow]; omega
    simp only [utf8Encode, h1, if_true, List.singleton_append, getUtf8CodePoints,
      toNat_toUInt8 (by omega : c < 256), hs, List.length_singleton]
  by_cases h2 : c < 0x800
  · obtain ⟨hl1, hl2, hl3⟩ := lead_two (c / 0x40) (by omega)
    simp only [utf8Encode, h1, h2, if_true, if_false]
    refine getUtf8CodePoints_lead fuel offset _ 1 0x7f c _ bs (by omega) hl1 hl2 rfl ?_
      (by omega) (by omega) (by omega)
    rw [hl3, utf8Continue_cons _ _ _ hy0, utf8Continue_nil]
    congr 1; omega
  by_cases h3 : c < 0x10000
  · obtain ⟨hl1, hl2, hl3⟩ := lead_three (c / 0x1000) (by omega)
    simp only [utf8Encode, h1, h2, h3, if_true, if_false]
    refine getUtf8CodePoints_lead fuel offset _ 2 0x7ff c _ bs (by omega) hl1 hl2 rfl ?_
      (by omega) (by omega) (by omega)
    rw [hl3, utf8Continue_cons _ _ _ (hy 0x40), utf8Continue_cons _ _ _ hy0, utf8Continue_nil]
    congr 1; omega
  · obtain ⟨hl1, hl2, hl3⟩ := lead_four (c / 0x40000) (by omega)
    simp only [utf8Encode, h1, h2, h3, if_true, if_false]
    refine getUtf8CodePoints_lead fuel offset _ 3 0xffff c _ bs (by omega) hl1 hl2 rfl ?_
      (by omega) (by omega) (by omega)
    rw [hl3, utf8Continue_cons _ _ _ (hy 0x1000), utf8Continue_cons _ _ _ (hy 0x40),
      utf8Continue_cons _ _ _ hy0, utf8Continue_nil]
    congr 1; omega

/-! ## §4. Core Lean's encoder. -/

theorem uint8_toNat_or (a b : UInt8) : (a ||| b).toNat = a.toNat ||| b.toNat := BitVec.toNat_or _ _

theorem uint32_toNat_toUInt8 (v : UInt32) : v.toUInt8.toNat = v.toNat % 256 := by
  show (BitVec.ofNat 8 v.toNat).toNat = _
  simp

theorem uint32_toNat_shiftRight (v : UInt32) (k : Nat) (hk : k < 32) :
    (v >>> (UInt32.ofNat k)).toNat = v.toNat >>> k := by
  have hm : ((UInt32.ofNat k).mod 32).toBitVec.toNat = k := by
    show (UInt32.ofNat k % 32).toNat = k
    rw [UInt32.toNat_mod, UInt32.toNat_ofNat_of_lt (by unfold UInt32.size; omega)]
    exact Nat.mod_eq_of_lt hk
  show (v.toBitVec >>> (UInt32.mod (UInt32.ofNat k) 32).toBitVec).toNat = _
  simp [hm]
  rfl

theorem uint32_shiftRight_toUInt8 (v : UInt32) (k : Nat) (hk : k < 32) :
    (v >>> (UInt32.ofNat k)).toUInt8.toNat = (v.toNat >>> k) % 256 :=
  (uint32_toNat_toUInt8 _).trans (congrArg (· % 256) (uint32_toNat_shiftRight v k hk))

theorem uint32_le_iff (v : UInt32) (k : Nat) (hk : k < UInt32.size) :
    v ≤ UInt32.ofNat k ↔ v.toNat ≤ k := by
  rw [UInt32.le_def, BitVec.le_def, UInt32.toBitVec_eq_of_lt hk]
  rfl

theorem uint8_ext {a b : UInt8} (h : a.toNat = b.toNat) : a = b :=
  UInt8.eq_of_toBitVec_eq (BitVec.eq_of_toNat_eq h)

theorem low_six (m : Nat) : m % 256 &&& 0x3f = m % 64 := by
  rw [show (0x3f : Nat) = 2 ^ 6 - 1 from rfl, Nat.and_pow_two_sub_one_eq_mod]
  exact Nat.mod_mod_of_dvd m (by decide : 64 ∣ 256)

theorem cont_or : ∀ r < 64, r ||| 0x80 = 0x80 + r := by decide

theorem lead_or_two : ∀ m < 32, (m % 256 &&& 0x1f) ||| 0xc0 = 0xc0 + m := by decide

theorem lead_or_three : ∀ m < 16, (m % 256 &&& 0x0f) ||| 0xe0 = 0xe0 + m := by decide

theorem lead_or_four : ∀ m < 8, (m % 256 &&& 0x07) ||| 0xf0 = 0xf0 + m := by decide

/-- A continuation byte as core Lean writes it: six bits under `10`. -/
theorem cont_byte (u : UInt8) (m : Nat) (hu : u.toNat = m % 256) :
    u &&& 0x3f ||| 0x80 = (0x80 + m % 64).toUInt8 := by
  apply uint8_ext
  rw [uint8_toNat_or, UInt8.and_toNat, hu, toNat_toUInt8 (by omega)]
  exact (congrArg (· ||| 0x80) (low_six m)).trans (cont_or _ (Nat.mod_lt _ (by decide)))

/-- A lead byte as core Lean writes it: the top bits of the code point under the length
prefix `base`. -/
theorem lead_byte (u : UInt8) (m mask base : Nat) (hu : u.toNat = m % 256)
    (h : (m % 256 &&& mask) ||| base = base + m) (hmask : mask < 256) (hb : base + m < 256) :
    u &&& mask.toUInt8 ||| base.toUInt8 = (base + m).toUInt8 := by
  apply uint8_ext
  rw [uint8_toNat_or, UInt8.and_toNat, hu, toNat_toUInt8 hmask, toNat_toUInt8 (by omega),
    toNat_toUInt8 hb, h]

/-- **Core Lean's `String.utf8EncodeChar` is the RFC 3629 encoding.** -/
theorem utf8EncodeChar_eq (ch : Char) : String.utf8EncodeChar ch = utf8Encode ch.toNat := by
  have hv : ch.toNat < 0x110000 := by
    have := ch.valid
    simp only [UInt32.isValidChar, Nat.isValidChar] at this
    show ch.val.toNat < _
    omega
  have h0 : ch.val.toUInt8.toNat = ch.toNat % 256 := uint32_toNat_toUInt8 _
  have h6 : (ch.val >>> 6).toUInt8.toNat = ch.toNat / 0x40 % 256 :=
    (uint32_shiftRight_toUInt8 ch.val 6 (by decide)).trans (by rw [Nat.shiftRight_eq_div_pow]; rfl)
  have h12 : (ch.val >>> 12).toUInt8.toNat = ch.toNat / 0x1000 % 256 :=
    (uint32_shiftRight_toUInt8 ch.val 12 (by decide)).trans (by rw [Nat.shiftRight_eq_div_pow]; rfl)
  have h18 : (ch.val >>> 18).toUInt8.toNat = ch.toNat / 0x40000 % 256 :=
    (uint32_shiftRight_toUInt8 ch.val 18 (by decide)).trans (by rw [Nat.shiftRight_eq_div_pow]; rfl)
  have h7f : ch.val ≤ 0x7f ↔ ch.toNat < 0x80 :=
    (uint32_le_iff ch.val 0x7f (by decide)).trans Nat.lt_succ_iff.symm
  have h7ff : ch.val ≤ 0x7ff ↔ ch.toNat < 0x800 :=
    (uint32_le_iff ch.val 0x7ff (by decide)).trans Nat.lt_succ_iff.symm
  have hffff : ch.val ≤ 0xffff ↔ ch.toNat < 0x10000 :=
    (uint32_le_iff ch.val 0xffff (by decide)).trans Nat.lt_succ_iff.symm
  unfold String.utf8EncodeChar utf8Encode
  simp only [h7f, h7ff, hffff]
  split_ifs with h1 h2 h3
  · rfl
  · exact congrArg₂ (· :: ·)
      (lead_byte _ _ 0x1f 0xc0 h6 (lead_or_two _ (by omega)) (by decide) (by omega))
      (congrArg (· :: []) (cont_byte _ _ h0))
  · exact congrArg₂ (· :: ·)
      (lead_byte _ _ 0x0f 0xe0 h12 (lead_or_three _ (by omega)) (by decide) (by omega))
      (congrArg₂ (· :: ·) (cont_byte _ _ h6) (congrArg (· :: []) (cont_byte _ _ h0)))
  · exact congrArg₂ (· :: ·)
      (lead_byte _ _ 0x07 0xf0 h18 (lead_or_four _ (by omega)) (by decide) (by omega))
      (congrArg₂ (· :: ·) (cont_byte _ _ h12)
        (congrArg₂ (· :: ·) (cont_byte _ _ h6) (congrArg (· :: []) (cont_byte _ _ h0))))

/-! ## §5. The round trip. -/

/-- Every character of a Lean string is a scalar value. -/
theorem isScalar_toNat (ch : Char) : IsScalar ch.toNat := ch.valid

theorem length_pos_utf8Encode (c : Nat) : 0 < (utf8Encode c).length := by
  unfold utf8Encode; split_ifs <;> simp

/-- The encodings of scalar values, one after another, decode to them, given one turn of fuel
per code point. -/
theorem getUtf8CodePoints_flatMap (cps : List Nat) (hcps : ∀ c ∈ cps, IsScalar c) :
    ∀ fuel offset, cps.length ≤ fuel →
      getUtf8CodePoints fuel offset (cps.flatMap utf8Encode) = .ok cps := by
  induction cps with
  | nil => intro fuel offset _; cases fuel <;> rfl
  | cons c cps ih =>
    intro fuel offset h
    obtain ⟨fuel, rfl⟩ : ∃ f, fuel = f + 1 := ⟨fuel - 1, by simp at h; omega⟩
    rw [List.flatMap_cons,
      getUtf8CodePoints_encode fuel offset c (hcps c (List.mem_cons_self c cps)),
      ih (fun c' h' => hcps c' (List.mem_cons_of_mem c h')) fuel _ (by simp at h; omega)]
    rfl

theorem length_le_flatMap_utf8Encode (cps : List Nat) :
    cps.length ≤ (cps.flatMap utf8Encode).length := by
  induction cps with
  | nil => exact le_refl 0
  | cons c cps ih =>
    rw [List.flatMap_cons, List.length_append, List.length_cons]
    have := length_pos_utf8Encode c
    omega

/-- The code points ethers reads from `String.toUTF8` are the string's characters. -/
theorem getUtf8CodePoints_toUTF8 (s : String) :
    getUtf8CodePoints s.toUTF8.data.toList.length 0 s.toUTF8.data.toList =
      .ok (s.data.map Char.toNat) := by
  have hbytes : s.toUTF8.data.toList = (s.data.map Char.toNat).flatMap utf8Encode := by
    show s.data.flatMap String.utf8EncodeChar = _
    rw [List.flatMap_map, show String.utf8EncodeChar = fun ch => utf8Encode ch.toNat from
      funext utf8EncodeChar_eq]
  rw [hbytes]
  exact getUtf8CodePoints_flatMap _ (by simpa using fun ch _ => isScalar_toNat ch) _ 0
    (length_le_flatMap_utf8Encode _)

theorem mk_map_ofNat_toNat (s : String) :
    String.mk ((s.data.map Char.toNat).map Char.ofNat) = s := by
  simp [Function.comp_def]

/-- **`toUtf8String` reads back the UTF-8 encoding of every string**: ethers' decoder, as
modelled, inverts core Lean's `String.toUTF8`. -/
theorem toUtf8String_toUTF8 (s : String) : toUtf8String s.toUTF8.data.toList = .ok s := by
  rw [toUtf8String, getUtf8CodePoints_toUTF8]
  exact congrArg Except.ok (mk_map_ofNat_toNat s)

end GeneralisedRelayer
