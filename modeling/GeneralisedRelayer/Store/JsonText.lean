/-
  GeneralisedRelayer.Store.JsonText — the texts `JSON.stringify` writes into redis, and what
  `JSON.parse` makes of them.

  The `Store` keeps every record as the text `JSON.stringify` writes of an object literal, and
  every reader `JSON.parse`s it back.  `JSON.stringify` is ECMAScript's `SerializeJSONObject`
  with no indentation: the members in the object's key order, each key through
  `QuoteJSONString` (the escapes of its table, `\u00xx` below `0x20`); a number through
  `Number::toString`, `null` for `NaN`; a `BigNumber` through its patched `toJSON`.
  `JSON.parse` is the JSON grammar (ECMA-404): white space, literals, numbers, strings with
  their escapes, arrays and objects nested to any depth; a key given twice keeps its last value.
  The value parser carries a fuel argument, one more than the text's length, which bounds its
  nesting; a string's body is read one unit (a character or an escape) at a time, with the
  text's length as fuel.

  Main results:
    * `parseStringChars_quote` — `JSON.parse` reads back the quoting of every string, whatever
      characters it holds.
    * `parseValue_serializeObject` — and every flat object, in its key order.
    * `jsonParse_serializeObject` — `JSON.parse (JSON.stringify o)` gives back each member.
-/
import GeneralisedRelayer.Store.Json
import GeneralisedRelayer.Collector.Bytes

namespace GeneralisedRelayer

/-! ## §1. `JSON.stringify` of a flat object. -/

/-- `UnicodeEscape`: `\u` and the four lowercase hex digits of `n`. -/
def unicodeEscape (n : Nat) : List Char :=
  ['\\', 'u', hexDigit (n / 4096 % 16), hexDigit (n / 256 % 16), hexDigit (n / 16 % 16),
    hexDigit (n % 16)]

/-- The table of JSON single character escape sequences: a code point and the letter after the
backslash that stands for it. -/
def singleCharEscapes : List (Char × Char) :=
  [('\x08', 'b'), ('\t', 't'), ('\n', 'n'), ('\x0c', 'f'), ('\r', 'r'), ('"', '"'), ('\\', '\\')]

/-- One code point of a string as `QuoteJSONString` writes it: its escape sequence if the table
lists it, `UnicodeEscape` below `0x20`, the code point itself otherwise (a Lean character is never
a surrogate, which would also be escaped). -/
def quoteChar (c : Char) : List Char :=
  match singleCharEscapes.lookup c with
  | some e => ['\\', e]
  | none => if c.toNat < 0x20 then unicodeEscape c.toNat else [c]

/-- `QuoteJSONString` -/
def quoteJSONString (s : String) : List Char := '"' :: (s.data.flatMap quoteChar ++ ['"'])

/-- `SerializeJSONProperty` of a JSON value a record holds; a number is an integer below `10^21`,
which `Number::toString` writes in decimal. -/
def serializeJson : Json → List Char
  | .null => ['n', 'u', 'l', 'l']
  | .bool true => ['t', 'r', 'u', 'e']
  | .bool false => ['f', 'a', 'l', 's', 'e']
  | .num n => (toDecimal n).data
  | .str s => quoteJSONString s

/-- `SerializeJSONProperty` of a value of a writer's literal: `NaN` is not finite and is written
`null`; a `BigNumber` is written as what its patched `toJSON` returns, its decimal string. -/
def serializeJsValue : JsValue → List Char
  | .json j => serializeJson j
  | .number .nan => ['n', 'u', 'l', 'l']
  | .number (.num n) => (toDecimal n).data
  | .bigNumber n => quoteJSONString (toDecimal n)

/-- A value of a literal is written as the JSON value `JSON.parse` is modelled to give back. -/
theorem serializeJsValue_eq (v : JsValue) : serializeJsValue v = serializeJson v.toJson := by
  rcases v with j | (_ | n) | n <;> rfl

/-- The members of `SerializeJSONObject`, `"key":value`, separated by commas. -/
def serializeMembers : List (String × List Char) → List Char
  | [] => []
  | [(k, v)] => quoteJSONString k ++ ':' :: v
  | (k, v) :: m :: ms => quoteJSONString k ++ ':' :: v ++ ',' :: serializeMembers (m :: ms)

/-- `SerializeJSONObject` with no indentation: the members between braces. -/
def serializeObject (members : List (String × List Char)) : List Char :=
  '{' :: (serializeMembers members ++ ['}'])

/-! ## §2. `JSON.parse`. -/

/-- A JSON value as `JSON.parse` reads it; a number keeps its literal. -/
inductive JsonText where
  | null
  | bool (b : Bool)
  | number (literal : List Char)
  | str (s : String)
  | arr (elements : List JsonText)
  | obj (members : List (String × JsonText))

/-- JSON's white space: tab, line feed, carriage return, space. -/
def isJsonWs (c : Char) : Bool := c = ' ' || c = '\t' || c = '\n' || c = '\r'

/-- The text after its leading white space. -/
def skipWs (cs : List Char) : List Char := cs.dropWhile isJsonWs

/-- The character a one-letter escape stands for. -/
def simpleEscape (c : Char) : Option Char :=
  if c = '"' then some '"'
  else if c = '\\' then some '\\'
  else if c = '/' then some '/'
  else if c = 'b' then some '\x08'
  else if c = 'f' then some '\x0c'
  else if c = 'n' then some '\n'
  else if c = 'r' then some '\r'
  else if c = 't' then some '\t'
  else none

/-- The value of four hex digits of either case. -/
def hexQuad (a b c d : Char) : Option Nat := do
  let a ← hexValue a
  let b ← hexValue b
  let c ← hexValue c
  let d ← hexValue d
  pure (((a * 16 + b) * 16 + c) * 16 + d)

/-- A character put in front of what the rest of a string reads to. -/
def consChar (c : Char) : Option (List Char × List Char) → Option (List Char × List Char) :=
  Option.map fun p => (c :: p.1, p.2)

/-- The code point an escape stands for, read after its backslash, and the text after it.  A `\u`
escape of a leading surrogate takes the trailing surrogate's escape after it; a lone surrogate,
which a Lean string cannot hold, is `none`, as is a bad escape. -/
def escapeUnit : List Char → Option (Char × List Char)
  | [] => none
  | e :: rest =>
    if e = 'u' then
      match rest with
      | a :: b :: c :: d :: rest =>
        match hexQuad a b c d with
        | none => none
        | some n =>
          if n < 0xd800 ∨ 0xdfff < n then some (Char.ofNat n, rest)
          else if n < 0xdc00 then
            match rest with
            | '\\' :: 'u' :: e :: f :: g :: h :: rest' =>
              match hexQuad e f g h with
              | some m =>
                if 0xdc00 ≤ m ∧ m ≤ 0xdfff then
                  some (Char.ofNat (0x10000 + (n - 0xd800) * 0x400 + (m - 0xdc00)), rest')
                else none
              | none => none
            | _ => none
          else none
      | _ => none
    else (simpleEscape e).map fun c => (c, rest)

/-- One unit of a string's body: its closing quote (`none`), or the code point a character or an
escape stands for (`some`), and the text after it.  A control character is outside the grammar. -/
def stringUnit : List Char → Option (Option Char × List Char)
  | [] => none
  | c :: rest =>
    if c = '"' then some (none, rest)
    else if c = '\\' then (escapeUnit rest).map fun p => (some p.1, p.2)
    else if c.toNat < 0x20 then none
    else some (some c, rest)

/-- The characters of a string after its opening quote, and the text after its closing quote;
`none` without a closing quote.  Each unit takes a character of the text at least, so the text's
length is fuel enough. -/
def parseStringChars : Nat → List Char → Option (List Char × List Char)
  | 0, _ => none
  | fuel + 1, cs =>
    match stringUnit cs with
    | none => none
    | some (none, rest) => some ([], rest)
    | some (some c, rest) => consChar c (parseStringChars fuel rest)

/-- One character of `signs`, if the text starts with one. -/
def optSign (signs : List Char) : List Char → List Char × List Char
  | c :: rest => if c ∈ signs then ([c], rest) else ([], c :: rest)
  | [] => ([], [])

/-- The `int` of a number: `0`, or a digit from `1` to `9` and the digits after it. -/
def parseInt : List Char → Option (List Char × List Char)
  | [] => none
  | d :: rest =>
    if d = '0' then some (['0'], rest)
    else if d.isDigit then some (d :: (rest.span Char.isDigit).1, (rest.span Char.isDigit).2)
    else none

/-- The `frac` of a number, if there is one: a point and one digit or more. -/
def parseFrac : List Char → Option (List Char × List Char)
  | c :: rest =>
    if c = '.' then
      if (rest.span Char.isDigit).1 = [] then none
      else some ('.' :: (rest.span Char.isDigit).1, (rest.span Char.isDigit).2)
    else some ([], c :: rest)
  | [] => some ([], [])

/-- The `exp` of a number, if there is one: `e` or `E`, a sign or none, one digit or more. -/
def parseExp : List Char → Option (List Char × List Char)
  | e :: rest =>
    if e = 'e' ∨ e = 'E' then
      let (sign, rest) := optSign ['+', '-'] rest
      if (rest.span Char.isDigit).1 = [] then none
      else some (e :: (sign ++ (rest.span Char.isDigit).1), (rest.span Char.isDigit).2)
    else some ([], e :: rest)
  | [] => some ([], [])

/-- A number: a minus sign or none, then `int`, `frac` and `exp`; its literal and the rest. -/
def parseNumber (cs : List Char) : Option (List Char × List Char) := do
  let (sign, cs) := optSign ['-'] cs
  let (int, cs) ← parseInt cs
  let (frac, cs) ← parseFrac cs
  let (exp, cs) ← parseExp cs
  pure (sign ++ int ++ frac ++ exp, cs)

/-- The rest of a literal `null`, `true` or `false` after its first letter. -/
def parseLiteral (word : List Char) (v : JsonText) (cs : List Char) :
    Option (JsonText × List Char) :=
  if word.isPrefixOf cs then some (v, cs.drop word.length) else none

mutual

/-- A value after optional white space, and the text after it. -/
def parseValue : Nat → List Char → Option (JsonText × List Char)
  | 0, _ => none
  | fuel + 1, cs =>
    match skipWs cs with
    | [] => none
    | c :: rest =>
      if c = '"' then (parseStringChars rest.length rest).map fun p => (.str ⟨p.1⟩, p.2)
      else if c = '[' then
        match skipWs rest with
        | ']' :: rest => some (.arr [], rest)
        | _ => parseElements fuel [] rest
      else if c = '{' then
        match skipWs rest with
        | '}' :: rest => some (.obj [], rest)
        | _ => parseMembers fuel [] rest
      else if c = 'n' then parseLiteral ['u', 'l', 'l'] .null rest
      else if c = 't' then parseLiteral ['r', 'u', 'e'] (.bool true) rest
      else if c = 'f' then parseLiteral ['a', 'l', 's', 'e'] (.bool false) rest
      else (parseNumber (c :: rest)).map fun p => (.number p.1, p.2)

/-- The elements of an array after `acc`, through its closing bracket. -/
def parseElements : Nat → List JsonText → List Char → Option (JsonText × List Char)
  | 0, _, _ => none
  | fuel + 1, acc, cs =>
    match parseValue fuel cs with
    | none => none
    | some (v, rest) =>
      match skipWs rest with
      | ',' :: rest => parseElements fuel (acc ++ [v]) rest
      | ']' :: rest => some (.arr (acc ++ [v]), rest)
      | _ => none

/-- The members of an object after `acc`, through its closing brace. -/
def parseMembers :
    Nat → List (String × JsonText) → List Char → Option (JsonText × List Char)
  | 0, _, _ => none
  | fuel + 1, acc, cs =>
    match skipWs cs with
    | '"' :: rest =>
      match parseStringChars rest.length rest with
      | none => none
      | some (key, rest) =>
        match skipWs rest with
        | ':' :: rest =>
          match parseValue fuel rest with
          | none => none
          | some (v, rest) =>
            match skipWs rest with
            | ',' :: rest => parseMembers fuel (acc ++ [(⟨key⟩, v)]) rest
            | '}' :: rest => some (.obj (acc ++ [(⟨key⟩, v)]), rest)
            | _ => none
        | _ => none
    | _ => none

end

/-- `JSON.parse`: one value between optional white space and nothing else; `none` where it throws
a `SyntaxError`. -/
def jsonParse (text : String) : Option JsonText :=
  match parseValue (text.length + 1) text.data with
  | some (v, rest) => if skipWs rest = [] then some v else none
  | none => none

example :
    ["01", "[1,]", "\"\\ud83d\"", "", "nul", "\x7b\"a\" 1\x7d"].all (jsonParse · |>.isNone) := by
  decide

/-! ## §3. `JSON.parse` reads back what `JSON.stringify` writes.

A string, one quoted character at a time; a number, through the digit scan that stops at the
comma or brace after it; a flat object, one member at a time, with the fuel bounded by its
member count. -/

/-- `JSON.parse` reads each single character escape back as the code point it stands for. -/
theorem singleCharEscapes_parse :
    ∀ p ∈ singleCharEscapes, ∀ r, stringUnit ('\\' :: p.2 :: r) = some (some p.1, r) := by
  intro p hp r
  simp only [singleCharEscapes, List.mem_cons, List.mem_nil_iff, or_false] at hp
  rcases hp with rfl | rfl | rfl | rfl | rfl | rfl | rfl <;> rfl

theorem quoteChar_length_pos (c : Char) : 0 < (quoteChar c).length := by
  unfold quoteChar
  split
  · simp
  · split_ifs <;> simp [unicodeEscape]

theorem length_le_flatMap_quoteChar (s : List Char) :
    s.length ≤ (s.flatMap quoteChar).length := by
  induction s with
  | nil => simp
  | cons c s ih =>
    have := quoteChar_length_pos c
    rw [List.flatMap_cons, List.length_append, List.length_cons]
    omega

/-- `JSON.parse` reads one character of `QuoteJSONString` back, whatever follows it. -/
theorem stringUnit_quoteChar (c : Char) (r : List Char) :
    stringUnit (quoteChar c ++ r) = some (some c, r) := by
  rw [quoteChar]
  rcases h : singleCharEscapes.lookup c with _ | e
  · have hq : c ≠ '"' := by rintro rfl; revert h; decide
    have hb : c ≠ '\\' := by rintro rfl; revert h; decide
    split_ifs with hc
    · -- a control character without a short escape, through its `\u00xx`
      have h16 : ∀ k, k % 16 < 16 := fun k => Nat.mod_lt _ (by decide)
      have hhex : hexQuad (hexDigit (c.toNat / 4096 % 16)) (hexDigit (c.toNat / 256 % 16))
          (hexDigit (c.toNat / 16 % 16)) (hexDigit (c.toNat % 16)) = some c.toNat := by
        simp only [hexQuad, hexValue_hexDigit _ (h16 _), Option.pure_def, Option.bind_eq_bind,
          Option.some_bind, Option.some.injEq]
        -- its two high digits are `0`
        have h4096 : c.toNat / 4096 = 0 := Nat.div_eq_of_lt (by omega)
        have h256 : c.toNat / 256 = 0 := Nat.div_eq_of_lt (by omega)
        rw [h4096, h256]
        omega
      have hs : c.toNat < 0xd800 ∨ 0xdfff < c.toNat := .inl (by omega)
      simp [unicodeEscape, stringUnit, escapeUnit, hhex, hs]
    · simp [stringUnit, hq, hb, hc]
  · obtain ⟨l₁, l₂, hl, -⟩ := List.lookup_eq_some_iff.1 h
    exact singleCharEscapes_parse (c, e) (by simp [hl]) r

/-- **Strings**: the body of `QuoteJSONString s` reads back as `s`, through the closing quote. -/
theorem parseStringChars_quote (s r : List Char) (fuel : Nat) (hfuel : s.length < fuel) :
    parseStringChars fuel (s.flatMap quoteChar ++ '"' :: r) = some (s, r) := by
  induction s generalizing fuel with
  | nil =>
    obtain ⟨fuel, rfl⟩ : ∃ f, fuel = f + 1 := ⟨fuel - 1, by simp at hfuel; omega⟩
    rfl
  | cons c s ih =>
    obtain ⟨fuel, rfl⟩ : ∃ f, fuel = f + 1 := ⟨fuel - 1, by simp at hfuel; omega⟩
    rw [List.flatMap_cons, List.append_assoc, parseStringChars, stringUnit_quoteChar]
    simp [ih fuel (by simp at hfuel; omega), consChar]

theorem decimalCharsAux_isDigit (fuel n : Nat) (acc : List Char)
    (hacc : ∀ c ∈ acc, c.isDigit) : ∀ c ∈ decimalCharsAux fuel n acc, c.isDigit := by
  induction fuel generalizing n acc with
  | zero => exact hacc
  | succ fuel ih =>
    simp only [decimalCharsAux]
    split
    · next hn => exact List.forall_mem_cons.2 ⟨(digitChar_isDigit hn).1, hacc⟩
    · exact ih _ _
        (List.forall_mem_cons.2 ⟨(digitChar_isDigit (Nat.mod_lt n (by omega))).1, hacc⟩)

/-- The most significant digit of a positive number is not `0`. -/
theorem decimalCharsAux_head (fuel n : Nat) (acc : List Char) (hn : 0 < n) (hfuel : n ≤ fuel) :
    ∃ d rest, decimalCharsAux (fuel + 1) n acc = digitChar d :: rest ∧ 0 < d ∧ d < 10 := by
  induction fuel generalizing n acc with
  | zero => omega
  | succ fuel ih =>
    rw [decimalCharsAux]
    split
    · next h => exact ⟨n, acc, rfl, hn, h⟩
    · exact ih (n / 10) _ (by omega) (by omega)

/-- `toDecimal n` is a digit, then digits, and no more than `0` when its first digit is `0`:
the shape of an `int` of the number grammar. -/
theorem toDecimal_cons (n : Nat) : ∃ d rest, (toDecimal n).data = digitChar d :: rest ∧
    d < 10 ∧ (d = 0 → rest = []) ∧ ∀ x ∈ rest, x.isDigit := by
  rcases Nat.eq_zero_or_pos n with rfl | hn
  · exact ⟨0, [], rfl, by decide, fun _ => rfl, by simp⟩
  · obtain ⟨d, rest, h, hd0, hd⟩ := decimalCharsAux_head n n [] hn le_rfl
    have hdig := decimalCharsAux_isDigit (n + 1) n [] (by simp)
    rw [h] at hdig
    exact ⟨d, rest, h, hd, by omega, fun x hx => hdig x (List.mem_cons_of_mem _ hx)⟩

/-- Decimal digits, then a character that is not one: the digit scan stops there. -/
theorem digits_append_split (ds : List Char) (d : Char) (t : List Char)
    (hds : ∀ c ∈ ds, c.isDigit) (hd : d.isDigit = false) :
    (ds ++ d :: t).takeWhile Char.isDigit = ds ∧
      (ds ++ d :: t).dropWhile Char.isDigit = d :: t := by
  induction ds with
  | nil => simp [List.takeWhile_cons, List.dropWhile_cons, hd]
  | cons c ds ih =>
    obtain ⟨h1, h2⟩ := ih fun c' h' => hds c' (List.mem_cons_of_mem c h')
    simp [List.takeWhile_cons, List.dropWhile_cons, hds c (List.mem_cons_self c ds), h1, h2]

/-- A digit is not white space and starts no other kind of value; only `0` is `'0'`. -/
theorem digitChar_starts_number : ∀ d < 10,
    isJsonWs (digitChar d) = false ∧ (digitChar d).isDigit ∧ digitChar d ≠ 'n' ∧
    digitChar d ≠ 't' ∧ digitChar d ≠ 'f' ∧ digitChar d ≠ '"' ∧ digitChar d ≠ '[' ∧
    digitChar d ≠ '{' ∧ digitChar d ≠ '-' ∧ (digitChar d = '0' ↔ d = 0) := by
  decide

/-- What follows a member's value, a comma or the closing brace, ends a number. -/
theorem member_end {c : Char} (hc : c = ',' ∨ c = '}') :
    isJsonWs c = false ∧ c.isDigit = false ∧ c ≠ '.' ∧ c ≠ 'e' ∧ c ≠ 'E' := by
  rcases hc with rfl | rfl <;> decide

theorem parseNumber_digits (d : Nat) (rest : List Char) (c : Char) (t : List Char)
    (hd : d < 10) (hrest : ∀ x ∈ rest, x.isDigit) (hz : d = 0 → rest = [])
    (hc : c = ',' ∨ c = '}') :
    parseNumber (digitChar d :: rest ++ c :: t) = some (digitChar d :: rest, c :: t) := by
  obtain ⟨-, hdig, -, -, -, -, -, -, hminus, hzero⟩ := digitChar_starts_number d hd
  obtain ⟨-, hcd, hdot, he, hE⟩ := member_end hc
  have hint : parseInt (digitChar d :: rest ++ c :: t) = some (digitChar d :: rest, c :: t) := by
    by_cases h0 : d = 0
    · subst h0
      rw [hz rfl]
      rfl
    · simp only [parseInt, List.cons_append, hzero, h0, if_false, hdig, if_true,
        List.span_eq_take_drop, digits_append_split rest c t hrest hcd]
  have hfrac : parseFrac (c :: t) = some ([], c :: t) := by simp only [parseFrac, hdot, if_false]
  have hexp : parseExp (c :: t) = some ([], c :: t) := by
    simp only [parseExp, he, hE, or_self, if_false]
  simp only [parseNumber, List.cons_append] at hint ⊢
  simp [optSign, hminus, hint, hfrac, hexp]

/-- **Numbers**: the decimal text of `n` reads back as a number literal, up to the comma or
brace after it. -/
theorem parseNumber_toDecimal (n : Nat) (c : Char) (t : List Char) (hc : c = ',' ∨ c = '}') :
    parseNumber ((toDecimal n).data ++ c :: t) = some ((toDecimal n).data, c :: t) := by
  obtain ⟨d, rest, h, hd, hz, hrest⟩ := toDecimal_cons n
  rw [h]
  exact parseNumber_digits d rest c t hd hrest hz hc

/-- The value `JSON.parse` reads back from `SerializeJSONProperty` of `j`. -/
def Json.toText : Json → JsonText
  | .null => .null
  | .bool b => .bool b
  | .num n => .number (toDecimal n).data
  | .str s => .str s

theorem parseValue_serializeJson (fuel : Nat) (j : Json) (c : Char) (t : List Char)
    (hc : c = ',' ∨ c = '}') :
    parseValue (fuel + 1) (serializeJson j ++ c :: t) = some (j.toText, c :: t) := by
  cases j with
  | null => rfl
  | bool b => cases b <;> rfl
  | num n =>
    obtain ⟨d, rest, h, hd, -, -⟩ := toDecimal_cons n
    obtain ⟨hws, -, hn, ht, hf, hq, hl, hb, -, -⟩ := digitChar_starts_number d hd
    have hnum := parseNumber_toDecimal n c t hc
    rw [h, List.cons_append] at hnum
    simp [serializeJson, parseValue, skipWs, Json.toText, h, hws, hn, ht, hf, hq, hl, hb, hnum]
  | str s =>
    have hlen := length_le_flatMap_quoteChar s.data
    have hs := parseStringChars_quote s.data (c :: t)
      (s.data.flatMap quoteChar ++ '"' :: c :: t).length
      (by rw [List.length_append, List.length_cons]; omega)
    simp only [serializeJson, quoteJSONString, List.cons_append, List.nil_append,
      List.append_assoc]
    show Option.map _ (parseStringChars _ _) = _
    rw [hs]
    rfl

theorem skipWs_cons {c : Char} (r : List Char) (h : isJsonWs c = false) :
    skipWs (c :: r) = c :: r := by
  simp [skipWs, h]

/-- One member, `"key":value`, and the comma or brace after it. -/
theorem parseMembers_member (fuel : Nat) (acc : List (String × JsonText)) (k : String) (v : Json)
    (c : Char) (t : List Char) (hc : c = ',' ∨ c = '}') :
    parseMembers (fuel + 2) acc (quoteJSONString k ++ ':' :: (serializeJson v ++ c :: t)) =
      if c = ',' then parseMembers (fuel + 1) (acc ++ [(k, v.toText)]) t
      else some (.obj (acc ++ [(k, v.toText)]), t) := by
  have hlen := length_le_flatMap_quoteChar k.data
  have hk := parseStringChars_quote k.data (':' :: (serializeJson v ++ c :: t))
    (k.data.flatMap quoteChar ++ '"' :: ':' :: (serializeJson v ++ c :: t)).length
    (by rw [List.length_append, List.length_cons]; omega)
  have hv := parseValue_serializeJson fuel v c t hc
  simp only [quoteJSONString, List.cons_append, List.nil_append, List.append_assoc]
  rw [parseMembers]
  simp only [skipWs_cons _ (by decide : isJsonWs '"' = false),
    skipWs_cons _ (by decide : isJsonWs ':' = false), skipWs_cons _ (member_end hc).1, hk, hv]
  rcases hc with rfl | rfl <;> rfl

/-- The members of a flat object read back one at a time onto `acc`; each takes one unit of
fuel. -/
theorem parseMembers_serialize (ms : List (String × Json)) (acc : List (String × JsonText))
    (fuel : Nat) (t : List Char) (hms : ms ≠ []) (hfuel : ms.length < fuel) :
    parseMembers fuel acc
        (serializeMembers (ms.map fun m => (m.1, serializeJson m.2)) ++ '}' :: t)
      = some (.obj (acc ++ ms.map fun m => (m.1, m.2.toText)), t) := by
  induction ms generalizing acc fuel with
  | nil => contradiction
  | cons m ms ih =>
    obtain ⟨fuel, rfl⟩ : ∃ f, fuel = f + 2 := ⟨fuel - 2, by simp at hfuel; omega⟩
    cases ms with
    | nil =>
      simpa [serializeMembers] using parseMembers_member fuel acc m.1 m.2 '}' t (.inr rfl)
    | cons m' ms =>
      have := ih (acc ++ [(m.1, m.2.toText)]) (fuel + 1) (by simp) (by simp at hfuel ⊢; omega)
      simp only [List.map_cons, serializeMembers, List.append_assoc, List.cons_append] at this ⊢
      rw [parseMembers_member fuel acc m.1 m.2 ',' _ (.inl rfl), if_pos rfl, this]
      simp

/-- **Objects**: `SerializeJSONObject` of a flat object reads back member by member, in its key
order, whatever text follows. -/
theorem parseValue_serializeObject (ms : List (String × Json)) (fuel : Nat) (t : List Char)
    (hfuel : ms.length < fuel) :
    parseValue (fuel + 1) (serializeObject (ms.map fun m => (m.1, serializeJson m.2)) ++ t)
      = some (.obj (ms.map fun m => (m.1, m.2.toText)), t) := by
  cases ms with
  | nil => simp [serializeObject, serializeMembers, parseValue, skipWs, isJsonWs]
  | cons m ms =>
    have := parseMembers_serialize (m :: ms) [] fuel t (List.cons_ne_nil _ _) hfuel
    simp only [List.map_cons] at this
    cases ms <;> simp_all [serializeObject, serializeMembers, quoteJSONString, parseValue, skipWs,
      isJsonWs]

/-- Each member takes at least one character of the text. -/
theorem length_le_serializeMembers (ms : List (String × List Char)) :
    ms.length ≤ (serializeMembers ms).length := by
  induction ms using serializeMembers.induct <;> simp_all [serializeMembers, quoteJSONString]
  omega

/-- `JSON.parse (JSON.stringify o)` of a flat object: the text is one object, nothing after it,
and the fuel `jsonParse` gives is enough. -/
theorem jsonParse_serializeObject (ms : List (String × Json)) :
    jsonParse ⟨serializeObject (ms.map fun m => (m.1, serializeJson m.2))⟩
      = some (.obj (ms.map fun m => (m.1, m.2.toText))) := by
  have hlen := length_le_serializeMembers (ms.map fun m => (m.1, serializeJson m.2))
  have := parseValue_serializeObject ms
    (serializeObject (ms.map fun m => (m.1, serializeJson m.2))).length []
    (by simp [serializeObject] at hlen ⊢; omega)
  rw [List.append_nil] at this
  simp [jsonParse, String.length, this, skipWs]

end GeneralisedRelayer
