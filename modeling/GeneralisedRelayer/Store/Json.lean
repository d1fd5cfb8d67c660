/-
  GeneralisedRelayer.Store.Json — the JavaScript values the `Store` writes, and what
  `JSON.stringify` then `JSON.parse` make of them.

  `store.lib.ts` keeps every record as a JSON text.  A writer builds an object literal whose
  values are plain JSON values, `NaN` (what `Math.max` returns over a missing status) or an
  ethers `BigNumber`, whose `toJSON` the module patches to the decimal string
  (`store.lib.ts:8`).  The next reader sees `JSON.parse` of that text: `NaN` comes back as
  `null`, a `BigNumber` as its decimal string.

  Main results:
    * `parseDecimal_toDecimal` — `BigNumber.from` reads back every decimal string
      `BigNumber.toString` writes, for integers of every size, zero included.
    * `mathMax_comm` — `Math.max` is symmetric.
    * `JsMap.get_setAll` — a JavaScript `Map`, or an object keyed by strings, holds at each key
      the value of its last `set`.
-/
import Mathlib.Data.Fintype.Basic
import Mathlib.Tactic.IntervalCases

namespace GeneralisedRelayer

/-! ## §1. Decimal strings: `BigNumber.toString` and `BigNumber.from`. -/

/-- The character of the decimal digit `d`. -/
def digitChar (d : Nat) : Char := Char.ofNat (48 + d)

/-- The decimal digits of `n` put in front of `acc`; `fuel` bounds the digits written. -/
def decimalCharsAux : Nat → Nat → List Char → List Char
  | 0, _, acc => acc
  | fuel + 1, n, acc =>
    if n < 10 then digitChar n :: acc
    else decimalCharsAux fuel (n / 10) (digitChar (n % 10) :: acc)

/-- `BigNumber.prototype.toString`: decimal, most significant digit first, `"0"` for zero. -/
def toDecimal (n : Nat) : String := ⟨decimalCharsAux (n + 1) n []⟩

/-- Read decimal digits left to right onto `acc`; `none` at the first non-digit. -/
def foldDigits (acc : Nat) : List Char → Option Nat
  | [] => some acc
  | c :: cs => if c.isDigit then foldDigits (acc * 10 + (c.toNat - 48)) cs else none

/-- `BigNumber.from` on a string, for the decimal strings this store writes: a non-empty run of
digits.  ethers also reads `0x…` and `-…` forms; no writer here produces one, and the model
refuses them like any other non-digit text. -/
def parseDecimal (s : String) : Option Nat :=
  if s.data = [] then none else foldDigits 0 s.data

theorem digitChar_isDigit {d : Nat} (h : d < 10) :
    (digitChar d).isDigit = true ∧ (digitChar d).toNat - 48 = d := by
  interval_cases d <;> decide

theorem decimalCharsAux_append (fuel n : Nat) (acc : List Char) :
    decimalCharsAux fuel n acc = decimalCharsAux fuel n [] ++ acc := by
  induction fuel generalizing n acc with
  | zero => rfl
  | succ fuel ih =>
    simp only [decimalCharsAux]
    split
    · rfl
    · rw [ih _ (digitChar (n % 10) :: acc), ih _ [digitChar (n % 10)]]
      simp

theorem foldDigits_append (acc : Nat) (xs ys : List Char) :
    foldDigits acc (xs ++ ys) = (foldDigits acc xs).bind (fun v => foldDigits v ys) := by
  induction xs generalizing acc with
  | nil => rfl
  | cons c cs ih =>
    simp only [List.cons_append, foldDigits]
    split <;> simp [ih]

theorem foldDigits_decimalCharsAux {fuel n : Nat} (h : n < fuel) :
    foldDigits 0 (decimalCharsAux fuel n []) = some n := by
  induction fuel generalizing n with
  | zero => omega
  | succ fuel ih =>
    simp only [decimalCharsAux]
    split
    · next hn => simp [foldDigits, digitChar_isDigit hn]
    · next hn =>
      have hd := digitChar_isDigit (Nat.mod_lt n (by omega : 10 > 0))
      rw [decimalCharsAux_append, foldDigits_append, ih (by omega)]
      simp only [Option.some_bind, foldDigits, hd.1, hd.2, if_true]
      congr 1
      omega

theorem decimalCharsAux_ne_nil (fuel n : Nat) : decimalCharsAux (fuel + 1) n [] ≠ [] := by
  simp only [decimalCharsAux]
  split
  · simp
  · rw [decimalCharsAux_append]; simp

/-- **The decimal round trip**: `BigNumber.from (n.toString ()) = n` for every `n`. -/
theorem parseDecimal_toDecimal (n : Nat) : parseDecimal (toDecimal n) = some n := by
  simp only [parseDecimal, toDecimal, decimalCharsAux_ne_nil, if_false]
  exact foldDigits_decimalCharsAux (Nat.lt_succ_self n)

theorem toDecimal_ne_empty (n : Nat) : toDecimal n ≠ "" := by
  intro h
  exact decimalCharsAux_ne_nil n n (congrArg String.data h)

example : toDecimal 1234 = "1234" := by decide

/-! ## §2. JSON values and the values of an object literal. -/

/-- A JSON value of a stored record, as `JSON.parse` returns it.  Numbers are the non-negative
integers the writers store: statuses and `uint48` gas limits. -/
inductive Json where
  | null
  | bool (b : Bool)
  | num (n : Nat)
  | str (s : String)
  deriving DecidableEq, Repr

/-- A JavaScript number: `NaN` or an integer. -/
inductive JsNumber where
  | nan
  | num (n : Nat)
  deriving DecidableEq, Repr

/-- A value in a writer's object literal, before `JSON.stringify`. -/
inductive JsValue where
  /-- A value JSON represents as it is. -/
  | json (j : Json)
  /-- A JavaScript number, `NaN` included. -/
  | number (x : JsNumber)
  /-- An ethers `BigNumber`. -/
  | bigNumber (n : Nat)
  deriving DecidableEq, Repr

/-- What `JSON.parse (JSON.stringify v)` gives back: `NaN` is written as `null`, a `BigNumber`
through the patched `toJSON` as its decimal string. -/
def JsValue.toJson : JsValue → Json
  | .json j => j
  | .number .nan => .null
  | .number (.num n) => .num n
  | .bigNumber n => .str (toDecimal n)

@[simp] theorem JsValue.toJson_json (j : Json) : (JsValue.json j).toJson = j := rfl

@[simp] theorem JsValue.toJson_comp_json : JsValue.toJson ∘ JsValue.json = id := rfl

@[simp] theorem JsValue.toJson_comp_json_comp {α : Type} (g : α → Json) :
    JsValue.toJson ∘ (JsValue.json ∘ g) = g := rfl

@[simp] theorem JsValue.toJson_num (n : Nat) : (JsValue.number (.num n)).toJson = .num n := rfl

@[simp] theorem JsValue.toJson_nan : (JsValue.number .nan).toJson = .null := rfl

@[simp] theorem JsValue.toJson_bigNumber (n : Nat) :
    (JsValue.bigNumber n).toJson = .str (toDecimal n) := rfl

/-- `Number(v)` of a field, as `Math.max` converts its arguments (`undefined` when the key is
absent).  A string reads as its decimal value; the store never holds a string status. -/
def toNumber : Option Json → JsNumber
  | none => .nan
  | some .null => .num 0
  | some (.bool b) => .num (if b then 1 else 0)
  | some (.num n) => .num n
  | some (.str s) => (foldDigits 0 s.data).elim .nan .num

/-- `Math.max(x, y)`: `NaN` as soon as one argument is `NaN`. -/
def mathMax : JsNumber → JsNumber → JsNumber
  | .num a, .num b => .num (max a b)
  | _, _ => .nan

theorem mathMax_comm (x y : JsNumber) : mathMax x y = mathMax y x := by
  cases x <;> cases y <;> simp [mathMax, max_comm]

/-- JavaScript truthiness of a field (`undefined` when the key is absent). -/
def truthy : Option Json → Bool
  | none | some .null => false
  | some (.bool b) => b
  | some (.num n) => n != 0
  | some (.str s) => s != ""

/-- `v ?? d`: the default when the field is `undefined` or `null`. -/
def nullish : Option Json → Json → Json
  | none, d | some .null, d => d
  | some j, _ => j

/-- `BigNumber.from(v)` for a JSON value, with ethers' error text where it throws. -/
def bigNumberFrom : Json → Except String Nat
  | .num n => .ok n
  | .str s => match parseDecimal s with
    | some n => .ok n
    | none => .error "invalid BigNumber string"
  | _ => .error "invalid BigNumber value"

@[simp] theorem bigNumberFrom_toDecimal (n : Nat) : bigNumberFrom (.str (toDecimal n)) = .ok n := by
  simp [bigNumberFrom, parseDecimal_toDecimal]

/-! ## §3. Objects: literals, spread, `JSON.stringify`. -/

/-- A JSON object as `JSON.parse` returns it: each key's value, `none` where it is absent. -/
def JsonObject (K : Type) := K → Option Json

/-- An object literal of a writer, before `JSON.stringify`. -/
def JsObject (K : Type) := K → Option JsValue

instance {K : Type} [Fintype K] [DecidableEq K] : DecidableEq (JsonObject K) :=
  inferInstanceAs (DecidableEq (K → Option Json))

namespace JsObject

variable {K : Type}

/-- `{}` -/
def empty : JsObject K := fun _ => none

/-- `{ ...o, k: v }` -/
def set [DecidableEq K] (o : JsObject K) (k : K) (v : JsValue) : JsObject K :=
  fun f => if f = k then some v else o f

/-- `{ ...o, ...p }`: the keys of `p` win. -/
def spread (o p : JsObject K) : JsObject K := fun f => (p f).or (o f)

/-- A parsed object, spread into a literal. -/
def ofJson (r : JsonObject K) : JsObject K := fun f => (r f).map .json

/-- `JSON.parse (JSON.stringify o)`: every key keeps its place, every value its JSON form. -/
def stringify (o : JsObject K) : JsonObject K := fun f => (o f).map JsValue.toJson

@[simp] theorem empty_apply (f : K) : (empty : JsObject K) f = none := rfl

@[simp] theorem set_apply [DecidableEq K] (o : JsObject K) (k : K) (v : JsValue) (f : K) :
    o.set k v f = if f = k then some v else o f := rfl

@[simp] theorem spread_apply (o p : JsObject K) (f : K) : o.spread p f = (p f).or (o f) := rfl

@[simp] theorem ofJson_apply (r : JsonObject K) (f : K) : ofJson r f = (r f).map .json := rfl

@[simp] theorem stringify_apply (o : JsObject K) (f : K) :
    o.stringify f = (o f).map JsValue.toJson := rfl

end JsObject

/-! ## §4. Maps and records with string keys. -/

/-- A JavaScript `Map` with string keys, or an object used as a `Record<string, V>`: its entries
in insertion order, which `for…in` and `forEach` follow, each key once. -/
@[ext] structure JsMap (α : Type) where
  entries : List (String × α)
  nodup : (entries.map Prod.fst).Nodup

namespace JsMap

variable {α : Type}

instance [DecidableEq α] : DecidableEq (JsMap α) := fun a b =>
  decidable_of_iff (a.entries = b.entries) JsMap.ext_iff.symm

/-- The keys, in order. -/
def keys (m : JsMap α) : List String := m.entries.map Prod.fst

/-- `{}` and `new Map()`. -/
def empty : JsMap α := ⟨[], List.nodup_nil⟩

/-- `m.get(k)`, `m[k]`. -/
def get (m : JsMap α) (k : String) : Option α := m.entries.lookup k

/-- `m.has(k)`, `k in m`. -/
def has (m : JsMap α) (k : String) : Bool := k ∈ m.keys

/-- `m.set(k, v)`, `m[k] = v`: an existing key keeps its place and takes the new value; a new
key goes last. -/
def set (m : JsMap α) (k : String) (v : α) : JsMap α :=
  if h : k ∈ m.keys then
    ⟨m.entries.map (fun e => (e.1, if e.1 = k then v else e.2)), by
      rw [List.map_map]; exact m.nodup⟩
  else
    ⟨m.entries ++ [(k, v)], by
      rw [List.map_append]
      exact List.nodup_append.2 ⟨m.nodup, List.nodup_singleton k,
        List.disjoint_singleton.2 h⟩⟩

/-- `set` applied to each pair in turn. -/
def setAll (m : JsMap α) (ps : List (String × α)) : JsMap α :=
  ps.foldl (fun m p => m.set p.1 p.2) m

@[simp] theorem get_empty (k : String) : (empty : JsMap α).get k = none := rfl

theorem lookup_cons_ite (a : String) (b : α) (l : List (String × α)) (k : String) :
    ((a, b) :: l).lookup k = if k = a then some b else l.lookup k := by
  by_cases h : k = a
  · subst h; simp [List.lookup_cons]
  · simp [List.lookup_cons, beq_false_of_ne h, h]

theorem lookup_isSome_iff_mem (l : List (String × α)) (k : String) :
    (l.lookup k).isSome ↔ k ∈ l.map Prod.fst := by
  induction l with
  | nil => simp
  | cons p l ih =>
    obtain ⟨a, b⟩ := p
    by_cases h : k = a <;> simp [lookup_cons_ite, h, ih]

theorem lookup_map_value (l : List (String × α)) (k k' : String) (v : α) :
    (l.map (fun e => (e.1, if e.1 = k then v else e.2))).lookup k' =
      if k' = k then (l.lookup k').map (fun _ => v) else l.lookup k' := by
  induction l with
  | nil => simp
  | cons e l ih =>
    obtain ⟨a, b⟩ := e
    by_cases ha : k' = a
    · subst ha; by_cases hk : k' = k <;> simp [lookup_cons_ite, hk]
    · simp [lookup_cons_ite, ha, ih]

theorem get_isSome_iff (m : JsMap α) (k : String) : (m.get k).isSome = m.has k :=
  Bool.eq_iff_iff.2 ((lookup_isSome_iff_mem _ _).trans (by simp [has, keys]))

/-- **One `set`.** -/
theorem get_set (m : JsMap α) (k k' : String) (v : α) :
    (m.set k v).get k' = if k' = k then some v else m.get k' := by
  unfold set get
  split
  · next h =>
    rw [lookup_map_value]
    split
    · next hk =>
      subst hk
      obtain ⟨w, hw⟩ := Option.isSome_iff_exists.1 ((lookup_isSome_iff_mem _ _).2 h)
      simp [hw]
    · rfl
  · next h =>
    have hnone : m.entries.lookup k = none :=
      Option.not_isSome_iff_eq_none.1 (mt (lookup_isSome_iff_mem _ _).1 h)
    by_cases hk : k' = k
    · subst hk; simp [List.lookup_append, hnone]
    · simp [List.lookup_append, lookup_cons_ite, hk]

theorem has_set (m : JsMap α) (k k' : String) (v : α) :
    (m.set k v).has k' = (k' = k || m.has k') := by
  rw [← get_isSome_iff, ← get_isSome_iff, get_set]
  by_cases hk : k' = k <;> simp [hk]

/-- **A run of `set`s**: each key holds the value of its last `set`, else what it held. -/
theorem get_setAll (m : JsMap α) (ps : List (String × α)) (k : String) :
    (m.setAll ps).get k = (ps.reverse.lookup k).or (m.get k) := by
  induction ps generalizing m with
  | nil => simp [setAll]
  | cons p ps ih =>
    obtain ⟨a, b⟩ := p
    rw [setAll, List.foldl_cons, ← setAll, ih, get_set, List.reverse_cons, List.lookup_append,
      Option.or_assoc]
    by_cases hk : k = a <;> simp [lookup_cons_ite, hk]

/-- Over distinct keys the last `set` of a key is its only one. -/
theorem lookup_reverse (l : List (String × α)) (h : (l.map Prod.fst).Nodup) (k : String) :
    l.reverse.lookup k = l.lookup k := by
  induction l with
  | nil => rfl
  | cons p l ih =>
    obtain ⟨a, b⟩ := p
    obtain ⟨hp, hl⟩ := List.nodup_cons.1 h
    rw [List.reverse_cons, List.lookup_append, ih hl]
    by_cases hk : k = a
    · subst hk
      have : l.lookup k = none :=
        Option.not_isSome_iff_eq_none.1 (mt (lookup_isSome_iff_mem _ _).1 hp)
      simp [lookup_cons_ite, this]
    · simp [lookup_cons_ite, hk]

/-- `for (const key in src) m[key] = src[key]!`. -/
def assignAll (m src : JsMap α) : JsMap α := m.setAll src.entries

/-- **The `for…in` copy**: a key of `src` takes its value there; the others keep theirs. -/
theorem get_assignAll (m src : JsMap α) (k : String) :
    (m.assignAll src).get k = (src.get k).or (m.get k) := by
  rw [assignAll, get_setAll, lookup_reverse _ src.nodup]
  rfl

end JsMap

end GeneralisedRelayer
