import Mathlib.Data.Rat.Defs
import Mathlib.Data.List.Basic

/-!
# Python values at the API boundary

`connections.receive` hands a handler whatever the client's JSON decodes to, and the handlers
use it through Python's own conversions: `int(...)`, comparisons and `+`, iteration, `str(...)`,
truthiness and dict assignment. Each conversion below raises where Python raises, on the values
this type holds. Numbers are exact rationals: Python's split between `int` and `float` is not
kept, so amounts compare by value, a float is the exact value of its decimal text, and the NaN
and Infinity that Python's json module also decodes are not values here.
-/

namespace BismuthApi

/-- Exceptions the modelled code raises or lets through. `external` is whatever a collaborator
(ledger store, mempool, peer registry, address validator) raises on its own; `interfaceError` is
sqlite3 refusing to bind a parameter. -/
inductive Exc where
  | typeError
  | valueError (msg : String)
  | attributeError
  | indexError
  | keyError
  | interfaceError
  | external
  deriving DecidableEq, Repr

/-- A value decoded from JSON, as Python holds it. -/
inductive Json where
  | null
  | bool (b : Bool)
  | num (q : ℚ)
  | str (s : String)
  | arr (vs : List Json)
  | obj (kvs : List (String × Json))
  deriving Repr, Inhabited

@[simp] theorem except_ok_bind {ε α β : Type} (a : α) (f : α → Except ε β) :
    (Except.ok a >>= f) = f a := rfl

@[simp] theorem except_error_bind {ε α β : Type} (e : ε) (f : α → Except ε β) :
    (Except.error e >>= f : Except ε β) = .error e := rfl

@[simp] theorem except_isOk_ok {ε α : Type} (a : α) : (Except.ok a : Except ε α).isOk = true := rfl

@[simp] theorem except_isOk_error {ε α : Type} (e : ε) : (Except.error e : Except ε α).isOk = false :=
  rfl

/-- Results of computations on decidable values can be compared. -/
instance instDecidableEqExcept {ε α : Type} [DecidableEq ε] [DecidableEq α] :
    DecidableEq (Except ε α)
  | .ok a, .ok b => if h : a = b then isTrue (h ▸ rfl) else isFalse fun e => h (Except.ok.inj e)
  | .error a, .error b =>
    if h : a = b then isTrue (h ▸ rfl) else isFalse fun e => h (Except.error.inj e)
  | .ok _, .error _ => isFalse Except.noConfusion
  | .error _, .ok _ => isFalse Except.noConfusion

theorem except_bind_congr {ε α β : Type} {x : Except ε α} {f g : α → Except ε β}
    (h : ∀ a, x = .ok a → f a = g a) : x >>= f = x >>= g := by
  cases x with
  | error => rfl
  | ok a => exact h a rfl

/-- The number Python's arithmetic and ordering see in a value; `"a" < 1`, `None - 11` and the
like are TypeErrors. -/
def pyNum : Json → Except Exc ℚ
  | .num q => .ok q
  | .bool b => .ok (if b then 1 else 0)
  | _ => .error .typeError

@[simp] theorem pyNum_num (q : ℚ) : pyNum (.num q) = .ok q := rfl

/-- What a Python for loop visits: list items, the characters of a string, the keys of a dict. -/
def pyIter : Json → Except Exc (List Json)
  | .arr vs => .ok vs
  | .str s => .ok (s.toList.map fun c => .str (String.singleton c))
  | .obj kvs => .ok (kvs.map fun kv => .str kv.1)
  | _ => .error .typeError

/-- Python truthiness. -/
def pyTruthy : Json → Bool
  | .null => false
  | .bool b => b
  | .num q => q != 0
  | .str s => !s.isEmpty
  | .arr vs => !vs.isEmpty
  | .obj kvs => !kvs.isEmpty

/-- Decimal text of a number: an integer as Python prints an int, a terminating fraction as its
exact decimal expansion (what Python prints for the float of that decimal), anything else as a
quotient. -/
def numText (q : ℚ) : String :=
  if q.den = 1 then toString q.num
  else
    match (List.range 40).find? (fun k => Nat.pow 10 k % q.den == 0) with
    | some k =>
      let ds := (toString (q.num.natAbs * (Nat.pow 10 k / q.den))).toList
      let ds := List.replicate (k + 1 - ds.length) '0' ++ ds
      (if q.num < 0 then "-" else "") ++ String.mk (ds.take (ds.length - k)) ++ "." ++
        String.mk (ds.drop (ds.length - k))
    | none => toString q.num ++ "/" ++ toString q.den

mutual
/-- Python's `repr` of a decoded value. -/
def Json.repr : Json → String
  | .null => "None"
  | .bool b => if b then "True" else "False"
  | .num q => numText q
  | .str s => "'" ++ s ++ "'"
  | .arr vs => "[" ++ reprItems vs ++ "]"
  | .obj kvs => "\x7b" ++ reprFields kvs ++ "\x7d"
/-- The items of a list, as Python's `repr` separates them. -/
def reprItems : List Json → String
  | [] => ""
  | [v] => v.repr
  | v :: vs => v.repr ++ ", " ++ reprItems vs
/-- The members of a dict, as Python's `repr` separates them. -/
def reprFields : List (String × Json) → String
  | [] => ""
  | [(k, v)] => "'" ++ k ++ "': " ++ v.repr
  | (k, v) :: kvs => "'" ++ k ++ "': " ++ v.repr ++ ", " ++ reprFields kvs
end

/-- Python's `str(v)`: a string is itself, anything else its `repr`. -/
def pyStr : Json → String
  | .str s => s
  | v => v.repr

/-! ## int() of a text

CPython's `int(s)` first rewrites the text to ASCII (`_PyUnicode_TransformDecimalAndSpaceToASCII`):
whitespace outside ASCII becomes a blank, a decimal digit outside ASCII its ASCII digit, and any
other character outside ASCII ends the text as a `'?'`, which no literal holds. `PyLong_FromString`
then reads, between blanks, an optional sign right before the digits and at least one digit,
with single underscores allowed between two digits. The tables are those of Python 3.11
(Unicode 14.0). -/

/-- The whitespace outside ASCII, as `str.isspace` has it. -/
def unicodeSpaces : List Nat :=
  [0x85, 0xa0, 0x1680, 0x2000, 0x2001, 0x2002, 0x2003, 0x2004, 0x2005, 0x2006, 0x2007, 0x2008,
    0x2009, 0x200a, 0x2028, 0x2029, 0x202f, 0x205f, 0x3000]

/-- The digit zero of each run of ten decimal digits outside ASCII (category Nd); the run holds
the digits 0 to 9 in order. -/
def decimalZeros : List Nat :=
  [0x660, 0x6f0, 0x7c0, 0x966, 0x9e6, 0xa66, 0xae6, 0xb66, 0xbe6, 0xc66, 0xce6, 0xd66, 0xde6,
    0xe50, 0xed0, 0xf20, 0x1040, 0x1090, 0x17e0, 0x1810, 0x1946, 0x19d0, 0x1a80, 0x1a90, 0x1b50,
    0x1bb0, 0x1c40, 0x1c50, 0xa620, 0xa8d0, 0xa900, 0xa9d0, 0xa9f0, 0xaa50, 0xabf0, 0xff10,
    0x104a0, 0x10d30, 0x11066, 0x110f0, 0x11136, 0x111d0, 0x112f0, 0x11450, 0x114d0, 0x11650,
    0x116c0, 0x11730, 0x118e0, 0x11950, 0x11c50, 0x11d50, 0x11da0, 0x16a60, 0x16ac0, 0x16b50,
    0x1d7ce, 0x1d7d8, 0x1d7e2, 0x1d7ec, 0x1d7f6, 0x1e140, 0x1e2f0, 0x1e950, 0x1fbf0]

/-- How int() rewrites one character of its text to ASCII. -/
def asciiOf (c : Char) : Char :=
  if c.toNat < 127 then c
  else if unicodeSpaces.contains c.toNat then ' '
  else match decimalZeros.find? fun z => z ≤ c.toNat && c.toNat < z + 10 with
    | some z => Char.ofNat (c.toNat - z + 48)
    | none => '?'

/-- C's `isspace`: the blanks int() strips around a literal. -/
def isCSpace (c : Char) : Bool :=
  c == ' ' || c == '\t' || c == '\n' || c == '\x0b' || c == '\x0c' || c == '\r'

/-- The digits after the first, read onto `acc`; a single underscore may stand before a digit. -/
def readDigits (acc : Nat) : List Char → Option Nat
  | [] => some acc
  | '_' :: d :: cs => if d.isDigit then readDigits (10 * acc + (d.toNat - 48)) cs else none
  | d :: cs => if d.isDigit then readDigits (10 * acc + (d.toNat - 48)) cs else none

/-- A literal without its sign: a digit, then digits and single underscores. -/
def readNatural : List Char → Option Nat
  | d :: cs => if d.isDigit then readDigits (d.toNat - 48) cs else none
  | [] => none

/-- `PyLong_FromString` in base 10, on the text rewritten to ASCII, its blanks stripped. -/
def readInteger : List Char → Option Int
  | '-' :: cs => (readNatural cs).map fun n => -(n : Int)
  | '+' :: cs => (readNatural cs).map Int.ofNat
  | cs => (readNatural cs).map Int.ofNat

/-- Python's `int(s)` of a text, when the text is a literal. -/
def intOfText (s : String) : Option Int :=
  readInteger (((s.toList.map asciiOf).dropWhile isCSpace).reverse.dropWhile isCSpace).reverse

/-- Python's `int(v)`: numbers truncate toward zero, booleans are 0 and 1, a text is read as a
literal in base 10; anything else is a TypeError. -/
def pyInt : Json → Except Exc Int
  | .num q => .ok (q.num.tdiv q.den)
  | .bool b => .ok (if b then 1 else 0)
  | .str s =>
    match intOfText s with
    | some n => .ok n
    | none => .error (.valueError ("invalid literal for int() with base 10: " ++ (Json.str s).repr))
  | _ => .error .typeError

/-- Four lowercase hex digits, as json.dumps writes a `\u` escape. -/
def hex4 (n : Nat) : String :=
  String.mk ((List.range 4).reverse.map fun i => Nat.digitChar (n / Nat.pow 16 i % 16))

/-- One character of a JSON string literal under json.dumps' default `ensure_ascii`. -/
def escapeChar (c : Char) : String :=
  if c = '"' then "\\\"" else if c = '\\' then "\\\\"
  else if c = '\n' then "\\n" else if c = '\r' then "\\r" else if c = '\t' then "\\t"
  else if c.toNat = 8 then "\\b" else if c.toNat = 12 then "\\f"
  else if c.toNat < 0x20 ∨ (0x7f < c.toNat ∧ c.toNat < 0x10000) then "\\u" ++ hex4 c.toNat
  else if 0x10000 ≤ c.toNat then
    "\\u" ++ hex4 (0xd800 + (c.toNat - 0x10000) / 0x400) ++
      "\\u" ++ hex4 (0xdc00 + (c.toNat - 0x10000) % 0x400)
  else String.singleton c

/-- A JSON string literal. -/
def quote (s : String) : String := "\"" ++ String.join (s.toList.map escapeChar) ++ "\""

mutual
/-- Python's json.dumps with its default separators. -/
def Json.dumps : Json → String
  | .null => "null"
  | .bool b => if b then "true" else "false"
  | .num q => numText q
  | .str s => quote s
  | .arr vs => "[" ++ dumpsItems vs ++ "]"
  | .obj kvs => "\x7b" ++ dumpsFields kvs ++ "\x7d"
/-- The items of an array, separated as json.dumps separates them. -/
def dumpsItems : List Json → String
  | [] => ""
  | [v] => v.dumps
  | v :: vs => v.dumps ++ ", " ++ dumpsItems vs
/-- The members of an object, separated as json.dumps separates them. -/
def dumpsFields : List (String × Json) → String
  | [] => ""
  | [(k, v)] => quote k ++ ": " ++ v.dumps
  | (k, v) :: kvs => quote k ++ ": " ++ v.dumps ++ ", " ++ dumpsFields kvs
end

/-- The member of an object under a key. -/
def Json.field? : Json → String → Option Json
  | .obj kvs, k => kvs.lookup k
  | _, _ => none

/-! ## Python dicts

A handler's dict is keyed by Python values: `blocks_dict` by block heights, the balance maps by
whatever the client listed as addresses. Keys compare as Python compares them (`1 == True`),
lists and dicts cannot be keys, and json.dumps writes every key as a string. -/

/-- The number a key stands for, when it is one. -/
def Json.keyNum? : Json → Option ℚ
  | .num q => some q
  | .bool b => some (if b then 1 else 0)
  | _ => none

/-- Python's `==` between two dict keys. -/
def Json.keyEq : Json → Json → Bool
  | .str s, .str t => s == t
  | .null, .null => true
  | a, b =>
    match a.keyNum?, b.keyNum? with
    | some x, some y => x == y
    | _, _ => false

/-- Lists and dicts are unhashable. -/
def Json.hashable : Json → Bool
  | .arr _ => false
  | .obj _ => false
  | _ => true

/-- The text json.dumps writes for a dict key. -/
def Json.keyText : Json → String
  | .str s => s
  | .num q => numText q
  | .bool b => if b then "true" else "false"
  | v => v.dumps

@[simp] theorem Json.keyEq_str_iff (a : Json) (k : String) : a.keyEq (.str k) = true ↔ a = .str k := by
  cases a <;> simp [Json.keyEq, Json.keyNum?]

@[simp] theorem Json.keyEq_str_eq_false (a : Json) (k : String) :
    a.keyEq (.str k) = false ↔ a ≠ .str k := by
  rw [Ne, ← Json.keyEq_str_iff, Bool.not_eq_true]

@[simp] theorem Json.keyEq_str_str (a b : String) : (Json.str a).keyEq (.str b) = (a == b) := rfl

@[simp] theorem Json.keyEq_num (a b : ℚ) : (Json.num a).keyEq (.num b) = (a == b) := by
  simp [Json.keyEq, Json.keyNum?]

@[simp] theorem Json.keyEq_null_num (b : ℚ) : Json.null.keyEq (.num b) = false := by
  simp [Json.keyEq, Json.keyNum?]

theorem Json.keyEq_num_iff (a : Json) (q : ℚ) : a.keyEq (.num q) = true ↔ a.keyNum? = some q := by
  cases a <;> simp [Json.keyEq, Json.keyNum?]

/-- A Python dict, in insertion order. -/
structure PyDict where
  entries : List (Json × Json)
  deriving Inhabited

namespace PyDict

/-- The empty dict. -/
def empty : PyDict := ⟨[]⟩

/-- The keys, in insertion order. -/
def keys (d : PyDict) : List Json := d.entries.map Prod.fst

/-- The value under a key, when the key is there. -/
def find? (d : PyDict) (k : Json) : Option Json :=
  (d.entries.find? fun e => e.1.keyEq k).map Prod.snd

/-- Overwrite every entry whose key equals `k`. -/
def overwrite (k v : Json) : List (Json × Json) → List (Json × Json)
  | [] => []
  | e :: es => (if e.1.keyEq k then (e.1, v) else e) :: overwrite k v es

/-- Whether the dict holds the key. -/
def has (d : PyDict) (k : Json) : Bool := d.entries.any fun e => e.1.keyEq k

/-- Assignment under a hashable key: an existing key keeps its place, a new one goes last. -/
def put (d : PyDict) (k v : Json) : PyDict :=
  if d.has k then ⟨overwrite k v d.entries⟩ else ⟨d.entries ++ [(k, v)]⟩

/-- Python's `d[k] = v`. -/
def set (d : PyDict) (k v : Json) : Except Exc PyDict :=
  if k.hashable then .ok (d.put k v) else .error .typeError

/-- Python's `d[k]`. -/
def get (d : PyDict) (k : Json) : Except Exc Json :=
  if !k.hashable then .error .typeError
  else match d.find? k with
    | some v => .ok v
    | none => .error .keyError

/-- The dict without the entries under `k`. -/
def erase (d : PyDict) (k : Json) : PyDict := ⟨d.entries.filter fun e => !e.1.keyEq k⟩

/-- Python's `del d[k]`. -/
def del (d : PyDict) (k : Json) : Except Exc PyDict :=
  if !k.hashable then .error .typeError
  else if d.has k then .ok (d.erase k)
  else .error .keyError

/-- The JSON object json.dumps writes for the dict. -/
def toJson (d : PyDict) : Json := .obj (d.entries.map fun e => (e.1.keyText, e.2))

/-- A dict keyed by strings. -/
def ofFields (kvs : List (String × Json)) : PyDict := ⟨kvs.map fun kv => (.str kv.1, kv.2)⟩

theorem set_str (d : PyDict) (k : String) (v : Json) : d.set (.str k) v = .ok (d.put (.str k) v) :=
  rfl

theorem has_of_find? {d : PyDict} {k : Json} (h : (d.find? k).isSome) : d.has k := by
  simpa [find?, has, List.find?_isSome] using h

theorem get_of_find? {d : PyDict} {k : Json} {v : Json} (hk : k.hashable) (h : d.find? k = some v) :
    d.get k = .ok v := by
  simp [get, hk, h]

theorem del_of_find? {d : PyDict} {k : Json} (hk : k.hashable) (h : (d.find? k).isSome) :
    d.del k = .ok (d.erase k) := by
  simp [del, hk, has_of_find? h]

theorem find?_erase_str {d : PyDict} {k k' : String} (h : k ≠ k') :
    (d.erase (.str k)).find? (.str k') = d.find? (.str k') := by
  simp only [find?, erase, List.find?_filter]
  congr 2
  funext e
  by_cases he : e.1 = .str k' <;> simp [he, h.symm]

theorem keys_overwrite (k v : Json) (es : List (Json × Json)) :
    (overwrite k v es).map Prod.fst = es.map Prod.fst := by
  induction es with
  | nil => rfl
  | cons e es ih => by_cases h : e.1.keyEq k <;> simp [overwrite, h, ih]

theorem has_eq_any_keys (d : PyDict) (k : Json) : d.has k = d.keys.any (·.keyEq k) := by
  rcases d with ⟨es⟩
  induction es with
  | nil => rfl
  | cons e es ih =>
    simp only [has, keys, List.any_cons, List.map_cons] at ih ⊢
    rw [ih]

theorem put_of_not_has {d : PyDict} {k : Json} (h : d.has k = false) (v : Json) :
    d.put k v = ⟨d.entries ++ [(k, v)]⟩ := by
  simp [put, h]

theorem has_eq_isSome_find? (d : PyDict) (k : Json) : d.has k = (d.find? k).isSome := by
  simp only [has, find?, Option.isSome_map']
  rw [Bool.eq_iff_iff, List.any_eq_true, List.find?_isSome]

theorem keys_put (d : PyDict) (k v : Json) :
    (d.put k v).keys = if d.has k then d.keys else d.keys ++ [k] := by
  unfold put keys
  split <;> simp [keys_overwrite]

section Put
variable {k q : Json} {c : Bool} (hq : ∀ x : Json, x.keyEq q = true → x.keyEq k = c)
include hq

/-- An overwrite keeps every entry in its place, so `q` finds the entry it found before; that
entry now holds the new value when the keys `q` matches are keys `k` matches (`c`). -/
theorem find?_overwrite (v : Json) (es : List (Json × Json)) :
    ((overwrite k v es).find? fun e => e.1.keyEq q).map Prod.snd =
      (es.find? fun e => e.1.keyEq q).map fun e => if c then v else e.2 := by
  induction es with
  | nil => rfl
  | cons e es ih =>
    have hkey : (if e.1.keyEq k then (e.1, v) else e).1 = e.1 := by split <;> rfl
    by_cases he : e.1.keyEq q = true
    · cases c <;> simp [overwrite, List.find?_cons, hkey, he, hq _ he]
    · simp [overwrite, List.find?_cons, hkey, he, ih]

/-- Python's `d[k] = v`, read back with `d[q]`, for keys that Python's `==` either identifies
(`c`) or tells apart. -/
theorem find?_put (hk : ∀ x : Json, x.keyEq k = true → c = true → x.keyEq q = true)
    (hkk : k.keyEq q = c) (d : PyDict) (v : Json) :
    (d.put k v).find? q = if c then some v else d.find? q := by
  unfold put
  by_cases hd : d.has k
  · rw [if_pos hd]
    simp only [find?]
    rw [find?_overwrite hq]
    cases c
    · simp
    · obtain ⟨e, he, hek⟩ := List.any_eq_true.1 hd
      have hsome : (d.entries.find? fun e => e.1.keyEq q).isSome :=
        List.find?_isSome.2 ⟨e, he, hk _ hek rfl⟩
      obtain ⟨e', he'⟩ := Option.isSome_iff_exists.1 hsome
      simp [he']
  · rw [if_neg hd]
    cases c
    · simp [find?, List.find?_append, hkk]
    · have hnone : (d.entries.find? fun e => e.1.keyEq q) = none :=
        List.find?_eq_none.2 fun e he h => hd (List.any_eq_true.2 ⟨e, he, hq _ h⟩)
      simp [find?, List.find?_append, hnone, hkk]

end Put

theorem find?_put_str (d : PyDict) (k q : String) (v : Json) :
    (d.put (.str k) v).find? (.str q) = if q = k then some v else d.find? (.str q) := by
  simpa using @find?_put (.str k) (.str q) (decide (q = k))
    (fun x hx => by rw [(Json.keyEq_str_iff x q).1 hx, Json.keyEq_str_str, Bool.beq_eq_decide_eq])
    (fun x hx hc => by simp_all)
    (by rw [Json.keyEq_str_str, Bool.beq_eq_decide_eq]; simp [eq_comm]) d v

theorem find?_put_num (d : PyDict) (k q : ℚ) (v : Json) :
    (d.put (.num k) v).find? (.num q) = if q = k then some v else d.find? (.num q) := by
  simpa using @find?_put (.num k) (.num q) (decide (q = k))
    (fun x hx => by
      rw [Bool.eq_iff_iff, Json.keyEq_num_iff, (Json.keyEq_num_iff x q).1 hx]; simp)
    (fun x hx hc => by simp_all [Json.keyEq_num_iff])
    (by rw [Json.keyEq_num, Bool.beq_eq_decide_eq]; simp [eq_comm]) d v

/-- Assigning keys that are pairwise distinct and new to the dict appends them in order. -/
theorem foldl_put_fresh {β : Type} (key : β → Json) (val : β → Json) (ps : List β)
    (hps : (ps.map key).Pairwise fun a b => a.keyEq b = false) (d : PyDict)
    (hd : ∀ p ∈ ps, d.has (key p) = false) :
    ps.foldl (fun d p => d.put (key p) (val p)) d = ⟨d.entries ++ ps.map fun p => (key p, val p)⟩ := by
  induction ps generalizing d with
  | nil => simp
  | cons p ps ih =>
    obtain ⟨hp, hps⟩ := List.pairwise_cons.1 hps
    rw [List.foldl_cons, put_of_not_has (hd p (List.mem_cons_self _ _)), ih hps]
    · simp
    · intro q hq
      simp only [has, List.any_append, List.any_cons, List.any_nil, Bool.or_false,
        Bool.or_eq_false_iff]
      exact ⟨hd q (List.mem_cons_of_mem _ hq), hp _ (List.mem_map_of_mem _ hq)⟩

theorem find?_ofFields (kvs : List (String × Json)) (q : String) :
    (ofFields kvs).find? (.str q) = kvs.lookup q := by
  induction kvs with
  | nil => rfl
  | cons kv kvs ih =>
    obtain ⟨k, v⟩ := kv
    by_cases h : q = k
    · simp [ofFields, find?, List.lookup_cons, h]
    · simpa [ofFields, find?, List.lookup_cons, beq_eq_false_iff_ne.2 h, Ne.symm h] using ih

theorem keys_ofFields (kvs : List (String × Json)) :
    (ofFields kvs).keys = kvs.map fun kv => .str kv.1 := by
  simp [ofFields, keys]

end PyDict

end BismuthApi
