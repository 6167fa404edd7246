import BismuthApi.Json
import BismuthApi.Like
import Mathlib.Algebra.Order.Field.Rat
import Mathlib.Data.List.Sort
import Mathlib.Data.Option.NAry
import Mathlib.Data.Rat.Floor

/-!
# The ledger tables and the statements the handlers run on them

The handlers see the node's database through two tables, `transactions` and `misc`, and through
the parameterised statements written out in apihandler.py. A transaction is stored in one of two
encodings, chosen once for the node by `config.legacy_db`: the legacy one keeps amounts as
decimal text in coins, v2 as integers in units of 1e-8. SQL reads both as numbers, so a `Row`
holds the numbers SQL reads. Converting between encodings, and to the dict form, is the work of
bismuthcore's `Transaction` class, which apihandler.py calls but does not define: `Codec` is
that class as a parameter, with the two facts about it the handlers rely on.
-/

namespace BismuthApi

/-- A transaction as the node holds it in memory, amounts in units of 1e-8. -/
structure Transaction where
  blockHeight : Int
  timestamp : ℚ
  address : String
  recipient : String
  amount : Int
  signature : String
  publicKey : String
  blockHash : String
  fee : Int
  reward : Int
  operation : String
  openfield : String
  deriving DecidableEq, Repr

/-- A row of the transactions table as SQL reads it (its column order is the legacy tuple's). -/
structure Row where
  blockHeight : Int
  timestamp : ℚ
  address : String
  recipient : String
  amount : ℚ
  signature : String
  publicKey : String
  blockHash : String
  fee : ℚ
  reward : ℚ
  operation : String
  openfield : String
  deriving DecidableEq, Repr

/-- The legacy encoding: amounts as decimal text of the value in coins. -/
def Transaction.legacyRow (t : Transaction) : Row :=
  ⟨t.blockHeight, t.timestamp, t.address, t.recipient, t.amount / 10 ^ 8, t.signature,
    t.publicKey, t.blockHash, t.fee / 10 ^ 8, t.reward / 10 ^ 8, t.operation, t.openfield⟩

/-- The v2 encoding: amounts as integers in units of 1e-8. -/
def Transaction.v2Row (t : Transaction) : Row :=
  ⟨t.blockHeight, t.timestamp, t.address, t.recipient, t.amount, t.signature, t.publicKey,
    t.blockHash, t.fee, t.reward, t.operation, t.openfield⟩

/-- A row as a handler sends it: the tuple fetchall returns. -/
def Row.toJson (r : Row) : Json :=
  .arr [.num r.blockHeight, .num r.timestamp, .str r.address, .str r.recipient, .num r.amount,
    .str r.signature, .str r.publicKey, .str r.blockHash, .num r.fee, .num r.reward,
    .str r.operation, .str r.openfield]

/-- A row of the misc table: a block's difficulty. -/
structure MiscRow where
  blockHeight : Int
  difficulty : Json

/-- The two tables at one moment. -/
structure Ledger where
  transactions : List Row
  misc : List MiscRow

/-- The fields of `to_dict(legacy=True)` that blocktojsondiffs reads or deletes. -/
def formattedKeys : List String := ["block_height", "address", "amount", "block_hash", "reward"]

/-- bismuthcore's `Transaction` conversions: `from_legacy`, `from_v2`, `to_tuple` and
`to_dict(legacy=True, decode_pubkey=True)`. `from_legacy` raises on a row it cannot read
(`legacyError`: a TypeError on the BLOB columns of a v2 node, a ValueError on a signature that
is not base64) and otherwise builds `fromLegacy` of it, taking the height from the tuple's first
column; the dict has the fields blocktojsondiffs touches, the height among them. -/
structure Codec where
  fromLegacy : Row → Transaction
  legacyError : Row → Option Exc
  fromV2 : Row → Transaction
  toTuple : Transaction → Row
  toDict : Transaction → PyDict
  fromLegacy_blockHeight : ∀ r, (fromLegacy r).blockHeight = r.blockHeight
  toDict_blockHeight : ∀ t, (toDict t).find? (.str "block_height") = some (.num t.blockHeight)
  toDict_keys : ∀ t, ∀ k ∈ formattedKeys, ((toDict t).find? (.str k)).isSome

/-- The dict of a row that `from_legacy` reads. -/
def Codec.formatted (c : Codec) (r : Row) : PyDict := c.toDict (c.fromLegacy r)

/-- What blocktojsondiffs makes of a row:
`Transaction.from_legacy(transaction).to_dict(legacy=True, decode_pubkey=True)`, or the
exception it raises. -/
def Codec.legacyDict (c : Codec) (r : Row) : Except Exc PyDict :=
  match c.legacyError r with
  | some e => .error e
  | none => .ok (c.formatted r)

/-- Every row of the list is one `from_legacy` reads. -/
def Codec.Decodes (c : Codec) (rows : List Row) : Prop := ∀ r ∈ rows, c.legacyError r = none

/-- The spec's round-trip laws: `from_v2` of a v2 row, back `to_tuple`, is the legacy tuple, and
`from_legacy` of the legacy tuple is the transaction. -/
structure Codec.RoundTrip (c : Codec) : Prop where
  toTuple_fromV2 : ∀ t : Transaction, c.toTuple (c.fromV2 t.v2Row) = t.legacyRow
  fromLegacy_legacyRow : ∀ t : Transaction, c.fromLegacy t.legacyRow = t

/-- Text of an amount in units of 1e-8, eight decimals of the coin value. -/
def amountText (a : Int) : String :=
  let frac := toString (a.natAbs % 10 ^ 8)
  (if a < 0 then "-" else "") ++ toString (a.natAbs / 10 ^ 8) ++ "." ++
    String.mk (List.replicate (8 - frac.length) '0') ++ frac

/-- The dict form of a transaction, fields in column order, amounts as eight-decimal text. -/
def Transaction.toFields (t : Transaction) : PyDict :=
  .ofFields [("block_height", .num t.blockHeight), ("timestamp", .num t.timestamp),
    ("address", .str t.address), ("recipient", .str t.recipient),
    ("amount", .str (amountText t.amount)), ("signature", .str t.signature),
    ("pubkey", .str t.publicKey), ("block_hash", .str t.blockHash),
    ("fee", .str (amountText t.fee)), ("reward", .str (amountText t.reward)),
    ("operation", .str t.operation), ("openfield", .str t.openfield)]

/-- A codec that reads each encoding by its own scale, and every row. -/
def Codec.reference : Codec where
  fromLegacy r := ⟨r.blockHeight, r.timestamp, r.address, r.recipient, ⌊r.amount * 10 ^ 8⌋,
    r.signature, r.publicKey, r.blockHash, ⌊r.fee * 10 ^ 8⌋, ⌊r.reward * 10 ^ 8⌋,
    r.operation, r.openfield⟩
  legacyError _ := none
  fromV2 r := ⟨r.blockHeight, r.timestamp, r.address, r.recipient, ⌊r.amount⌋, r.signature,
    r.publicKey, r.blockHash, ⌊r.fee⌋, ⌊r.reward⌋, r.operation, r.openfield⟩
  toTuple := Transaction.legacyRow
  toDict := Transaction.toFields
  fromLegacy_blockHeight _ := rfl
  toDict_blockHeight _ := by simp [Transaction.toFields, PyDict.ofFields, PyDict.find?, Json.keyEq]
  toDict_keys _ := by
    simp [formattedKeys, Transaction.toFields, PyDict.ofFields, PyDict.find?, Json.keyEq]

theorem Codec.reference_roundTrip : Codec.reference.RoundTrip where
  toTuple_fromV2 t := by simp [Codec.reference, Transaction.v2Row]
  fromLegacy_legacyRow t := by
    have h : ((10 : ℚ) ^ 8) ≠ 0 := by norm_num
    simp [Codec.reference, Transaction.legacyRow, div_mul_cancel₀ _ h]

/-! ## The statements

The handlers' SQL, with the parameters they bind. SQL compares `block_height`, an integer column,
with numbers; the address columns are TEXT, to which sqlite3 binds a str as itself, a number or a
bool as its text, and None as NULL, equal to nothing. A list or a dict cannot be bound. -/

/-- sqlite3's binding of a parameter compared with a TEXT column. -/
def bindText : Json → Except Exc (Option String)
  | .str s => .ok (some s)
  | .num q => .ok (some (numText q))
  | .bool b => .ok (some (if b then "1" else "0"))
  | .null => .ok none
  | _ => .error .interfaceError

/-- The `SELECT * FROM transactions` statements, with their bound parameters. -/
inductive Select where
  /-- api_getblockrange: `block_height >= ? AND block_height < ?`. -/
  | range (lo hi : ℚ)
  /-- api_getblocksince: `block_height > ?`. -/
  | above (lo : ℚ)
  /-- api_getblockswhereoflike: `block_height > ? and block_height <= ? and openfield like ?`. -/
  | openfieldLike (lo hi : ℚ) (pattern : String)
  /-- api_getaddresssince: `block_height > ? AND block_height <= ? AND ((address = ?) OR
  (recipient = ?)) ORDER BY block_height ASC`. -/
  | addressSince (lo hi : ℚ) (address : String)

/-- Whether a row lies in the half-open height window `(lo, hi]`. -/
def Row.Within (lo hi : ℚ) (r : Row) : Prop := lo < r.blockHeight ∧ (r.blockHeight : ℚ) ≤ hi

instance (lo hi : ℚ) (r : Row) : Decidable (r.Within lo hi) := inferInstanceAs (Decidable (_ ∧ _))

/-- Whether a row involves an address as sender or recipient. -/
def Row.Involves (a : String) (r : Row) : Prop := r.address = a ∨ r.recipient = a

instance (a : String) (r : Row) : Decidable (r.Involves a) := inferInstanceAs (Decidable (_ ∨ _))

/-- ORDER BY block_height ASC, keeping table order between rows of one height. -/
def byHeight (rows : List Row) : List Row :=
  rows.insertionSort fun r₁ r₂ => r₁.blockHeight ≤ r₂.blockHeight

/-- The rows a statement returns. -/
def Select.rows (l : Ledger) : Select → List Row
  | .range lo hi => l.transactions.filter fun r => lo ≤ r.blockHeight ∧ (r.blockHeight : ℚ) < hi
  | .above lo => l.transactions.filter fun r => lo < r.blockHeight
  | .openfieldLike lo hi p => l.transactions.filter fun r => r.Within lo hi ∧ sqlLike p r.openfield
  | .addressSince lo hi a => byHeight (l.transactions.filter fun r => r.Within lo hi ∧ r.Involves a)

/-- The misc SELECT of api_getblockrange:
`SELECT difficulty FROM misc WHERE block_height >= ? AND block_height < ?`. -/
def Ledger.difficulties (l : Ledger) (lo hi : ℚ) : List Json :=
  (l.misc.filter fun m => lo ≤ m.blockHeight ∧ (m.blockHeight : ℚ) < hi).map MiscRow.difficulty

/-- The aggregate statements of _get_balance and _get_received. -/
inductive Total where
  /-- Credits: `SELECT sum(amount)+sum(reward) FROM transactions WHERE recipient = ? and
  block_height <= ?`. -/
  | credit (address : Json) (hi : ℚ)
  /-- Debits: `SELECT sum(amount)+sum(fee) FROM transactions WHERE address = ? and
  block_height <= ?`. -/
  | debit (address : Json) (hi : ℚ)
  /-- Received: `SELECT sum(amount) FROM transactions WHERE recipient = ? and
  block_height <= ?`. -/
  | received (address : Json) (hi : ℚ)

/-- SQL's `sum`: NULL over no rows. -/
def sqlSum (xs : List ℚ) : Option ℚ := if xs.isEmpty then none else some xs.sum

/-- The rows up to a height whose TEXT column equals a bound parameter. -/
def Ledger.upTo (l : Ledger) (col : Row → String) (p : Option String) (hi : ℚ) : List Row :=
  l.transactions.filter fun r => p = some (col r) ∧ (r.blockHeight : ℚ) ≤ hi

/-- The single value the statement returns; NULL + NULL is NULL. -/
def Total.value (l : Ledger) : Total → Except Exc (Option ℚ)
  | .credit a hi => (bindText a).map fun p =>
      let rows := l.upTo Row.recipient p hi
      Option.map₂ (· + ·) (sqlSum (rows.map Row.amount)) (sqlSum (rows.map Row.reward))
  | .debit a hi => (bindText a).map fun p =>
      let rows := l.upTo Row.address p hi
      Option.map₂ (· + ·) (sqlSum (rows.map Row.amount)) (sqlSum (rows.map Row.fee))
  | .received a hi => (bindText a).map fun p => sqlSum ((l.upTo Row.recipient p hi).map Row.amount)

/-- Modelled from the spec: DbHandler.block_height_max, "a current maximum confirmed height
query" over the transactions table, None while the table is empty. -/
def Ledger.blockHeightMax (l : Ledger) : Option Int := (l.transactions.map Row.blockHeight).max?

/-! ## Growth

While a request runs, the node may append blocks. It appends only above its current maximum
height and never rolls back, so a later snapshot is the earlier one with higher rows added. -/

/-- The later snapshot is the earlier one with rows appended, each higher than every row the
earlier one holds. -/
def Ledger.Extends (l l' : Ledger) : Prop :=
  ∃ rows misc, l'.transactions = l.transactions ++ rows ∧ l'.misc = l.misc ++ misc ∧
    ∀ r ∈ rows, ∀ r₀ ∈ l.transactions, r₀.blockHeight < r.blockHeight

theorem Ledger.Extends.refl (l : Ledger) : l.Extends l :=
  ⟨[], [], by simp, by simp, by simp⟩

theorem Ledger.Extends.trans {l l' l'' : Ledger} (h : l.Extends l') (h' : l'.Extends l'') :
    l.Extends l'' := by
  obtain ⟨rows, misc, ht, hm, hr⟩ := h
  obtain ⟨rows', misc', ht', hm', hr'⟩ := h'
  refine ⟨rows ++ rows', misc ++ misc', by simp [ht', ht], by simp [hm', hm], ?_⟩
  intro r hr₁ r₀ hr₀
  rcases List.mem_append.1 hr₁ with hr₁ | hr₁
  · exact hr r hr₁ r₀ hr₀
  · exact hr' r hr₁ r₀ (by simp [ht, hr₀])

/-- Along a run in which every snapshot extends the one before, a later snapshot extends an
earlier one. -/
theorem Ledger.Extends.of_chain {σ : Nat → Ledger} (hσ : ∀ t, (σ t).Extends (σ (t + 1)))
    (t j : Nat) : (σ t).Extends (σ (t + j)) := by
  induction j with
  | zero => exact .refl _
  | succ j ih => exact ih.trans (hσ (t + j))

/-- Rows appended above the tip fail every filter that keeps only rows at or below the tip. -/
theorem Ledger.filter_extends {l l' : Ledger} (h : l.Extends l') {M : Int}
    (hM : l.blockHeightMax = some M) (p : Row → Bool) (hp : ∀ r, p r = true → r.blockHeight ≤ M) :
    l'.transactions.filter p = l.transactions.filter p := by
  obtain ⟨rows, misc, ht, -, hr⟩ := h
  obtain ⟨r₀, hr₀, hM₀⟩ : ∃ r₀ ∈ l.transactions, r₀.blockHeight = M := by
    simpa [Ledger.blockHeightMax] using List.max?_mem (fun a b => max_choice a b) hM
  simp only [ht, List.filter_append, List.append_right_eq_self, List.filter_eq_nil_iff]
  intro r hr₁ hpr
  have := hr r hr₁ r₀ hr₀
  have := hp r hpr
  omega

/-- The tip never goes down. -/
theorem Ledger.Extends.tip_le {l l' : Ledger} (h : l.Extends l') {M : Int}
    (hM : l.blockHeightMax = some M) : ∃ M', l'.blockHeightMax = some M' ∧ M ≤ M' := by
  obtain ⟨rows, misc, ht, -, -⟩ := h
  have hmem : M ∈ l'.transactions.map Row.blockHeight := by
    rw [ht, List.map_append]
    exact List.mem_append_left _ (List.max?_mem (fun a b => max_choice a b) hM)
  obtain ⟨M', hM'⟩ := Option.isSome_iff_exists.1 (List.isSome_max?_of_mem hmem)
  exact ⟨M', hM', (List.max?_le_iff (fun _ _ _ => max_le_iff) hM').1 le_rfl M hmem⟩

/-- Rows appended above the tip lie above every bound that does not pass the tip. -/
theorem Ledger.upTo_extends {l l' : Ledger} (h : l.Extends l') {M : Int}
    (hM : l.blockHeightMax = some M) {hi : ℚ} (hhi : hi ≤ M) (col : Row → String)
    (p : Option String) : l'.upTo col p hi = l.upTo col p hi :=
  Ledger.filter_extends h hM _ fun r hr => by
    have : (r.blockHeight : ℚ) ≤ M := le_trans (of_decide_eq_true hr).2 hhi
    exact_mod_cast this

/-- Misc rows are appended too, so a window's difficulties read later start with the ones read
earlier. -/
theorem Ledger.difficulties_extends {l l' : Ledger} (h : l.Extends l') (lo hi : ℚ) :
    ∃ extra, l'.difficulties lo hi = l.difficulties lo hi ++ extra := by
  obtain ⟨-, misc, -, hm, -⟩ := h
  exact ⟨_, by rw [Ledger.difficulties, Ledger.difficulties, hm, List.filter_append,
    List.map_append]⟩

/-- The bound an aggregate statement binds for `block_height <= ?`. -/
def Total.bound : Total → ℚ
  | .credit _ hi | .debit _ hi | .received _ hi => hi

theorem Total.value_extends {l l' : Ledger} (h : l.Extends l') {M : Int}
    (hM : l.blockHeightMax = some M) (q : Total) (hq : q.bound ≤ M) : q.value l' = q.value l := by
  cases q <;> simp only [Total.bound] at hq <;> simp only [Total.value, Ledger.upTo_extends h hM hq]

end BismuthApi
