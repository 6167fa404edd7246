import BismuthApi.Aggregates
import BismuthApi.Windows

/-!
# Legacy and v2 storage

A node stores its ledger either as legacy tuples, amounts in coins, or as v2 rows, amounts in
units of 1e-8. In v2 mode the handlers that send rows convert each row with `from_v2` and
`to_tuple`, and the ones that send sums divide them by 1e8; under the spec's round-trip laws
they then send what legacy mode sends on the same logical ledger. api_getblockrange converts
nothing: it hands the v2 rows to blocktojsondiffs, whose `from_legacy` reads their amounts as
coins, 1e8 times too large.
-/

namespace BismuthApi

/-! ## The two encodings of a ledger -/

/-- The store of a legacy node holding the transactions `txs`. -/
def Ledger.legacyOf (txs : List Transaction) (misc : List MiscRow) : Ledger :=
  ⟨txs.map Transaction.legacyRow, misc⟩

/-- The store of a v2 node holding the transactions `txs`. -/
def Ledger.v2Of (txs : List Transaction) (misc : List MiscRow) : Ledger :=
  ⟨txs.map Transaction.v2Row, misc⟩

variable {txs : List Transaction} {misc : List MiscRow}

theorem blockHeightMax_legacyOf :
    (Ledger.legacyOf txs misc).blockHeightMax = (Ledger.v2Of txs misc).blockHeightMax := by
  simp only [Ledger.blockHeightMax, Ledger.legacyOf, Ledger.v2Of, List.map_map]
  rfl

/-- Both encodings keep the heights, so ORDER BY block_height orders them alike. -/
theorem byHeight_map (f : Transaction → Row) (hf : ∀ t, (f t).blockHeight = t.blockHeight)
    (ts : List Transaction) :
    byHeight (ts.map f) = (ts.insertionSort fun a b => a.blockHeight ≤ b.blockHeight).map f :=
  (List.map_insertionSort _ _ f ts fun a _ b _ => by simp only [hf]).symm

/-- Every statement selects the same transactions from both stores; converted, the v2 rows are
the legacy ones. -/
theorem rows_v2Of {codec : Codec} (hc : codec.RoundTrip) (q : Select) :
    (q.rows (Ledger.v2Of txs misc)).map (fun r => codec.toTuple (codec.fromV2 r)) =
      q.rows (Ledger.legacyOf txs misc) := by
  have hmap : (fun r => codec.toTuple (codec.fromV2 r)) ∘ Transaction.v2Row =
      Transaction.legacyRow := funext hc.toTuple_fromV2
  cases q <;> simp only [Select.rows, Ledger.v2Of, Ledger.legacyOf, List.filter_map,
    byHeight_map Transaction.v2Row (fun _ => rfl),
    byHeight_map Transaction.legacyRow (fun _ => rfl), List.map_map, hmap] <;> rfl


/-! ## Sums -/

theorem sqlSum_map_div (xs : List ℚ) (c : ℚ) :
    sqlSum (xs.map (· / c)) = (sqlSum xs).map (· / c) := by
  by_cases h : xs = [] <;> simp [sqlSum, h, div_eq_mul_inv, List.sum_map_mul_right]

theorem map₂_add_div (x y : Option ℚ) (c : ℚ) :
    Option.map₂ (· + ·) (x.map (· / c)) (y.map (· / c)) = (Option.map₂ (· + ·) x y).map (· / c) := by
  cases x <;> cases y <;> simp [add_div]

/-- A legacy amount column is the v2 column in coins. -/
theorem map_legacyRow (col : Row → ℚ) (hcol : ∀ t : Transaction, col t.legacyRow = col t.v2Row / 10 ^ 8)
    (ts : List Transaction) :
    (ts.map Transaction.legacyRow).map col = ((ts.map Transaction.v2Row).map col).map (· / 10 ^ 8) := by
  simp [hcol]

/-- Every sum of the legacy store is the v2 one in coins. -/
theorem value_legacyOf (q : Total) :
    q.value (Ledger.legacyOf txs misc) =
      (q.value (Ledger.v2Of txs misc)).map (Option.map (· / 10 ^ 8)) := by
  cases q <;>
  · simp only [Total.value, Ledger.upTo, Ledger.legacyOf, Ledger.v2Of, List.filter_map]
    cases bindText ‹Json› with
    | error => rfl
    | ok p =>
      simp only [Except.map, map_legacyRow Row.amount (fun _ => rfl),
        map_legacyRow Row.reward (fun _ => rfl), map_legacyRow Row.fee (fun _ => rfl),
        sqlSum_map_div, map₂_add_div]
      rfl


theorem balance_legacyOf (address minconf : Json) :
    (Ledger.legacyOf txs misc).balance address minconf =
      ((Ledger.v2Of txs misc).balance address minconf).map (· / 10 ^ 8) := by
  unfold Ledger.balance balanceAt
  rw [blockHeightMax_legacyOf]
  cases pySub (heightValue (Ledger.v2Of txs misc).blockHeightMax) minconf with
  | error => rfl
  | ok hi =>
    simp only [except_ok_bind, value_legacyOf]
    cases (Total.credit address hi).value (Ledger.v2Of txs misc) with
    | error => rfl
    | ok c =>
      cases (Total.debit address hi).value (Ledger.v2Of txs misc) with
      | error => rfl
      | ok d => cases c <;> cases d <;> simp [Except.map, sub_div, neg_div]

theorem received_legacyOf (address minconf : Json) :
    (Ledger.legacyOf txs misc).received address minconf =
      ((Ledger.v2Of txs misc).received address minconf).map (· / 10 ^ 8) := by
  unfold Ledger.received receivedAt
  rw [blockHeightMax_legacyOf]
  cases pySub (heightValue (Ledger.v2Of txs misc).blockHeightMax) minconf with
  | error => rfl
  | ok hi =>
    simp only [except_ok_bind, value_legacyOf]
    cases (Total.received address hi).value (Ledger.v2Of txs misc) with
    | error => rfl
    | ok c => cases c <;> simp [Except.map]

/-- Adding coin amounts is adding the unit amounts and converting once. -/
theorem addUp_div (f : Nat → Json → Except Exc ℚ) (k : Nat) (c : ℚ) (as : List Json) (t : Nat)
    {b b' : ℚ} (hb : b' = b / c) :
    addUp (fun t a => (f t a).map (· / c)) k t as b' = (addUp f k t as b).map (· / c) := by
  induction as generalizing t b b' with
  | nil => simp [addUp, foldUp, Except.map, hb]
  | cons a as ih =>
    simp only [addUp, foldUp_cons]
    cases f t a with
    | error => rfl
    | ok q => exact ih (t + k) (by rw [hb, add_div])

/-- Listing coin amounts stored as they are is listing unit amounts stored converted, since
conversion keeps the sign. -/
theorem listUp_div (f : Nat → Json → Except Exc ℚ) (k : Nat) (includeEmpty : Json) {c : ℚ}
    (hc : 0 < c) {sl sv : ℚ → ℚ} (hs : ∀ q, sl (q / c) = sv q) (as : List Json) (t : Nat)
    (d : PyDict) :
    listUp (fun t a => (f t a).map (· / c)) k includeEmpty sl t as d =
      listUp f k includeEmpty sv t as d := by
  induction as generalizing t d with
  | nil => rfl
  | cons a as ih =>
    simp only [listUp, foldUp_cons]
    cases f t a with
    | error => rfl
    | ok q =>
      simp only [Except.map, except_ok_bind, hs, div_pos_iff_of_pos_right hc]
      split
      · cases d.set a (.num (sv q)) with
        | error => rfl
        | ok d' => exact ih (t + k) d'
      · exact ih (t + k) d


/-! ## The handlers -/

/-- The handler sends the same values in legacy mode on the legacy store of a logical ledger as
in v2 mode on its v2 store, from session `s`. -/
def SameReply (handler : Config → Api Unit) (slots : List (String × Option Json))
    (txs : List Transaction) (misc : List MiscRow) (s : Session) : Prop :=
  ((handler ⟨true, slots⟩).run (stillWorld (.legacyOf txs misc)) s).2.sent =
    ((handler ⟨false, slots⟩).run (stillWorld (.v2Of txs misc)) s).2.sent

section Same
variable {codec : Codec} (slots : List (String × Option Json))

theorem sentRows_v2Of (hc : codec.RoundTrip) (q : Select) :
    Config.sentRows ⟨false, slots⟩ codec (q.rows (.v2Of txs misc)) =
      Config.sentRows ⟨true, slots⟩ codec (q.rows (.legacyOf txs misc)) :=
  rows_v2Of hc q

theorem sameReply_getblocksince (hc : codec.RoundTrip) (v : Json) (vs sent : List Json) (t : Nat) :
    SameReply (apiGetblocksince · codec) slots txs misc ⟨v :: vs, sent, t⟩ := by
  unfold SameReply
  rw [run_apiGetblocksince, run_apiGetblocksince]
  simp only [stillWorld, blockHeightMax_legacyOf]
  cases sinceBound (Ledger.v2Of txs misc).blockHeightMax v with
  | error => rfl
  | ok b => simp only [sentRows_v2Of slots hc]

theorem sameReply_getblockswhereoflike (hc : codec.RoundTrip) (v₁ v₂ : Json) (vs sent : List Json)
    (t : Nat) : SameReply (apiGetblockswhereoflike · codec) slots txs misc ⟨v₁ :: v₂ :: vs, sent, t⟩ := by
  unfold SameReply
  rw [run_apiGetblockswhereoflike, run_apiGetblockswhereoflike]
  simp only [stillWorld, blockHeightMax_legacyOf]
  cases pyInt v₁ with
  | error => rfl
  | ok s =>
    cases pyConcat v₂ "%" with
    | error => rfl
    | ok p =>
      dsimp only
      cases likeBound (Ledger.v2Of txs misc).blockHeightMax s with
      | error => rfl
      | ok b => simp only [sentRows_v2Of slots hc]

theorem sameReply_getaddresssince (hc : codec.RoundTrip) (v₁ v₂ v₃ : Json) (vs sent : List Json)
    (t : Nat) :
    SameReply (apiGetaddresssince · codec) slots txs misc ⟨v₁ :: v₂ :: v₃ :: vs, sent, t⟩ := by
  unfold SameReply
  rw [run_apiGetaddresssince, run_apiGetaddresssince]
  simp only [stillWorld, blockHeightMax_legacyOf]
  cases pyInt v₁ with
  | error => rfl
  | ok s =>
    cases pyInt v₂ with
    | error => rfl
    | ok c =>
      dsimp only
      cases addressBound (Ledger.v2Of txs misc).blockHeightMax c s with
      | error => rfl
      | ok b => simp only [sentRows_v2Of slots hc]

theorem totalReply_div (r : Except Exc ℚ) :
    totalReply ⟨true, slots⟩ (r.map (· / 10 ^ 8)) = totalReply ⟨false, slots⟩ r := by
  cases r <;> norm_num [totalReply, Except.map, Config.scaled]

theorem sameReply_totalOver {amountOf : Json → Json → Api ℚ} {k : Nat}
    {f : Ledger → Json → Json → Except Exc ℚ}
    (hf : ∀ l t a m, (amountOf a m).Yields (stillWorld l) t k (f l a m))
    (hdiv : ∀ a m, f (.legacyOf txs misc) a m = (f (.v2Of txs misc) a m).map (· / 10 ^ 8))
    (v₁ v₂ : Json) (vs sent : List Json) (t : Nat) :
    SameReply (totalOver · amountOf) slots txs misc ⟨v₁ :: v₂ :: vs, sent, t⟩ := by
  unfold SameReply
  rw [sent_totalOver _ (fun t a m => hf _ t a m), sent_totalOver _ (fun t a m => hf _ t a m)]
  simp only [hdiv]
  congr 1
  cases atLeastOne v₂ with
  | error => rfl
  | ok m =>
    cases pyIter v₁ with
    | error => rfl
    | ok as => exact (congrArg _ (addUp_div _ k _ as t (by simp))).trans (totalReply_div slots _)

theorem sameReply_listOver {amountOf : Json → Json → Api ℚ} {k : Nat}
    {f : Ledger → Json → Json → Except Exc ℚ}
    (hf : ∀ l t a m, (amountOf a m).Yields (stillWorld l) t k (f l a m))
    (hdiv : ∀ a m, f (.legacyOf txs misc) a m = (f (.v2Of txs misc) a m).map (· / 10 ^ 8))
    (v₁ v₂ v₃ : Json) (vs sent : List Json) (t : Nat) :
    SameReply (listOver · amountOf) slots txs misc ⟨v₁ :: v₂ :: v₃ :: vs, sent, t⟩ := by
  unfold SameReply
  rw [sent_listOver _ (fun t a m => hf _ t a m), sent_listOver _ (fun t a m => hf _ t a m)]
  simp only [hdiv]
  congr 1
  cases atLeastOne v₂ with
  | error => rfl
  | ok m =>
    cases pyIter v₁ with
    | error => rfl
    | ok as =>
      exact congrArg _ (listUp_div _ _ _ (by norm_num) (fun q => by norm_num [Config.scaled]) _ _ _)

end Same

/-- The seven handlers that send store rows or sums send the same values in both modes, each on
every session that holds its parameters. -/
def StorageIndependent (codec : Codec) (slots : List (String × Option Json))
    (txs : List Transaction) (misc : List MiscRow) : Prop :=
  (∀ v vs sent t, SameReply (apiGetblocksince · codec) slots txs misc ⟨v :: vs, sent, t⟩) ∧
    (∀ v₁ v₂ vs sent t,
      SameReply (apiGetblockswhereoflike · codec) slots txs misc ⟨v₁ :: v₂ :: vs, sent, t⟩) ∧
    (∀ v₁ v₂ v₃ vs sent t,
      SameReply (apiGetaddresssince · codec) slots txs misc ⟨v₁ :: v₂ :: v₃ :: vs, sent, t⟩) ∧
    (∀ v₁ v₂ vs sent t, SameReply apiGetbalance slots txs misc ⟨v₁ :: v₂ :: vs, sent, t⟩) ∧
    (∀ v₁ v₂ vs sent t, SameReply apiGetreceived slots txs misc ⟨v₁ :: v₂ :: vs, sent, t⟩) ∧
    (∀ v₁ v₂ v₃ vs sent t,
      SameReply apiListbalance slots txs misc ⟨v₁ :: v₂ :: v₃ :: vs, sent, t⟩) ∧
    ∀ v₁ v₂ v₃ vs sent t, SameReply apiListreceived slots txs misc ⟨v₁ :: v₂ :: v₃ :: vs, sent, t⟩

/-- **Storage independence.** For every codec that meets the round-trip laws, every logical
ledger and every request, api_getblocksince, api_getblockswhereoflike, api_getaddresssince,
api_getbalance, api_getreceived, api_listbalance and api_listreceived send in legacy mode on the
legacy store what they send in v2 mode on the v2 store. -/
theorem storage_independent {codec : Codec} (hc : codec.RoundTrip)
    (slots : List (String × Option Json)) (txs : List Transaction) (misc : List MiscRow) :
    StorageIndependent codec slots txs misc := by
  have hb : ∀ l t a m, (getBalance a m).Yields (stillWorld l) t 3 (l.balance a m) :=
    fun _ t a m => yields_getBalance a m t
  have hr : ∀ l t a m, (getReceived a m).Yields (stillWorld l) t 2 (l.received a m) :=
    fun _ t a m => yields_getReceived a m t
  have hlist : apiListbalance = fun config => listOver config getBalance :=
    funext apiListbalance_eq_listOver
  refine ⟨sameReply_getblocksince slots hc, sameReply_getblockswhereoflike slots hc,
    sameReply_getaddresssince slots hc, sameReply_totalOver slots hb balance_legacyOf,
    sameReply_totalOver slots hr received_legacyOf, ?_, sameReply_listOver slots hr received_legacyOf⟩
  rw [hlist]
  exact sameReply_listOver slots hb balance_legacyOf

/-- A block at height 1 whose reward row pays one unit, 1e-8 coin. -/
def oneRewardTx : Transaction := ⟨1, 0, "", "m", 0, "", "", "", 0, 1, "", ""⟩

theorem storage_independent_reference : StorageIndependent .reference [] [oneRewardTx] [] :=
  storage_independent Codec.reference_roundTrip [] [oneRewardTx] []

section OneReward
attribute [local semireducible] Rat.add Rat.mul Rat.sub Rat.inv

/-- api_getblockrange sends reward `"0.00000001"` for the block from the legacy store and
`"1.00000000"` from the v2 store. -/
theorem getblockrange_reads_v2_rows_as_legacy :
    ¬ SameReply (fun _ => apiGetblockrange .reference) [] [oneRewardTx] [⟨1, .num 7⟩]
      ⟨[.num 1, .num 1], [], 0⟩ := by
  unfold SameReply
  intro h
  have := congrArg (List.map pyStr) h
  revert this
  decide

end OneReward

end BismuthApi
