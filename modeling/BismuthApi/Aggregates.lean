import Mathlib.Algebra.BigOperators.Ring.List
import BismuthApi.Replies

/-!
# Balances and received totals over an address list

api_getbalance, api_getreceived, api_listbalance and api_listreceived loop over the listed
addresses and ask the store about each in turn, and `_get_balance` and `_get_received` read
`block_height_max` afresh for every address. The node appends blocks while a request runs,
only above its tip, so each address is evaluated on one snapshot, the one its own tip read
saw: its cutoff lies at or below that tip, and rows appended later lie above the cutoff. Two
addresses of one request may see different snapshots, and their sum may be one no snapshot
gives.

On a store that does not change, the scalar handlers send the sum of the values the listing
handlers send, provided the listed addresses are distinct as dict keys: the listing keeps
one entry per key, and the scalar counts a repeated address once for each time it is listed.

On one snapshot, `_get_balance` is the spec's balance formula; `_get_received` counts amounts
only, not the rewards the balance's credits include.
-/

namespace BismuthApi

/-! ## One address on one snapshot -/

/-- `_get_balance` with every statement answered by the snapshot `l`. -/
def Ledger.balance (l : Ledger) (address minconf : Json) : Except Exc ℚ :=
  balanceAt l l l address minconf

/-- `_get_received` with every statement answered by the snapshot `l`. -/
def Ledger.received (l : Ledger) (address minconf : Json) : Except Exc ℚ :=
  receivedAt l l address minconf

/-- The `minconf` the aggregate handlers go on with is a number of at least one. -/
theorem atLeastOne_ge {minconf m : Json} (h : atLeastOne minconf = .ok m) :
    ∃ q, pyNum m = .ok q ∧ 1 ≤ q := by
  unfold atLeastOne at h
  cases hq : pyNum minconf with
  | error => simp [pyLt, hq] at h
  | ok q =>
    simp only [pyLt, hq, pyNum_num, except_ok_bind, pure_bind] at h
    by_cases hlt : q < 1 <;> simp only [hlt, decide_True, decide_False, if_true, if_false] at h
    · exact ⟨1, by rw [← Except.ok.inj h]; rfl, le_rfl⟩
    · exact ⟨q, by rw [← Except.ok.inj h, hq], not_lt.1 hlt⟩

/-- With a non-negative `minconf`, the two sums of `_get_balance` see below the tip its first
read saw, so later snapshots answer them as that one does. -/
theorem balanceAt_extends {l₀ l₁ l₂ : Ledger} (h₁ : l₀.Extends l₁) (h₂ : l₀.Extends l₂)
    {minconf : Json} {q : ℚ} (hq : pyNum minconf = .ok q) (hpos : 0 ≤ q) (address : Json) :
    balanceAt l₀ l₁ l₂ address minconf = l₀.balance address minconf := by
  unfold Ledger.balance balanceAt
  cases hM : l₀.blockHeightMax with
  | none => simp [heightValue, pySub, pyNum]
  | some M =>
    have hb : (M : ℚ) - q ≤ M := by linarith
    simp only [heightValue, pySub, pyNum_num, hq, except_ok_bind, pure_bind]
    rw [Total.value_extends h₁ hM (.credit address _) hb,
      Total.value_extends h₂ hM (.debit address _) hb]

theorem receivedAt_extends {l₀ l₁ : Ledger} (h₁ : l₀.Extends l₁) {minconf : Json} {q : ℚ}
    (hq : pyNum minconf = .ok q) (hpos : 0 ≤ q) (address : Json) :
    receivedAt l₀ l₁ address minconf = l₀.received address minconf := by
  unfold Ledger.received receivedAt
  cases hM : l₀.blockHeightMax with
  | none => simp [heightValue, pySub, pyNum]
  | some M =>
    have hb : (M : ℚ) - q ≤ M := by linarith
    simp only [heightValue, pySub, pyNum_num, hq, except_ok_bind, pure_bind]
    rw [Total.value_extends h₁ hM (.received address _) hb]

/-! ## What the aggregate handlers send -/

/-- What api_getbalance and api_getreceived send for the total they computed, or raised on. -/
def totalReply (config : Config) : Except Exc ℚ → List Json
  | .ok b => [.num (config.scaled b)]
  | .error _ => []

/-- What api_listbalance and api_listreceived send for the dict they built, or raised on. -/
def dictReply : Except Exc PyDict → List Json
  | .ok d => [d.toJson]
  | .error _ => []

section Sent
variable (config : Config) {w : World} {amountOf : Json → Json → Api ℚ}
  {f : Nat → Json → Json → Except Exc ℚ} {k : Nat}

theorem sent_totalOver (hf : ∀ t a m, (amountOf a m).Yields w t k (f t a m))
    (addresses minconf : Json) (vs sent : List Json) (t : Nat) :
    ((totalOver config amountOf).run w ⟨addresses :: minconf :: vs, sent, t⟩).2.sent =
      sent ++ totalReply config (atLeastOne minconf >>= fun m => pyIter addresses >>= fun as =>
        addUp (fun t a => f t a m) k t as 0) := by
  obtain ⟨t', h⟩ := run_totalOver config hf addresses minconf vs sent t
  rw [h]
  generalize atLeastOne minconf >>= _ = r
  cases r <;> simp [totalReply]

theorem sent_listOver (hf : ∀ t a m, (amountOf a m).Yields w t k (f t a m))
    (addresses minconf includeEmpty : Json) (vs sent : List Json) (t : Nat) :
    ((listOver config amountOf).run w ⟨addresses :: minconf :: includeEmpty :: vs, sent, t⟩).2.sent =
      sent ++ dictReply (atLeastOne minconf >>= fun m => pyIter addresses >>= fun as =>
        listUp (fun t a => f t a m) k includeEmpty config.scaled t as .empty) := by
  obtain ⟨t', h⟩ := run_listOver config hf addresses minconf includeEmpty vs sent t
  rw [h]
  cases atLeastOne minconf with
  | error => simp [dictReply]
  | ok m =>
    dsimp only [except_ok_bind]
    generalize pyIter addresses >>= _ = r
    cases r <;> simp [dictReply]

end Sent

/-! ## A store that grows during the request -/

section Growing
variable {w : World}

/-- Along a growing store, `_get_balance` at moment `t` gives the balance on the snapshot of
moment `t`, whatever its two later reads see. -/
theorem balanceAt_chain (hw : ∀ t, (w.ledger t).Extends (w.ledger (t + 1))) {minconf m : Json}
    (hm : atLeastOne minconf = .ok m) :
    (fun t a => balanceAt (w.ledger t) (w.ledger (t + 1)) (w.ledger (t + 2)) a m) =
      fun t a => (w.ledger t).balance a m := by
  obtain ⟨q, hq, h1⟩ := atLeastOne_ge hm
  funext t a
  exact balanceAt_extends (.of_chain hw t 1) (.of_chain hw t 2) hq (by linarith) a

theorem receivedAt_chain (hw : ∀ t, (w.ledger t).Extends (w.ledger (t + 1))) {minconf m : Json}
    (hm : atLeastOne minconf = .ok m) :
    (fun t a => receivedAt (w.ledger t) (w.ledger (t + 1)) a m) =
      fun t a => (w.ledger t).received a m := by
  obtain ⟨q, hq, h1⟩ := atLeastOne_ge hm
  funext t a
  exact receivedAt_extends (.of_chain hw t 1) hq (by linarith) a

end Growing

/-- **Each address on its own snapshot.** While the node only appends blocks above its tip, the
four aggregate handlers send what their loops compute when the `j`-th listed address is
evaluated on the single snapshot of its own tip read: moment `t + 3 j` for the balance handlers,
whose `_get_balance` makes three calls, and `t + 2 j` for the received handlers. -/
theorem aggregates_per_address_snapshot (config : Config) {w : World}
    (hw : ∀ t, (w.ledger t).Extends (w.ledger (t + 1))) (addresses minconf includeEmpty : Json)
    (vs sent : List Json) (t : Nat) :
    ((apiGetbalance config).run w ⟨addresses :: minconf :: vs, sent, t⟩).2.sent = sent ++
        totalReply config (atLeastOne minconf >>= fun m => pyIter addresses >>= fun as =>
          addUp (fun t a => (w.ledger t).balance a m) 3 t as 0) ∧
    ((apiGetreceived config).run w ⟨addresses :: minconf :: vs, sent, t⟩).2.sent = sent ++
        totalReply config (atLeastOne minconf >>= fun m => pyIter addresses >>= fun as =>
          addUp (fun t a => (w.ledger t).received a m) 2 t as 0) ∧
    ((apiListbalance config).run w ⟨addresses :: minconf :: includeEmpty :: vs, sent, t⟩).2.sent =
      sent ++ dictReply (atLeastOne minconf >>= fun m => pyIter addresses >>= fun as =>
          listUp (fun t a => (w.ledger t).balance a m) 3 includeEmpty config.scaled t as .empty) ∧
    ((apiListreceived config).run w ⟨addresses :: minconf :: includeEmpty :: vs, sent, t⟩).2.sent =
      sent ++ dictReply (atLeastOne minconf >>= fun m => pyIter addresses >>= fun as =>
          listUp (fun t a => (w.ledger t).received a m) 2 includeEmpty config.scaled t as .empty) := by
  have hb := fun t a m => @yields_getBalance w a m t
  have hr := fun t a m => @yields_getReceived w a m t
  refine ⟨?_, ?_, ?_, ?_⟩
  · rw [apiGetbalance, sent_totalOver config hb]
    exact congrArg (sent ++ totalReply config ·)
      (except_bind_congr fun m hm => by rw [balanceAt_chain hw hm])
  · rw [apiGetreceived, sent_totalOver config hr]
    exact congrArg (sent ++ totalReply config ·)
      (except_bind_congr fun m hm => by rw [receivedAt_chain hw hm])
  · rw [apiListbalance_eq_listOver, sent_listOver config hb]
    exact congrArg (sent ++ dictReply ·)
      (except_bind_congr fun m hm => by rw [balanceAt_chain hw hm])
  · rw [apiListreceived, sent_listOver config hr]
    exact congrArg (sent ++ dictReply ·)
      (except_bind_congr fun m hm => by rw [receivedAt_chain hw hm])

/-! ### A request across two snapshots

A transfer of 5 from A to B in block 2 is unconfirmed at minconf 1 until block 3 arrives. A
request for A and B that starts before block 3 and reads B's tip after it counts the 5 twice,
on A's side and on B's. -/

/-- A row moving `amount` from `address` to `recipient` in block `height`, without fee or
reward. -/
def transferRow (height : Int) (address recipient : String) (amount : ℚ) : Row :=
  ⟨height, 0, address, recipient, amount, "", "", "", 0, 0, "", ""⟩

def chainStart : Ledger := ⟨[transferRow 1 "X" "A" 10, transferRow 2 "A" "B" 5], []⟩

def chainNext : Ledger := ⟨chainStart.transactions ++ [transferRow 3 "X" "X" 0], []⟩

/-- The store holds `chainStart` for the first three calls and `chainNext` from then on; the
other collaborators raise. -/
def growingWorld : World :=
  ⟨fun t => if t < 3 then chainStart else chainNext, fun _ _ => .error .external⟩

theorem growingWorld_extends (t : Nat) :
    (growingWorld.ledger t).Extends (growingWorld.ledger (t + 1)) := by
  by_cases h₀ : t + 1 < 3
  · simp only [growingWorld, h₀, show t < 3 by omega, if_true]
    exact .refl _
  · by_cases h₁ : t < 3
    · simp only [growingWorld, h₀, h₁, if_true, if_false]
      exact ⟨[transferRow 3 "X" "X" 0], [], rfl, rfl, by decide⟩
    · simp only [growingWorld, h₀, h₁, if_false]
      exact .refl _

theorem growingWorld_getbalance_per_address :
    ((apiGetbalance ⟨true, []⟩).run growingWorld
        ⟨[.arr [.str "A", .str "B"], .num 1], [], 0⟩).2.sent =
      [] ++ totalReply ⟨true, []⟩ (atLeastOne (.num 1) >>= fun m =>
        pyIter (.arr [.str "A", .str "B"]) >>= fun as =>
          addUp (fun t a => (growingWorld.ledger t).balance a m) 3 0 as 0) :=
  (aggregates_per_address_snapshot ⟨true, []⟩ growingWorld_extends (.arr [.str "A", .str "B"])
    (.num 1) .null [] [] 0).1

section GrowingStore
attribute [local semireducible] Rat.add Rat.mul Rat.sub Rat.inv

/-- api_getbalance sends 15 for A and B, while both snapshots the store passes through give
10. -/
theorem getbalance_spans_snapshots :
    ((apiGetbalance ⟨true, []⟩).run growingWorld
        ⟨[.arr [.str "A", .str "B"], .num 1], [], 0⟩).2.sent = [.num 15] ∧
      ∀ t, ((growingWorld.ledger t).balance (.str "A") (.num 1) >>= fun a =>
        (growingWorld.ledger t).balance (.str "B") (.num 1) >>= fun b => pure (a + b)) = .ok 10 := by
  refine ⟨?_, fun t => ?_⟩
  · rw [apiGetbalance, sent_totalOver _ (fun t a m => yields_getBalance a m t)]
    have h : (atLeastOne (.num 1) >>= fun m => pyIter (.arr [.str "A", .str "B"]) >>= fun as =>
        addUp (fun t a => balanceAt (growingWorld.ledger t) (growingWorld.ledger (t + 1))
          (growingWorld.ledger (t + 2)) a m) 3 0 as 0) = .ok 15 := by decide
    rw [h]
    rfl
  · by_cases h : t < 3 <;> simp only [growingWorld, h, if_true, if_false] <;> decide

end GrowingStore

/-! ## A store that does not change -/

/-- The amounts of the listed addresses, each paired with its address; the first address whose
amount raises stops the list. -/
def amounts (g : Json → Except Exc ℚ) (as : List Json) : Except Exc (List (Json × ℚ)) :=
  as.mapM fun a => do pure (a, ← g a)

@[simp] theorem amounts_nil (g : Json → Except Exc ℚ) : amounts g [] = .ok [] := rfl

theorem amounts_cons (g : Json → Except Exc ℚ) (a : Json) (as : List Json) :
    amounts g (a :: as) = g a >>= fun q => amounts g as >>= fun ps => .ok ((a, q) :: ps) := by
  simp only [amounts, List.mapM_cons, bind_assoc, pure_bind]
  rfl

/-- On an unchanging store, the scalar loop adds the amounts. -/
theorem addUp_const (g : Json → Except Exc ℚ) (k : Nat) (as : List Json) (t : Nat) (b : ℚ) :
    addUp (fun _ a => g a) k t as b =
      amounts g as >>= fun ps => .ok (b + (ps.map Prod.snd).sum) := by
  induction as generalizing t b with
  | nil => simp [addUp, foldUp]
  | cons a as ih =>
    simp only [addUp, foldUp_cons, amounts_cons]
    cases g a with
    | error => rfl
    | ok q =>
      refine (ih (t + k) (b + q)).trans ?_
      cases amounts g as <;> simp [add_assoc]

theorem amounts_keys {g : Json → Except Exc ℚ} {as : List Json} {ps : List (Json × ℚ)}
    (h : amounts g as = .ok ps) : ps.map Prod.fst = as := by
  induction as generalizing ps with
  | nil => cases h; rfl
  | cons a as ih =>
    rw [amounts_cons] at h
    cases hq : g a with
    | error => rw [hq] at h; cases h
    | ok q =>
      cases hs : amounts g as with
      | error => rw [hq, except_ok_bind, hs] at h; cases h
      | ok ps' => rw [hq, except_ok_bind, hs, except_ok_bind] at h; cases h; simp [ih hs]

/-- On an unchanging store, the listing loop assigns the kept amounts in listing order, with
Python's `received[address] = ...`: a repeated address keeps its first place and takes the
last amount. -/
theorem listUp_const_assign {g : Json → Except Exc ℚ} (hg : ∀ a q, g a = .ok q → a.hashable)
    (includeEmpty : Json) (k : Nat) (scale : ℚ → ℚ) (as : List Json) (t : Nat) (d : PyDict) :
    listUp (fun _ a => g a) k includeEmpty scale t as d = amounts g as >>= fun ps =>
      .ok ((ps.filter fun p => pyTruthy includeEmpty || decide (0 < p.2)).foldl
        (fun d p => d.put p.1 (.num (scale p.2))) d) := by
  unfold listUp
  induction as generalizing t d with
  | nil => simp [foldUp]
  | cons a as ih =>
    simp only [foldUp_cons, amounts_cons]
    cases hq : g a with
    | error => rfl
    | ok q =>
      simp only [except_ok_bind]
      by_cases hkeep : (pyTruthy includeEmpty || decide (0 < q)) = true
      · rw [if_pos hkeep, show d.set a (.num (scale q)) = .ok (d.put a (.num (scale q))) by
          simp [PyDict.set, hg a q hq], except_ok_bind, ih]
        cases amounts g as <;> simp [hkeep]
      · rw [if_neg hkeep, pure_bind, ih]
        cases amounts g as <;> simp [hkeep]

/-- On an unchanging store, the listing loop with a truthy `include_empty` appends one entry per
address, provided the addresses are distinct keys and new to the dict. -/
theorem listUp_const {g : Json → Except Exc ℚ} (hg : ∀ a q, g a = .ok q → a.hashable)
    {includeEmpty : Json} (hie : pyTruthy includeEmpty = true) (k : Nat) (scale : ℚ → ℚ)
    (as : List Json) (has : as.Pairwise fun a b => a.keyEq b = false) (t : Nat) (d : PyDict)
    (hd : ∀ a ∈ as, d.has a = false) :
    listUp (fun _ a => g a) k includeEmpty scale t as d =
      amounts g as >>= fun ps => .ok ⟨d.entries ++ ps.map fun p => (p.1, .num (scale p.2))⟩ := by
  rw [listUp_const_assign hg]
  cases hps : amounts g as with
  | error => rfl
  | ok ps =>
    have hkeys := amounts_keys hps
    simp only [except_ok_bind, hie, Bool.true_or, List.filter_true]
    rw [PyDict.foldl_put_fresh Prod.fst (fun p => .num (scale p.2)) ps (hkeys ▸ has) d
      fun p hp => hd p.1 (hkeys ▸ List.mem_map_of_mem _ hp)]

/-- A list or a dict cannot be bound as an address, so an address with a balance is hashable. -/
theorem hashable_of_balanceAt {l₀ l₁ l₂ : Ledger} {address minconf : Json} {q : ℚ}
    (h : balanceAt l₀ l₁ l₂ address minconf = .ok q) : address.hashable := by
  cases hs : pySub (heightValue l₀.blockHeightMax) minconf with
  | error => simp [balanceAt, hs] at h
  | ok hi =>
    cases address <;> first | rfl | simp [balanceAt, hs, Total.value, bindText, Except.map] at h

theorem hashable_of_receivedAt {l₀ l₁ : Ledger} {address minconf : Json} {q : ℚ}
    (h : receivedAt l₀ l₁ address minconf = .ok q) : address.hashable := by
  cases hs : pySub (heightValue l₀.blockHeightMax) minconf with
  | error => simp [receivedAt, hs] at h
  | ok hi =>
    cases address <;> first | rfl | simp [receivedAt, hs, Total.value, bindText, Except.map] at h

/-- Scaling the total is summing the scaled amounts, in exact arithmetic. -/
theorem Config.scaled_sum (config : Config) (qs : List ℚ) :
    config.scaled qs.sum = (qs.map config.scaled).sum := by
  unfold Config.scaled
  cases config.legacyDb
  · simp [div_eq_mul_inv, List.sum_map_mul_right]
  · simp

/-- The scalar handler sent the sum of the values of the dict the listing handler sent, or
neither sent anything. -/
def SumOfValues (scalar map : List Json) : Prop :=
  (∃ (d : PyDict) (qs : List ℚ), scalar = [.num qs.sum] ∧ map = [d.toJson] ∧
    d.entries.map Prod.snd = qs.map .num) ∨ (scalar = [] ∧ map = [])

theorem sumOfValues_const (config : Config) {g : Json → Json → Except Exc ℚ}
    (hg : ∀ a m q, g a m = .ok q → a.hashable) {as : List Json}
    (has : as.Pairwise fun a b => a.keyEq b = false) (minconf : Json) (k t : Nat) :
    SumOfValues
      (totalReply config (atLeastOne minconf >>= fun m => pyIter (.arr as) >>= fun as =>
        addUp (fun _ a => g a m) k t as 0))
      (dictReply (atLeastOne minconf >>= fun m => pyIter (.arr as) >>= fun as =>
        listUp (fun _ a => g a m) k (.bool true) config.scaled t as .empty)) := by
  cases atLeastOne minconf with
  | error => exact .inr ⟨rfl, rfl⟩
  | ok m =>
    simp only [except_ok_bind, pyIter, addUp_const,
      listUp_const (hg · m) (show pyTruthy (.bool true) = true from rfl) k config.scaled as has t
        .empty fun _ _ => rfl]
    cases amounts (g · m) as with
    | error => exact .inr ⟨rfl, rfl⟩
    | ok ps =>
      refine .inl ⟨⟨ps.map fun (p : Json × ℚ) => (p.1, .num (config.scaled p.2))⟩,
        ps.map fun p => config.scaled p.2, ?_, rfl, by simp⟩
      simp [totalReply, Config.scaled_sum, Function.comp_def]

/-- **The scalar and the listing handlers agree** on a store that does not change, in both
storage modes, when the listed addresses are pairwise distinct as Python dict keys. -/
theorem aggregates_agree (config : Config) (w : World) {l : Ledger} (hl : ∀ t, w.ledger t = l)
    {as : List Json} (has : as.Pairwise fun a b => a.keyEq b = false) (minconf : Json)
    (vs : List Json) (t : Nat) :
    SumOfValues ((apiGetbalance config).run w ⟨.arr as :: minconf :: vs, [], t⟩).2.sent
        ((apiListbalance config).run w ⟨.arr as :: minconf :: .bool true :: vs, [], t⟩).2.sent ∧
      SumOfValues ((apiGetreceived config).run w ⟨.arr as :: minconf :: vs, [], t⟩).2.sent
        ((apiListreceived config).run w ⟨.arr as :: minconf :: .bool true :: vs, [], t⟩).2.sent := by
  have hb : ∀ t a m, (getBalance a m).Yields w t 3 (l.balance a m) := fun t a m => by
    simpa only [hl] using @yields_getBalance w a m t
  have hr : ∀ t a m, (getReceived a m).Yields w t 2 (l.received a m) := fun t a m => by
    simpa only [hl] using @yields_getReceived w a m t
  rw [apiGetbalance, apiListbalance_eq_listOver, apiGetreceived, apiListreceived,
    sent_totalOver config hb, sent_listOver config hb, sent_totalOver config hr,
    sent_listOver config hr]
  exact ⟨sumOfValues_const config (fun _ _ _ => hashable_of_balanceAt) has minconf 3 t,
    sumOfValues_const config (fun _ _ _ => hashable_of_receivedAt) has minconf 2 t⟩

theorem aggregates_agree_two_addresses :
    SumOfValues ((apiGetbalance ⟨false, []⟩).run (stillWorld chainStart)
        ⟨[.arr [.str "A", .str "B"], .num 1], [], 0⟩).2.sent
      ((apiListbalance ⟨false, []⟩).run (stillWorld chainStart)
        ⟨[.arr [.str "A", .str "B"], .num 1, .bool true], [], 0⟩).2.sent ∧
    SumOfValues ((apiGetreceived ⟨false, []⟩).run (stillWorld chainStart)
        ⟨[.arr [.str "A", .str "B"], .num 1], [], 0⟩).2.sent
      ((apiListreceived ⟨false, []⟩).run (stillWorld chainStart)
        ⟨[.arr [.str "A", .str "B"], .num 1, .bool true], [], 0⟩).2.sent :=
  aggregates_agree ⟨false, []⟩ (stillWorld chainStart) (fun _ => rfl) (by decide) (.num 1) [] 0

section RepeatedAddress
attribute [local semireducible] Rat.add Rat.mul Rat.sub Rat.inv

/-- Listing A twice: api_getbalance sends 20, api_listbalance a dict with the single entry
A: 10. -/
theorem getbalance_counts_repeats :
    ¬ SumOfValues ((apiGetbalance ⟨true, []⟩).run (stillWorld chainStart)
        ⟨[.arr [.str "A", .str "A"], .num 1], [], 0⟩).2.sent
      ((apiListbalance ⟨true, []⟩).run (stillWorld chainStart)
        ⟨[.arr [.str "A", .str "A"], .num 1, .bool true], [], 0⟩).2.sent := by
  have hb : ∀ t a m, (getBalance a m).Yields (stillWorld chainStart) t 3
      (chainStart.balance a m) := fun t a m => yields_getBalance a m t
  have hA : chainStart.balance (.str "A") (.num 1) = .ok 10 := by decide
  have h1 : atLeastOne (.num 1) = .ok (.num 1) := by
    simp only [atLeastOne, pyLt, pyNum_num, except_ok_bind, pure_bind, ite_self]
    rfl
  rw [apiGetbalance, apiListbalance_eq_listOver, sent_totalOver _ hb, sent_listOver _ hb]
  simp [h1, pyIter, addUp, listUp, foldUp, hA, pyTruthy, PyDict.set_str, PyDict.put, PyDict.has,
    PyDict.empty, PyDict.overwrite, totalReply, dictReply, PyDict.toJson, Config.scaled,
    SumOfValues]
  intro d qs hsum hd hv
  have h10 : d.entries.map Prod.snd = [.num 10] := by
    simpa using (congrArg (List.map Prod.snd) hd).symm
  rw [h10] at hv
  match qs, hv with
  | [q], hv =>
    simp only [List.map_cons, List.map_nil, List.cons.injEq, Json.num.injEq, and_true] at hv
    norm_num [← hv] at hsum

end RepeatedAddress

/-! ## The balance formula -/

/-- The spec's balance of an address over the rows at or below `hi`: the amounts and rewards it
received less the amounts and fees it sent. -/
def specBalance (l : Ledger) (a : String) (hi : ℚ) : ℚ :=
  ((l.transactions.filter fun r => r.recipient = a ∧ (r.blockHeight : ℚ) ≤ hi).map
      fun r => r.amount + r.reward).sum -
    ((l.transactions.filter fun r => r.address = a ∧ (r.blockHeight : ℚ) ≤ hi).map
      fun r => r.amount + r.fee).sum

/-- The spec's received total of an address: the amounts it received at or below `hi`. -/
def specReceived (l : Ledger) (a : String) (hi : ℚ) : ℚ :=
  ((l.transactions.filter fun r => r.recipient = a ∧ (r.blockHeight : ℚ) ≤ hi).map Row.amount).sum

/-- `if not credit: credit = 0` after a SQL sum: NULL over no rows counts as zero. -/
theorem sqlSum_getD (xs : List ℚ) : (sqlSum xs).getD 0 = xs.sum := by
  cases xs <;> simp [sqlSum]

theorem sqlSum_add_getD (rows : List Row) (f g : Row → ℚ) :
    (Option.map₂ (· + ·) (sqlSum (rows.map f)) (sqlSum (rows.map g))).getD 0 =
      (rows.map fun r => f r + g r).sum := by
  cases rows with
  | nil => rfl
  | cons r rows =>
    rw [List.sum_map_add]
    rfl

theorem Ledger.upTo_some (l : Ledger) (col : Row → String) (a : String) (hi : ℚ) :
    l.upTo col (some a) hi =
      l.transactions.filter fun r => col r = a ∧ (r.blockHeight : ℚ) ≤ hi :=
  List.filter_congr fun r _ => by simp [eq_comm]

/-- **The balance formula.** On a store whose tip is `M`, `_get_balance` of a text address at
depth `q` is the spec's balance at or below `M - q`. `_get_received` is the amounts received
there, without the rewards the balance counts. -/
theorem balance_formula (l : Ledger) {M : Int} (hM : l.blockHeightMax = some M) (a : String)
    (q : ℚ) :
    l.balance (.str a) (.num q) = .ok (specBalance l a (M - q)) ∧
      l.received (.str a) (.num q) = .ok (specReceived l a (M - q)) := by
  simp only [Ledger.balance, Ledger.received, balanceAt, receivedAt, hM, heightValue, pySub,
    pyNum_num, except_ok_bind, pure_bind, Total.value, bindText, Except.map, Ledger.upTo_some,
    sqlSum_add_getD, sqlSum_getD, specBalance, specReceived]
  exact ⟨rfl, rfl⟩

/-! ## Leaving out the empty addresses

`if include_empty or temp > 0`: with a falsy `include_empty` the listing keeps an address only
when its amount is positive, so a negative balance is left out as an empty one is. -/

end BismuthApi
