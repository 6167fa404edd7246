import BismuthApi.Run
import BismuthApi.Handlers

/-!
# What each query handler sends

One run lemma per query handler: from the parameters the session holds and the snapshots its
calls see, the handler's result, the inputs it leaves and the values it sends, in closed form.
The aggregate handlers loop over the listed addresses; their loops are computed by `addUp` and
`listUp`, which evaluate the `j`-th address on the snapshots its own calls see.
-/

namespace BismuthApi

section Replies
variable (config : Config) (codec : Codec) (w : World)

theorem run_apiGetblocksince (v : Json) (vs sent : List Json) (t : Nat) :
    (apiGetblocksince config codec).run w ⟨v :: vs, sent, t⟩ =
      match sinceBound (w.ledger t).blockHeightMax v with
      | .ok b => (.ok (), ⟨vs, sent ++ [rowsJson (config.sentRows codec
          ((Select.above b).rows (w.ledger (t + 1))))], t + 2⟩)
      | .error e => (.error e, ⟨vs, sent, t + 1⟩) := by
  simp [apiGetblocksince, World.answer, Call.isReceive, Call.isSend]
  cases sinceBound (w.ledger t).blockHeightMax v <;> rfl

theorem run_apiGetblockswhereoflike (v₁ v₂ : Json) (vs sent : List Json) (t : Nat) :
    (apiGetblockswhereoflike config codec).run w ⟨v₁ :: v₂ :: vs, sent, t⟩ =
      match pyInt v₁ with
      | .error e => (.error e, ⟨v₂ :: vs, sent, t⟩)
      | .ok s => match pyConcat v₂ "%" with
        | .error e => (.error e, ⟨vs, sent, t⟩)
        | .ok p => match likeBound (w.ledger t).blockHeightMax s with
          | .error e => (.error e, ⟨vs, sent, t + 1⟩)
          | .ok b => (.ok (), ⟨vs, sent ++ [.arr ((config.sentRows codec
              ((Select.openfieldLike s b p).rows (w.ledger (t + 1)))).map Row.toJson ++
              [.arr [.num b]])], t + 2⟩) := by
  simp only [apiGetblockswhereoflike, Api.run_receive_bind, Api.run_lift_bind]
  cases pyInt v₁ with
  | error => rfl
  | ok s =>
    cases pyConcat v₂ "%" with
    | error => rfl
    | ok p =>
      simp only [Call.isReceive, Call.isSend, and_self, Api.run_perform_bind_world,
        World.answer, Api.run_lift_bind, Api.run_send]
      cases likeBound (w.ledger t).blockHeightMax s <;> rfl

theorem run_apiGetaddresssince (v₁ v₂ v₃ : Json) (vs sent : List Json) (t : Nat) :
    (apiGetaddresssince config codec).run w ⟨v₁ :: v₂ :: v₃ :: vs, sent, t⟩ =
      match pyInt v₁ with
      | .error e => (.error e, ⟨v₂ :: v₃ :: vs, sent, t⟩)
      | .ok s => match pyInt v₂ with
        | .error e => (.error e, ⟨v₃ :: vs, sent, t⟩)
        | .ok c => match addressBound (w.ledger t).blockHeightMax c s with
          | .error e => (.error e, ⟨vs, sent, t + 1⟩)
          | .ok b => (.ok (), ⟨vs, sent ++ [addressSinceReply b c (config.sentRows codec
              ((Select.addressSince s b (pyStr v₃)).rows (w.ledger (t + 1))))], t + 2⟩) := by
  simp only [apiGetaddresssince, Api.run_receive_bind, Api.run_lift_bind]
  cases pyInt v₁ with
  | error => rfl
  | ok s =>
    cases pyInt v₂ with
    | error => rfl
    | ok c =>
      simp only [Call.isReceive, Call.isSend, and_self, Api.run_perform_bind_world,
        World.answer, Api.run_lift_bind, Api.run_send]
      cases addressBound (w.ledger t).blockHeightMax c s <;> rfl

theorem run_apiGetblockrange (v₁ v₂ : Json) (vs sent : List Json) (t : Nat) :
    (apiGetblockrange codec).run w ⟨v₁ :: v₂ :: vs, sent, t⟩ =
      match capped 50 v₂, pyNum v₁ with
      | .error e, _ => (.error e, ⟨vs, sent, t⟩)
      | .ok _, .error e => (.error e, ⟨vs, sent, t⟩)
      | .ok limit, .ok lo => match pyAdd v₁ limit with
        | .error e => (.error e, ⟨vs, sent, t⟩)
        | .ok hi => match blocktojsondiffs codec ((Select.range lo hi).rows (w.ledger t))
            ((w.ledger (t + 1)).difficulties lo hi) with
          | .error e => (.error e, ⟨vs, sent, t + 2⟩)
          | .ok d => (.ok (), ⟨vs, sent ++ [.str d.toJson.dumps], t + 2⟩) := by
  simp only [apiGetblockrange, Api.run_receive_bind, Api.run_lift_bind]
  cases capped 50 v₂ with
  | error => rfl
  | ok limit =>
    cases pyNum v₁ with
    | error => rfl
    | ok lo =>
      dsimp only
      cases pyAdd v₁ limit with
      | error => rfl
      | ok hi =>
        simp only [Call.isReceive, Call.isSend, and_self, Api.run_perform_bind_world,
          World.answer, Api.run_lift_bind, Api.run_send]
        cases blocktojsondiffs codec ((Select.range lo hi).rows (w.ledger t))
          ((w.ledger (t + 1)).difficulties lo hi) <;> rfl

end Replies

/-! ## The aggregates -/

/-- `_get_balance` when its three reads see the snapshots `l₀`, `l₁` and `l₂`. -/
def balanceAt (l₀ l₁ l₂ : Ledger) (address minconf : Json) : Except Exc ℚ := do
  let maxBlockHeight ← pySub (heightValue l₀.blockHeightMax) minconf
  let credit := (← (Total.credit address maxBlockHeight).value l₁).getD 0
  let debit := (← (Total.debit address maxBlockHeight).value l₂).getD 0
  pure (credit - debit)

/-- `_get_received` when its two reads see the snapshots `l₀` and `l₁`. -/
def receivedAt (l₀ l₁ : Ledger) (address minconf : Json) : Except Exc ℚ := do
  let maxBlockHeight ← pySub (heightValue l₀.blockHeightMax) minconf
  pure ((← (Total.received address maxBlockHeight).value l₁).getD 0)

/-- A handler's loop over the listed addresses, the step of the `j`-th address computed from
moment `t + k j`. -/
def foldUp (g : Nat → β → Json → Except Exc β) (k : Nat) : Nat → List Json → β → Except Exc β
  | _, [], acc => .ok acc
  | t, a :: as, acc => do foldUp g k (t + k) as (← g t acc a)

theorem foldUp_cons (g : Nat → β → Json → Except Exc β) (k t : Nat) (a : Json) (as : List Json)
    (acc : β) : foldUp g k t (a :: as) acc = g t acc a >>= foldUp g k (t + k) as :=
  rfl

/-- The loop of api_getbalance and api_getreceived: the amounts added to `b`. -/
def addUp (f : Nat → Json → Except Exc ℚ) (k t : Nat) (as : List Json) (b : ℚ) :
    Except Exc ℚ :=
  foldUp (fun t total a => do pure (total + (← f t a))) k t as b

/-- The loop of api_listreceived: each amount, when kept, stored scaled under its address. -/
def listUp (f : Nat → Json → Except Exc ℚ) (k : Nat) (includeEmpty : Json) (scale : ℚ → ℚ)
    (t : Nat) (as : List Json) (d : PyDict) : Except Exc PyDict :=
  foldUp (fun t received a => do
    let temp ← f t a
    if pyTruthy includeEmpty || decide (0 < temp) then received.set a (.num (scale temp))
    else pure received) k t as d

/-- From any session at moment `t`, the computation returns `r` and leaves the session's input
and output alone; when it returns a value it has made `k` calls. -/
def Api.Yields (w : World) (x : Api α) (t k : Nat) (r : Except Exc α) : Prop :=
  ∀ i o, ∃ t', x.run w ⟨i, o, t⟩ = (r, ⟨i, o, t'⟩) ∧ (r.isOk → t' = t + k)

section Aggregates
variable (config : Config) {w : World}

theorem yields_getBalance (address minconf : Json) (t : Nat) :
    (getBalance address minconf).Yields w t 3
      (balanceAt (w.ledger t) (w.ledger (t + 1)) (w.ledger (t + 2)) address minconf) := by
  intro i o
  cases h₁ : pySub (heightValue (w.ledger t).blockHeightMax) minconf with
  | error => exact ⟨t + 1, by simp [getBalance, balanceAt, World.answer, Call.isReceive,
      Call.isSend, h₁], by simp [balanceAt, h₁]⟩
  | ok hi =>
    cases h₂ : (Total.credit address hi).value (w.ledger (t + 1)) with
    | error => exact ⟨t + 2, by simp [getBalance, balanceAt, World.answer, Call.isReceive,
        Call.isSend, h₁, h₂], by simp [balanceAt, h₁, h₂]⟩
    | ok c =>
      cases h₃ : (Total.debit address hi).value (w.ledger (t + 2)) <;>
        exact ⟨t + 3, by simp [getBalance, balanceAt, World.answer, Call.isReceive, Call.isSend,
          h₁, h₂, h₃], fun _ => rfl⟩

theorem yields_getReceived (address minconf : Json) (t : Nat) :
    (getReceived address minconf).Yields w t 2
      (receivedAt (w.ledger t) (w.ledger (t + 1)) address minconf) := by
  intro i o
  cases h₁ : pySub (heightValue (w.ledger t).blockHeightMax) minconf with
  | error => exact ⟨t + 1, by simp [getReceived, receivedAt, World.answer, Call.isReceive,
      Call.isSend, h₁], by simp [receivedAt, h₁]⟩
  | ok hi =>
    cases h₂ : (Total.received address hi).value (w.ledger (t + 1)) <;>
      exact ⟨t + 2, by simp [getReceived, receivedAt, World.answer, Call.isReceive, Call.isSend,
        h₁, h₂], fun _ => rfl⟩

theorem Api.Yields.bind_lift {x : Api α} {t k : Nat} {r : Except Exc α} (g : α → Except Exc β)
    (hx : x.Yields w t k r) : (x >>= fun a => Api.lift (g a)).Yields w t k (r >>= g) := by
  intro i o
  obtain ⟨t', h, hk⟩ := hx i o
  rw [Api.run_bind, h]
  cases r with
  | error e => exact ⟨t', rfl, by simp⟩
  | ok a => exact ⟨t', by simp, fun _ => hk rfl⟩

theorem yields_foldUp {body : β → Json → Api β} {g : Nat → β → Json → Except Exc β} {k : Nat}
    (hb : ∀ t acc a, (body acc a).Yields w t k (g t acc a)) (as : List Json) (t : Nat)
    (acc : β) : (as.foldlM body acc).Yields w t (k * as.length) (foldUp g k t as acc) := by
  induction as generalizing t acc with
  | nil => exact fun i o => ⟨t, rfl, fun _ => rfl⟩
  | cons a as ih =>
    intro i o
    obtain ⟨t₁, h₁, hk₁⟩ := hb t acc a i o
    rw [List.foldlM_cons, Api.run_bind, h₁]
    cases hr : g t acc a with
    | error e => exact ⟨t₁, by simp [foldUp, hr], by simp [foldUp, hr]⟩
    | ok acc' =>
      obtain rfl := hk₁ (by simp [hr])
      obtain ⟨t₂, h₂, hk₂⟩ := ih (t + k) acc' i o
      have hup : foldUp g k t (a :: as) acc = foldUp g k (t + k) as acc' := by simp [foldUp, hr]
      refine ⟨t₂, by simpa [hup] using h₂, fun h => ?_⟩
      rw [hk₂ (hup ▸ h), List.length_cons]
      ring

variable {amountOf : Json → Json → Api ℚ} {f : Nat → Json → Json → Except Exc ℚ} {k : Nat}

theorem yields_addUp (hf : ∀ t a m, (amountOf a m).Yields w t k (f t a m)) (m : Json)
    (as : List Json) (t : Nat) (b : ℚ) :
    (as.foldlM (fun total address => do pure (total + (← amountOf address m))) b).Yields w t
      (k * as.length) (addUp (fun t a => f t a m) k t as b) :=
  yields_foldUp (fun t total a => (hf t a m).bind_lift fun x => .ok (total + x)) as t b

theorem yields_listUp (hf : ∀ t a m, (amountOf a m).Yields w t k (f t a m))
    (m includeEmpty : Json) (as : List Json) (t : Nat) (d : PyDict) :
    (as.foldlM (fun (received : PyDict) address => do
        let temp ← amountOf address m
        if pyTruthy includeEmpty || decide (0 < temp) then
          Api.lift (received.set address (.num (config.scaled temp)))
        else pure received) d).Yields w t (k * as.length)
      (listUp (fun t a => f t a m) k includeEmpty config.scaled t as d) := by
  refine yields_foldUp (fun t received a => ?_) as t d
  have hlift : (fun temp => if pyTruthy includeEmpty || decide (0 < temp) then
        Api.lift (received.set a (.num (config.scaled temp))) else pure received) =
      fun temp => Api.lift (if pyTruthy includeEmpty || decide (0 < temp) then
        received.set a (.num (config.scaled temp)) else pure received) :=
    funext fun temp => by split <;> rfl
  rw [hlift]
  exact (hf t a m).bind_lift _

theorem run_totalOver (hf : ∀ t a m, (amountOf a m).Yields w t k (f t a m))
    (addresses minconf : Json) (vs sent : List Json) (t : Nat) :
    ∃ t', (totalOver config amountOf).run w ⟨addresses :: minconf :: vs, sent, t⟩ =
      match atLeastOne minconf >>= fun m => pyIter addresses >>= fun as =>
          addUp (fun t a => f t a m) k t as 0 with
      | .ok b => (.ok (), ⟨vs, sent ++ [.num (config.scaled b)], t'⟩)
      | .error e => (.error e, ⟨vs, sent, t'⟩) := by
  simp only [totalOver, Api.run_receive_bind, Api.run_lift_bind]
  cases atLeastOne minconf with
  | error e => exact ⟨t, rfl⟩
  | ok m =>
    cases pyIter addresses with
    | error e => exact ⟨t, rfl⟩
    | ok as =>
      dsimp only
      obtain ⟨t', h, -⟩ := yields_addUp hf m as t 0 vs sent
      rw [Api.run_bind, h]
      cases hu : addUp (fun t a => f t a m) k t as 0 <;> exact ⟨t', by simp [hu]⟩

theorem run_listOver (hf : ∀ t a m, (amountOf a m).Yields w t k (f t a m))
    (addresses minconf includeEmpty : Json) (vs sent : List Json) (t : Nat) :
    ∃ t', (listOver config amountOf).run w ⟨addresses :: minconf :: includeEmpty :: vs, sent, t⟩ =
      match atLeastOne minconf with
      | .error e => (.error e, ⟨includeEmpty :: vs, sent, t⟩)
      | .ok m =>
        match pyIter addresses >>= fun as =>
            listUp (fun t a => f t a m) k includeEmpty config.scaled t as .empty with
        | .ok d => (.ok (), ⟨vs, sent ++ [d.toJson], t'⟩)
        | .error e => (.error e, ⟨vs, sent, t'⟩) := by
  simp only [listOver, Api.run_receive_bind, Api.run_lift_bind]
  cases atLeastOne minconf with
  | error e => exact ⟨t, rfl⟩
  | ok m =>
    cases pyIter addresses with
    | error e => exact ⟨t, rfl⟩
    | ok as =>
      dsimp only
      obtain ⟨t', h, -⟩ := yields_listUp config hf m includeEmpty as t .empty vs sent
      rw [Api.run_bind, h]
      cases hu : listUp (fun t a => f t a m) k includeEmpty config.scaled t as .empty <;>
        exact ⟨t', by simp [hu]⟩

end Aggregates

end BismuthApi
