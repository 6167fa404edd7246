import BismuthApi.Paths

/-!
# Running a handler

The deterministic semantics of a handler: the session hands out the client's values in order
and collects what the handler sends, and every other call is answered by the world. The world
is a ledger snapshot for each moment, and the handler's `t`-th collaborator call sees the
snapshot of moment `t`: between two calls the node may have appended blocks. The store's
table statements are answered from the snapshot by the SQL of `Ledger`; the calls whose code is
not in apihandler.py (the bismuthcore block lookups, the mempool, the peers, the validator)
are answered by the world as it likes.

`Api.run_path` ties this semantics to the paths of `Paths`: every run follows one path, so what
holds of all paths holds of every run.
-/

namespace BismuthApi

/-- What the collaborators answer at each moment. -/
structure World where
  ledger : Nat → Ledger
  backend : Nat → (c : Call) → Except Exc c.Answer

/-- The store holds `l` at every moment; the other collaborators raise. -/
def stillWorld (l : Ledger) : World := ⟨fun _ => l, fun _ _ => .error .external⟩

/-- The session as a handler runs: the client's values still to read, the values sent, and the
number of collaborator calls made so far. -/
structure Session where
  inputs : List Json
  sent : List Json
  clock : Nat

/-- The answer to a collaborator call at moment `t`. -/
def World.answer (w : World) (t : Nat) : (c : Call) → Except Exc c.Answer
  | .blockHeightMax => .ok (w.ledger t).blockHeightMax
  | .fetchRows q => .ok (q.rows (w.ledger t))
  | .fetchDifficulties lo hi => .ok ((w.ledger t).difficulties lo hi)
  | .fetchTotal q => q.value (w.ledger t)
  | c => w.backend t c

/-- One call: the session answers `receive` and `send`, the world the rest. A closed session
raises on `receive`. -/
def Session.step (w : World) (s : Session) : (c : Call) → Except Exc c.Answer × Session
  | .receive =>
    match s.inputs with
    | v :: vs => (.ok v, { s with inputs := vs })
    | [] => (.error .external, s)
  | .send v => (.ok (), { s with sent := s.sent ++ [v] })
  | c => (w.answer s.clock c, { s with clock := s.clock + 1 })

/-- Run a handler to its result. -/
def Api.run (w : World) : Api α → Session → Except Exc α × Session
  | .pure a, s => (.ok a, s)
  | .raise e, s => (.error e, s)
  | .call c k, s => (k (s.step w c).1).run w (s.step w c).2

namespace Api
variable {w : World}

@[simp] theorem run_pure (a : α) (s : Session) : (Pure.pure a : Api α).run w s = (.ok a, s) := rfl

@[simp] theorem run_throw (e : Exc) (s : Session) : (throw e : Api α).run w s = (.error e, s) :=
  rfl

theorem run_bind (x : Api α) (f : α → Api β) (s : Session) :
    (x >>= f).run w s = match x.run w s with
      | (.ok a, s') => (f a).run w s'
      | (.error e, s') => (.error e, s') := by
  induction x generalizing s with
  | pure => rfl
  | raise => rfl
  | call c k ih => exact ih _ _

theorem run_tryCatch (x : Api α) (h : Exc → Api α) (s : Session) :
    (tryCatch x h : Api α).run w s = match x.run w s with
      | (.ok a, s') => (.ok a, s')
      | (.error e, s') => (h e).run w s' := by
  induction x generalizing s with
  | pure => rfl
  | raise => rfl
  | call c k ih => exact ih _ _

@[simp] theorem run_perform (c : Call) (s : Session) : (perform c).run w s = s.step w c := by
  show (match (s.step w c).1 with | .ok a => Api.pure a | .error e => .raise e).run w
    (s.step w c).2 = _
  generalize s.step w c = p
  rcases p with ⟨_ | _, _⟩ <;> rfl

@[simp] theorem run_lift (x : Except Exc α) (s : Session) : (lift x).run w s = (x, s) := by
  cases x <;> rfl

@[simp] theorem run_lift_bind (x : Except Exc α) (f : α → Api β) (s : Session) :
    (lift x >>= f).run w s = match x with
      | .ok a => (f a).run w s
      | .error e => (.error e, s) := by
  cases x <;> rfl

@[simp] theorem run_receive_bind (f : Json → Api α) (v : Json) (vs sent : List Json) (t : Nat) :
    (receive >>= f).run w ⟨v :: vs, sent, t⟩ = (f v).run w ⟨vs, sent, t⟩ := rfl

@[simp] theorem run_send (v : Json) (s : Session) :
    (send v).run w s = (.ok (), { s with sent := s.sent ++ [v] }) := rfl

@[simp] theorem run_map (f : α → β) (x : Api α) (s : Session) :
    (f <$> x).run w s = match x.run w s with
      | (.ok a, s') => (.ok (f a), s')
      | (.error e, s') => (.error e, s') := by
  show (x >>= fun a => Pure.pure (f a)).run w s = _
  rw [run_bind]
  rcases x.run w s with ⟨_ | _, _⟩ <;> rfl

@[simp] theorem step_quiet {c : Call} (hc : c.isReceive = false ∧ c.isSend = false) (s : Session) :
    s.step w c = (w.answer s.clock c, { s with clock := s.clock + 1 }) := by
  cases c <;> first | rfl | simp [Call.isReceive, Call.isSend] at hc

@[simp] theorem run_perform_bind_world (c : Call) (f : c.Answer → Api α) (s : Session)
    (hc : c.isReceive = false ∧ c.isSend = false) :
    (perform c >>= f).run w s = match w.answer s.clock c with
      | .ok a => (f a).run w { s with clock := s.clock + 1 }
      | .error e => (.error e, { s with clock := s.clock + 1 }) := by
  rw [run_bind, run_perform, step_quiet hc]
  cases w.answer s.clock c <;> rfl

end Api

/-! ## Runs follow paths -/

/-- The value a `receive` event got. -/
def Event.input? : Event → Option Json
  | ⟨.receive, .ok v⟩ => some v
  | _ => none

/-- The value a `send` event sent. -/
def Event.output? : Event → Option Json
  | ⟨.send v, _⟩ => some v
  | _ => none

theorem Event.isSome_input? (e : Event) :
    e.input?.isSome = (e.call.isReceive && e.answer.isOk) := by
  rcases e with ⟨c, a⟩
  cases c <;> cases a <;> rfl

theorem Event.isSome_output? (e : Event) : e.output?.isSome = e.call.isSend := by
  rcases e with ⟨c, a⟩
  cases c <;> rfl

/-- A path reads one value for each receive, when every receive went through. -/
theorem length_inputs {es : List Event} (ha : Answered Call.isReceive es) :
    (es.filterMap Event.input?).length = reads es := by
  rw [List.length_filterMap_eq_countP, reads]
  exact List.countP_congr fun e he => by
    rw [Event.isSome_input?]
    by_cases h : e.call.isReceive <;> simp [h, ha e he]

/-- A path sends one value for each send. -/
theorem length_outputs (es : List Event) : (es.filterMap Event.output?).length = sends es := by
  rw [List.length_filterMap_eq_countP, sends]
  exact List.countP_congr fun e _ => by rw [Event.isSome_output?]

theorem Session.step_event (w : World) (s : Session) (c : Call) :
    s.inputs = (Event.input? ⟨c, (s.step w c).1⟩).toList ++ (s.step w c).2.inputs ∧
      (s.step w c).2.sent = s.sent ++ (Event.output? ⟨c, (s.step w c).1⟩).toList := by
  cases c with
  | receive =>
    rcases s with ⟨_ | ⟨v, vs⟩, sent, t⟩ <;> simp [Session.step, Event.input?, Event.output?]
  | _ => simp [Session.step, Event.input?, Event.output?]

/-- A send always goes through, and a receive raises only on a used-up session. -/
theorem Session.step_answered (w : World) (s : Session) (c : Call) :
    (c.isSend → (s.step w c).1.isOk) ∧
      (c.isReceive → (s.step w c).1.isOk ∨ (s.step w c).2.inputs = []) := by
  cases c with
  | receive => rcases s with ⟨_ | ⟨v, vs⟩, sent, t⟩ <;> simp [Session.step, Call.isSend]
  | send v => simp [Session.step]
  | _ => simp [Call.isSend, Call.isReceive]

/-- **A run follows one path of the handler**, reading from the session the values the path's
receives got and sending the values of its sends. Every send of the path went through, and so
did every receive, unless the run used the session up. -/
theorem Api.run_path (w : World) (x : Api α) (s : Session) :
    ∃ es, x.Path es (x.run w s).1 ∧
      s.inputs = es.filterMap Event.input? ++ (x.run w s).2.inputs ∧
      (x.run w s).2.sent = s.sent ++ es.filterMap Event.output? ∧
      Answered Call.isSend es ∧ (Answered Call.isReceive es ∨ (x.run w s).2.inputs = []) := by
  induction x generalizing s with
  | pure a => exact ⟨[], .pure a, rfl, by simp [Api.run], answered_nil, .inl answered_nil⟩
  | raise e => exact ⟨[], .raise e, rfl, by simp [Api.run], answered_nil, .inl answered_nil⟩
  | call c k ih =>
    obtain ⟨es, hp, hi, ho, hs, hr⟩ := ih (s.step w c).1 (s.step w c).2
    obtain ⟨hi₁, ho₁⟩ := s.step_event w c
    obtain ⟨hs₁, hr₁⟩ := s.step_answered w c
    refine ⟨⟨c, (s.step w c).1⟩ :: es, .call _ hp, ?_, ?_, answered_cons.2 ⟨hs₁, hs⟩, ?_⟩
    · rw [List.filterMap_cons]
      cases h : Event.input? ⟨c, (s.step w c).1⟩ <;> simp_all [Api.run]
    · rw [List.filterMap_cons]
      cases h : Event.output? ⟨c, (s.step w c).1⟩ <;> simp_all [Api.run]
    · by_cases hk : c.isReceive → (s.step w c).1.isOk
      · exact hr.imp_left fun ha => answered_cons.2 ⟨hk, ha⟩
      · obtain ⟨hrecv, hraised⟩ := Classical.not_imp.1 hk
        rw [(hr₁ hrecv).resolve_left hraised] at hi
        exact .inr (List.append_eq_nil.1 hi.symm).2

end BismuthApi
