import BismuthApi.Api

/-!
# Paths through a handler

A path is one way through a handler's tree: the calls it made, each with the answer it got,
and the result it ended with. Every answer is allowed, an exception included, so a fact about
all paths holds whatever the session, the store, the mempool, the peers and the validator do.
Facts about what a handler reads and sends are facts of this kind, composed along `bind`.
-/

namespace BismuthApi

/-- One call a handler made, and the answer it got. -/
structure Event where
  call : Call
  answer : Except Exc call.Answer

def Call.isReceive : Call → Bool
  | .receive => true
  | _ => false

def Call.isSend : Call → Bool
  | .send _ => true
  | _ => false

/-- The values a path read from the session. -/
def reads (es : List Event) : Nat := es.countP (·.call.isReceive)

/-- The values a path sent on the session. -/
def sends (es : List Event) : Nat := es.countP (·.call.isSend)

/-- Every call of the kind along the path was answered, none raised. -/
def Answered (kind : Call → Bool) (es : List Event) : Prop :=
  ∀ e ∈ es, kind e.call → e.answer.isOk

@[simp] theorem reads_nil : reads [] = 0 := rfl

@[simp] theorem sends_nil : sends [] = 0 := rfl

@[simp] theorem reads_cons (e : Event) (es : List Event) :
    reads (e :: es) = reads es + if e.call.isReceive then 1 else 0 :=
  List.countP_cons _ _ _

@[simp] theorem sends_cons (e : Event) (es : List Event) :
    sends (e :: es) = sends es + if e.call.isSend then 1 else 0 :=
  List.countP_cons _ _ _

@[simp] theorem reads_append (es es' : List Event) : reads (es ++ es') = reads es + reads es' :=
  List.countP_append _ _ _

@[simp] theorem sends_append (es es' : List Event) : sends (es ++ es') = sends es + sends es' :=
  List.countP_append _ _ _

@[simp] theorem answered_nil {kind : Call → Bool} : Answered kind [] :=
  fun _ h => absurd h (List.not_mem_nil _)

@[simp] theorem answered_cons {kind : Call → Bool} {e : Event} {es : List Event} :
    Answered kind (e :: es) ↔ (kind e.call → e.answer.isOk) ∧ Answered kind es := by
  simp only [Answered, List.mem_cons, or_imp, forall_and, forall_eq]

@[simp] theorem answered_append {kind : Call → Bool} {es es' : List Event} :
    Answered kind (es ++ es') ↔ Answered kind es ∧ Answered kind es' := by
  simp only [Answered, List.mem_append, or_imp, forall_and]

namespace Api

/-- A path through the tree, with the result it ends with. -/
inductive Path : Api α → List Event → Except Exc α → Prop
  | pure (a : α) : Path (.pure a) [] (.ok a)
  | raise (e : Exc) : Path (.raise e) [] (.error e)
  | call {c : Call} {k : Except Exc c.Answer → Api α} (x : Except Exc c.Answer) {es r} :
      Path (k x) es r → Path (.call c k) (⟨c, x⟩ :: es) r

theorem Path.pure_inv {a : α} {es r} (h : (Api.pure a).Path es r) : es = [] ∧ r = .ok a := by
  cases h; exact ⟨rfl, rfl⟩

theorem Path.raise_inv {e : Exc} {es} {r : Except Exc α} (h : (Api.raise e).Path es r) :
    es = [] ∧ r = .error e := by
  cases h; exact ⟨rfl, rfl⟩

theorem Path.call_inv {c : Call} {k : Except Exc c.Answer → Api α} {es r}
    (h : (Api.call c k).Path es r) : ∃ x es', es = ⟨c, x⟩ :: es' ∧ (k x).Path es' r := by
  cases h with
  | call x h => exact ⟨x, _, rfl, h⟩

/-- A path of `x >>= f` either stops inside `x` with its exception, or runs `x` to a value
and goes on into `f`. -/
theorem Path.bind_inv {x : Api α} {f : α → Api β} {es r} (h : (x >>= f).Path es r) :
    (∃ e, x.Path es (.error e) ∧ r = .error e) ∨
      ∃ a es₁ es₂, x.Path es₁ (.ok a) ∧ (f a).Path es₂ r ∧ es = es₁ ++ es₂ := by
  induction x generalizing es with
  | pure a => exact .inr ⟨a, [], es, .pure a, h, rfl⟩
  | raise e =>
    obtain ⟨rfl, rfl⟩ := Path.raise_inv h
    exact .inl ⟨e, .raise e, rfl⟩
  | call c k ih =>
    obtain ⟨x, es', rfl, hk⟩ := Path.call_inv h
    rcases ih x hk with ⟨e, he, rfl⟩ | ⟨a, es₁, es₂, h₁, h₂, rfl⟩
    · exact .inl ⟨e, .call x he, rfl⟩
    · exact .inr ⟨a, _, es₂, .call x h₁, h₂, rfl⟩

/-- A path of `try x catch h` runs `x` to a value, or into an exception and on into `h`. -/
theorem Path.tryCatch_inv {x : Api α} {h : Exc → Api α} {es r}
    (hp : (tryCatch x h : Api α).Path es r) :
    (∃ a, x.Path es (.ok a) ∧ r = .ok a) ∨
      ∃ e es₁ es₂, x.Path es₁ (.error e) ∧ (h e).Path es₂ r ∧ es = es₁ ++ es₂ := by
  induction x generalizing es with
  | pure a =>
    obtain ⟨rfl, rfl⟩ := Path.pure_inv hp
    exact .inl ⟨a, .pure a, rfl⟩
  | raise e => exact .inr ⟨e, [], es, .raise e, hp, rfl⟩
  | call c k ih =>
    obtain ⟨x, es', rfl, hk⟩ := Path.call_inv hp
    rcases ih x hk with ⟨a, ha, rfl⟩ | ⟨e, es₁, es₂, h₁, h₂, rfl⟩
    · exact .inl ⟨a, .call x ha, rfl⟩
    · exact .inr ⟨e, _, es₂, .call x h₁, h₂, rfl⟩

theorem Path.perform_inv {c : Call} {es r} (h : (perform c).Path es r) : es = [⟨c, r⟩] := by
  obtain ⟨x, es', rfl, hk⟩ := Path.call_inv h
  cases x with
  | ok a => obtain ⟨rfl, rfl⟩ := Path.pure_inv hk; rfl
  | error e => obtain ⟨rfl, rfl⟩ := Path.raise_inv hk; rfl

theorem Path.lift_inv {x : Except Exc α} {es r} (h : (lift x).Path es r) : es = [] ∧ r = x := by
  cases x with
  | ok a => exact Path.pure_inv h
  | error e => exact Path.raise_inv h

/-- Every call a tree can make is of the kind. -/
def Only (kind : Call → Bool) : Api α → Prop
  | .pure _ => True
  | .raise _ => True
  | .call c k => kind c ∧ ∀ x, (k x).Only kind

theorem Only.path {kind : Call → Bool} {x : Api α} (hx : x.Only kind) {es r} (h : x.Path es r) :
    ∀ e ∈ es, kind e.call := by
  induction h with
  | pure | raise => simp
  | call x _ ih =>
    simp only [List.mem_cons, forall_eq_or_imp]
    exact ⟨hx.1, ih (hx.2 x)⟩

theorem Only.bind {kind : Call → Bool} {x : Api α} {f : α → Api β} (hx : x.Only kind)
    (hf : ∀ a, (f a).Only kind) : (x >>= f).Only kind := by
  induction x with
  | pure a => exact hf a
  | raise => trivial
  | call c k ih => exact ⟨hx.1, fun y => ih y (hx.2 y)⟩

theorem Only.tryCatch {kind : Call → Bool} {x : Api α} {h : Exc → Api α} (hx : x.Only kind)
    (hh : ∀ e, (h e).Only kind) : (MonadExcept.tryCatch x h : Api α).Only kind := by
  induction x with
  | pure => trivial
  | raise e => exact hh e
  | call c k ih => exact ⟨hx.1, fun y => ih y (hx.2 y)⟩

theorem Only.mono {kind kind' : Call → Bool} (h : ∀ c, kind c → kind' c) {x : Api α}
    (hx : x.Only kind) : x.Only kind' := by
  induction x with
  | pure | raise => trivial
  | call c k ih => exact ⟨h c hx.1, fun y => ih y (hx.2 y)⟩

theorem Only.perform {kind : Call → Bool} {c : Call} (hc : kind c) : (perform c).Only kind :=
  ⟨hc, fun x => by cases x <;> trivial⟩

theorem Only.lift {kind : Call → Bool} (x : Except Exc α) : (lift x).Only kind := by
  cases x <;> trivial

theorem Only.lift_bind {kind : Call → Bool} {x : Except Exc α} {f : α → Api β}
    (hf : ∀ a, x = .ok a → (f a).Only kind) : (Api.lift x >>= f).Only kind := by
  cases x with
  | ok a => exact hf a rfl
  | error => trivial

theorem Only.ite {kind : Call → Bool} {c : Prop} [Decidable c] {x y : Api α} (hx : x.Only kind)
    (hy : y.Only kind) : (if c then x else y).Only kind := by
  split <;> assumption

theorem Only.foldlM {kind : Call → Bool} {f : β → γ → Api β} (hf : ∀ b c, (f b c).Only kind)
    (l : List γ) (b : β) : (l.foldlM f b).Only kind := by
  induction l generalizing b with
  | nil => trivial
  | cons c l ih => exact Only.bind (hf b c) fun b' => ih b'

theorem Only.reads_eq_zero {x : Api α} (hx : x.Only fun c => !c.isReceive) {es r}
    (h : x.Path es r) : reads es = 0 := by
  simpa [reads, List.countP_eq_zero] using hx.path h

end Api

end BismuthApi
