import BismuthApi.Handlers
import BismuthApi.Run

/-!
# Request framing

The session is a blocking channel of values: a handler reads its parameters one `receive` at a
time and writes its reply with one `send`, and the node's next `receive` is taken as the next
command. This module proves, over every path of every handler (whatever the session yields and
whatever the collaborators answer or raise), how many values a dispatch reads and sends.

A handler that converts a parameter before reading the next one stops short when the
conversion raises, and only then: the values it received fail the command's checks
(`earlyChecks`), and the values it did not read stay on the session. Two handlers catch every
exception and can return having sent nothing. Through `Api.run_path` the same bounds hold of
every run of the dispatcher. An unknown name leaves the session untouched, the disabled commands
reach no collaborator, api_getaddressinfo asks the store nothing about a rejected address, and
no command but api_clearmempool clears the mempool.
-/

namespace BismuthApi

/-- An exception of converting a received value: `int()`, a comparison, an addition. -/
def Exc.IsConversion : Exc → Prop
  | .typeError => True
  | .valueError _ => True
  | _ => False

/-- The calls that neither read nor write the session. -/
def Call.isQuiet (c : Call) : Bool := !c.isReceive && !c.isSend

/-- What a path of a handler with `n` parameters and one reply does: it reads the `n` values, or
fewer when the conversion of a value it received raised before its next read; `conv` tells
whether the values received so far convert. It sends once when it returns and never when it
raises. -/
structure Framing (n : Nat) (conv : List Json → Bool) (es : List Event) (r : Except Exc α) :
    Prop where
  reads : Answered Call.isReceive es → reads es = n ∨ reads es < n ∧
    conv (es.filterMap Event.input?) = false ∧ ∃ e, r = .error e ∧ e.IsConversion
  sends : Answered Call.isSend es → sends es = if r.isOk then 1 else 0

/-- Every path of the tree is framed. -/
def Api.Framed (n : Nat) (conv : List Json → Bool) (x : Api α) : Prop :=
  ∀ es r, x.Path es r → Framing n conv es r

/-- The reads of every path of the tree are framed. -/
def Api.Reads (n : Nat) (conv : List Json → Bool) (x : Api α) : Prop :=
  ∀ es r, x.Path es r → Answered Call.isReceive es → reads es = n ∨ reads es < n ∧
    conv (es.filterMap Event.input?) = false ∧ ∃ e, r = .error e ∧ e.IsConversion

/-- Whether received values pass the checks a handler makes on them before its next read, the
`i`-th check on the `i`-th value. -/
def passes : List (Json → Bool) → List Json → Bool
  | c :: cs, v :: vs => c v && passes cs vs
  | _, _ => true

/-- int() of the value goes through. -/
def convertsInt (v : Json) : Bool := (pyInt v).isOk

/-- A value no conversion looks at before the next read. -/
def unchecked (_ : Json) : Bool := true

section Rules
variable {α β : Type} {n : Nat} {conv : List Json → Bool}

theorem Api.Framed.reads {x : Api α} (hx : x.Framed n conv) : x.Reads n conv :=
  fun es r h => (hx es r h).reads

theorem Api.Only.reads_zero {x : Api α} (hx : x.Only fun c => !c.isReceive) : x.Reads 0 conv :=
  fun _ _ h _ => .inl (hx.reads_eq_zero h)

/-- A receive the path got a value from: one read, and the value first among those received. -/
theorem receive_path_events {v : Json} {es : List Event}
    (h : (receive : Api Json).Path es (.ok v)) (es₂ : List Event) :
    reads (es ++ es₂) = reads es₂ + 1 ∧
      (es ++ es₂).filterMap Event.input? = v :: es₂.filterMap Event.input? := by
  rw [Api.Path.perform_inv h]
  exact ⟨by simp [Call.isReceive], rfl⟩

theorem receive_path_raised {e : Exc} {es : List Event}
    (h : (receive : Api Json).Path es (.error e)) : ¬ Answered Call.isReceive es := by
  rw [Api.Path.perform_inv h]
  exact fun ha => absurd (ha ⟨.receive, .error e⟩ (by simp) rfl) (by simp)

theorem Api.Reads.receive_bind {f : Json → Api α} (hf : ∀ v, (f v).Reads n fun vs => conv (v :: vs)) :
    (receive >>= f).Reads (n + 1) conv := by
  intro es r h ha
  rcases Api.Path.bind_inv h with ⟨e, he, rfl⟩ | ⟨v, es₁, es₂, h₁, h₂, rfl⟩
  · exact absurd ha (receive_path_raised he)
  · obtain ⟨hr, hi⟩ := receive_path_events h₁ es₂
    rw [hr, hi]
    simpa using hf v es₂ r h₂ (answered_append.1 ha).2

theorem Api.Reads.le {x : Api α} (hx : x.Reads n conv) {es r} (h : x.Path es r)
    (ha : Answered Call.isReceive es) : reads es ≤ n := by
  rcases hx es r h ha with h | ⟨h, -⟩ <;> omega

theorem Api.Only.quiet_reads {x : Api α} (hx : x.Only Call.isQuiet) {es r} (h : x.Path es r) :
    reads es = 0 ∧ sends es = 0 := by
  have hq : ∀ e ∈ es, e.call.isReceive = false ∧ e.call.isSend = false := fun e he => by
    simpa [Call.isQuiet] using hx.path h e he
  exact ⟨List.countP_eq_zero.2 fun e he => by simp [(hq e he).1],
    List.countP_eq_zero.2 fun e he => by simp [(hq e he).2]⟩

theorem framed_send (v : Json) : (send v).Framed 0 conv := by
  intro es r h
  rw [Api.Path.perform_inv h]
  refine ⟨fun _ => .inl rfl, fun hs => ?_⟩
  simp [Call.isSend, hs ⟨.send v, r⟩ (by simp) rfl]

theorem framed_throw (e : Exc) : (throw e : Api α).Framed 0 conv := by
  intro es r h
  obtain ⟨rfl, rfl⟩ := Api.Path.raise_inv h
  exact ⟨fun _ => .inl rfl, fun _ => rfl⟩

theorem Api.Framed.receive_bind {f : Json → Api α}
    (hf : ∀ v, (f v).Framed n fun vs => conv (v :: vs)) : (receive >>= f).Framed (n + 1) conv := by
  intro es r h
  rcases Api.Path.bind_inv h with ⟨e, he, rfl⟩ | ⟨v, es₁, es₂, h₁, h₂, rfl⟩
  · refine ⟨fun ha => absurd ha (receive_path_raised he), fun _ => ?_⟩
    rw [Api.Path.perform_inv he]
    simp [Call.isSend]
  · obtain ⟨hr, hs⟩ := hf v es₂ r h₂
    obtain ⟨hread, hi⟩ := receive_path_events h₁ es₂
    refine ⟨fun ha => ?_, fun ha => ?_⟩
    · rw [hread, hi]
      simpa using hr (answered_append.1 ha).2
    · rw [Api.Path.perform_inv h₁]
      simpa [Call.isSend] using hs (answered_append.1 ha).2

/-- A conversion between two reads: when it raises, it raises a conversion exception and the
values received so far fail the command's checks. -/
theorem Api.Framed.lift_bind {x : Except Exc α} {f : α → Api β}
    (hx : ∀ e, x = .error e → e.IsConversion ∧ conv [] = false)
    (hf : ∀ a, x = .ok a → (f a).Framed n conv) : (Api.lift x >>= f).Framed n conv := by
  intro es r h
  cases x with
  | ok a => exact hf a rfl es r h
  | error e =>
    obtain ⟨rfl, rfl⟩ := Api.Path.raise_inv h
    obtain ⟨hc, hconv⟩ := hx e rfl
    refine ⟨fun _ => ?_, fun _ => rfl⟩
    rcases Nat.eq_zero_or_pos n with rfl | hn
    · exact .inl rfl
    · exact .inr ⟨hn, hconv, e, rfl, hc⟩

theorem Api.Framed.quiet_bind {x : Api α} {f : α → Api β} (hx : x.Only Call.isQuiet)
    (hf : ∀ a, (f a).Framed 0 conv) : (x >>= f).Framed 0 conv := by
  intro es r h
  rcases Api.Path.bind_inv h with ⟨e, he, rfl⟩ | ⟨a, es₁, es₂, h₁, h₂, rfl⟩
  · obtain ⟨hr, hs⟩ := hx.quiet_reads he
    exact ⟨fun _ => .inl hr, fun _ => by simp [hs]⟩
  · obtain ⟨hr, hs⟩ := hx.quiet_reads h₁
    obtain ⟨hr₂, hs₂⟩ := hf a es₂ r h₂
    refine ⟨fun ha => .inl ?_, fun ha => ?_⟩
    · simpa [hr] using hr₂ (answered_append.1 ha).2
    · simpa [hs] using hs₂ (answered_append.1 ha).2

theorem Api.Framed.ite {c : Prop} [Decidable c] {x y : Api α} (hx : x.Framed n conv)
    (hy : y.Framed n conv) : (if c then x else y).Framed n conv := by
  split <;> assumption

end Rules

theorem pyInt_conversion (v : Json) : ∀ e, pyInt v = .error e → e.IsConversion := by
  intro e h
  cases v with
  | str s =>
    simp only [pyInt] at h
    split at h <;> cases h
    trivial
  | num | bool => cases h
  | _ => cases h; trivial

theorem pyNum_conversion (v : Json) : ∀ e, pyNum v = .error e → e.IsConversion := by
  intro e h
  cases v <;> cases h <;> trivial

theorem pyLt_conversion (a b : Json) : ∀ e, pyLt a b = .error e → e.IsConversion := by
  intro e h
  cases ha : pyNum a with
  | error e' =>
    simp only [pyLt, ha, except_error_bind, Except.error.injEq] at h
    exact h ▸ pyNum_conversion a e' ha
  | ok x =>
    cases hb : pyNum b with
    | error e' =>
      simp only [pyLt, ha, hb, except_ok_bind, except_error_bind, Except.error.injEq] at h
      exact h ▸ pyNum_conversion b e' hb
    | ok y => simp [pyLt, ha, hb, pure, Except.pure] at h

theorem atLeastOne_conversion (v : Json) : ∀ e, atLeastOne v = .error e → e.IsConversion := by
  intro e h
  cases hp : pyLt v (.num 1) with
  | error e' =>
    simp only [atLeastOne, hp, except_error_bind, Except.error.injEq] at h
    exact h ▸ pyLt_conversion _ _ e' hp
  | ok b => cases b <;> simp [atLeastOne, hp, pure, Except.pure] at h

/-- minconf < 1 goes through. -/
def comparesMinconf (v : Json) : Bool := (atLeastOne v).isOk

/-! ## The handlers, one by one -/

section Handlers
variable (config : Config) (codec : Codec) {conv : List Json → Bool}
open Api

theorem quiet_getBalance (address minconf : Json) :
    (getBalance address minconf).Only Call.isQuiet := by
  unfold getBalance
  exact Only.bind (Only.perform (by rfl)) fun _ => Only.bind (Only.lift _) fun _ =>
    Only.bind (Only.perform (by rfl)) fun _ => Only.bind (Only.perform (by rfl)) fun _ => trivial

theorem quiet_getReceived (address minconf : Json) :
    (getReceived address minconf).Only Call.isQuiet := by
  unfold getReceived
  exact Only.bind (Only.perform (by rfl)) fun _ => Only.bind (Only.lift _) fun _ =>
    Only.bind (Only.perform (by rfl)) fun _ => trivial

theorem framed_apiMempool : apiMempool.Framed 0 (passes []) :=
  Framed.quiet_bind (Only.perform (by rfl)) fun _ =>
    Framed.ite (framed_send _) (Framed.quiet_bind (Only.perform (by rfl)) fun _ => framed_send _)

theorem framed_apiGetconfig : (apiGetconfig config).Framed 0 (passes []) :=
  Framed.quiet_bind (Only.lift _) fun _ => framed_send _

theorem framed_apiClearmempool : apiClearmempool.Framed 0 (passes []) :=
  Framed.quiet_bind (Only.perform (by rfl)) fun _ => framed_send _

theorem framed_sendBlocksOf {fetch : Json → Api PyDict} (h : ∀ k, (fetch k).Only Call.isQuiet) :
    (sendBlocksOf fetch).Framed 1 (passes []) :=
  Framed.receive_bind fun k => Framed.quiet_bind (h k) fun _ => framed_send _

theorem framed_apiGetblockfromhashextra : apiGetblockfromhashextra.Framed 1 (passes []) := by
  unfold apiGetblockfromhashextra
  exact Framed.receive_bind fun _ => Framed.quiet_bind (Only.perform (by rfl)) fun _ =>
    Framed.quiet_bind (Only.lift _) fun _ => Framed.quiet_bind (Only.lift _) fun _ =>
    Framed.quiet_bind (Only.lift _) fun _ => Framed.quiet_bind (Only.lift _) fun _ =>
    Framed.quiet_bind (Only.perform (by rfl)) fun _ => Framed.quiet_bind (Only.lift _) fun _ =>
    Framed.quiet_bind (Only.perform (by rfl)) fun _ =>
    Framed.quiet_bind (Only.perform (by rfl)) fun _ => Framed.quiet_bind (Only.lift _) fun _ =>
    framed_send _

theorem framed_apiGetaddressrange : apiGetaddressrange.Framed 3 (passes []) :=
  Framed.receive_bind fun _ => Framed.receive_bind fun _ => Framed.receive_bind fun _ =>
    Framed.quiet_bind (Only.lift _) fun _ => Framed.quiet_bind (Only.perform (by rfl)) fun _ =>
    framed_send _

theorem framed_apiGetblockrange : (apiGetblockrange codec).Framed 2 (passes []) := by
  unfold apiGetblockrange
  exact Framed.receive_bind fun _ => Framed.receive_bind fun _ =>
    Framed.quiet_bind (Only.lift _) fun _ => Framed.quiet_bind (Only.lift _) fun _ =>
    Framed.quiet_bind (Only.lift _) fun _ => Framed.quiet_bind (Only.perform (by rfl)) fun _ =>
    Framed.quiet_bind (Only.perform (by rfl)) fun _ => Framed.quiet_bind (Only.lift _) fun _ =>
    framed_send _

theorem framed_apiGetblocksince : (apiGetblocksince config codec).Framed 1 (passes []) := by
  unfold apiGetblocksince
  exact Framed.receive_bind fun _ => Framed.quiet_bind (Only.perform (by rfl)) fun _ =>
    Framed.quiet_bind (Only.lift _) fun _ => Framed.quiet_bind (Only.perform (by rfl)) fun _ =>
    framed_send _

theorem framed_apiGetblockswhereoflike :
    (apiGetblockswhereoflike config codec).Framed 2 (passes [convertsInt]) := by
  unfold apiGetblockswhereoflike
  exact Framed.receive_bind fun v => Framed.lift_bind
    (fun e h => ⟨pyInt_conversion v e h, by simp [passes, convertsInt, h]⟩) fun _ _ =>
    Framed.receive_bind fun _ => Framed.quiet_bind (Only.lift _) fun _ =>
    Framed.quiet_bind (Only.perform (by rfl)) fun _ => Framed.quiet_bind (Only.lift _) fun _ =>
    Framed.quiet_bind (Only.perform (by rfl)) fun _ => framed_send _

theorem framed_apiGetblocksafterwhere : apiGetblocksafterwhere.Framed 2 (passes []) :=
  Framed.receive_bind fun _ => Framed.receive_bind fun _ => framed_throw _

theorem framed_apiGetaddresssince :
    (apiGetaddresssince config codec).Framed 3 (passes [convertsInt, convertsInt]) := by
  unfold apiGetaddresssince
  exact Framed.receive_bind fun v => Framed.lift_bind
    (fun e h => ⟨pyInt_conversion v e h, by simp [passes, convertsInt, h]⟩) fun _ _ =>
    Framed.receive_bind fun v' => Framed.lift_bind
    (fun e h => ⟨pyInt_conversion v' e h, by simp [passes, convertsInt, h]⟩) fun _ _ =>
    Framed.receive_bind fun _ => Framed.quiet_bind (Only.perform (by rfl)) fun _ =>
    Framed.quiet_bind (Only.lift _) fun _ => Framed.quiet_bind (Only.perform (by rfl)) fun _ =>
    framed_send _

theorem framed_totalOver {amountOf : Json → Json → Api ℚ}
    (h : ∀ a m, (amountOf a m).Only Call.isQuiet) : (totalOver config amountOf).Framed 2 (passes []) := by
  unfold totalOver
  exact Framed.receive_bind fun _ => Framed.receive_bind fun _ =>
    Framed.quiet_bind (Only.lift _) fun _ => Framed.quiet_bind (Only.lift _) fun _ =>
    Framed.quiet_bind (Only.foldlM (fun _ _ => Only.bind (h _ _) fun _ => by trivial) _ _) fun _ =>
    framed_send _

theorem framed_listOver {amountOf : Json → Json → Api ℚ}
    (h : ∀ a m, (amountOf a m).Only Call.isQuiet) :
    (listOver config amountOf).Framed 3 (passes [unchecked, comparesMinconf]) := by
  unfold listOver
  exact Framed.receive_bind fun _ => Framed.receive_bind fun v => Framed.lift_bind
    (fun e h => ⟨atLeastOne_conversion v e h, by simp [passes, comparesMinconf, h]⟩) fun _ _ =>
    Framed.receive_bind fun _ =>
    Framed.quiet_bind (Only.lift _) fun _ =>
    Framed.quiet_bind (Only.foldlM (fun _ _ => Only.bind (h _ _) fun _ =>
      Only.ite (Only.lift _) (by trivial)) _ _) fun _ =>
    framed_send _

theorem framed_apiListbalance :
    (apiListbalance config).Framed 3 (passes [unchecked, comparesMinconf]) := by
  unfold apiListbalance
  exact Framed.receive_bind fun _ => Framed.receive_bind fun v => Framed.lift_bind
    (fun e h => ⟨atLeastOne_conversion v e h, by simp [passes, comparesMinconf, h]⟩) fun _ _ =>
    Framed.receive_bind fun _ =>
    Framed.quiet_bind (Only.lift _) fun _ =>
    Framed.quiet_bind (Only.foldlM (fun _ _ => Only.bind (quiet_getBalance _ _) fun _ =>
      Only.ite (Only.lift _) (by trivial)) _ _) fun _ =>
    framed_send _

/-! ## The two handlers that drop exceptions -/

theorem quiet_storedInfo (address : Json) : (storedInfo address).Only Call.isQuiet := by
  unfold storedInfo
  exact Only.tryCatch (Only.bind (Only.perform (by rfl)) fun _ =>
    Only.tryCatch (Only.bind (Only.perform (by rfl)) fun _ => by trivial) fun _ => by trivial)
    fun _ => by trivial

theorem storedInfo_isOk (address : Json) {es r} (h : (storedInfo address).Path es r) :
    r.isOk := by
  unfold storedInfo at h
  rcases Path.tryCatch_inv h with ⟨a, -, rfl⟩ | ⟨e, es₁, es₂, -, h₂, rfl⟩
  · rfl
  · obtain ⟨-, rfl⟩ := Path.pure_inv h₂
    rfl

theorem send_raised {v : Json} {es e} (h : (send v).Path es (.error e)) :
    ¬ Answered Call.isSend es := by
  rw [Path.perform_inv h]
  intro hs
  simpa using hs _ (List.mem_singleton_self _) rfl

theorem framed_addressInfoReply (address : Json) :
    (addressInfoReply address).Framed 0 (passes []) :=
  Framed.quiet_bind (Only.perform (by rfl)) fun _ => Framed.ite (framed_send _)
    (Framed.quiet_bind (quiet_storedInfo address) fun _ => framed_send _)

theorem framed_peerInfoReply : peerInfoReply.Framed 0 (passes []) :=
  Framed.quiet_bind (Only.perform (by rfl)) fun _ => framed_send _

def Call.isAddressCheck : Call → Bool
  | .addressIsValid _ => true
  | _ => false

def Call.isPeerList : Call → Bool
  | .peersConsensus => true
  | _ => false

/-- A raised call of the kind along the path. -/
def RaisedAt (kind : Call → Bool) (es : List Event) : Prop :=
  ∃ ev ∈ es, kind ev.call ∧ ev.answer.isOk = false

theorem addressInfoReply_raised {address : Json} {es e}
    (h : (addressInfoReply address).Path es (.error e)) (hs : Answered Call.isSend es) :
    RaisedAt Call.isAddressCheck es := by
  unfold addressInfoReply at h
  rcases Path.bind_inv h with ⟨e', he, -⟩ | ⟨v, es₁, es₂, -, h₂, rfl⟩
  · rw [Path.perform_inv he]
    exact ⟨_, List.mem_singleton_self _, rfl, rfl⟩
  · exfalso
    have hs₂ := (answered_append.1 hs).2
    split at h₂
    · exact send_raised h₂ hs₂
    · rcases Path.bind_inv h₂ with ⟨e', he', -⟩ | ⟨a, es₃, es₄, -, h₄, rfl⟩
      · exact absurd (storedInfo_isOk _ he') (by simp)
      · exact send_raised h₄ (answered_append.1 hs₂).2

theorem peerInfoReply_raised {es e} (h : peerInfoReply.Path es (.error e))
    (hs : Answered Call.isSend es) : RaisedAt Call.isPeerList es := by
  rcases Path.bind_inv h with ⟨e', he, -⟩ | ⟨v, es₁, es₂, -, h₂, rfl⟩
  · rw [Path.perform_inv he]
    exact ⟨_, List.mem_singleton_self _, rfl, rfl⟩
  · exact absurd (answered_append.1 hs).2 (send_raised h₂)

/-- A tree with no parameters and one reply, whose exceptions are dropped: it always returns,
and it sent its reply unless the tree raised. -/
theorem Api.Framed.swallow {x : Api Unit} (hx : x.Framed 0 conv) {es r}
    (h : (tryCatch x fun _ => pure () : Api Unit).Path es r) (hs : Answered Call.isSend es) :
    r.isOk ∧ (sends es = 1 ∨ sends es = 0 ∧ ∃ e, x.Path es (.error e)) := by
  rcases Path.tryCatch_inv h with ⟨a, ha, rfl⟩ | ⟨e, es₁, es₂, h₁, h₂, rfl⟩
  · exact ⟨rfl, .inl (by simpa using (hx es _ ha).sends hs)⟩
  · obtain ⟨rfl, rfl⟩ := Path.pure_inv h₂
    simp only [List.append_nil] at hs ⊢
    exact ⟨rfl, .inr ⟨by simpa using (hx es₁ _ h₁).sends hs, e, h₁⟩⟩

/-- The collaborator calls whose exception api_getaddressinfo and api_getpeerinfo drop. -/
def Swallowed (name : String) (es : List Event) : Prop :=
  name = "api_getaddressinfo" ∧ RaisedAt Call.isAddressCheck es ∨
    name = "api_getpeerinfo" ∧ RaisedAt Call.isPeerList es

/-- What a path of the handler sends when every send went through: at most one reply, none when
it raised, and one when it returned, unless it dropped the exception of a collaborator. -/
def SendsOnce (name : String) (x : Api Unit) : Prop :=
  ∀ es r, x.Path es r → Answered Call.isSend es →
    sends es ≤ 1 ∧ (r.isOk = false → sends es = 0) ∧
      (r.isOk → sends es = 1 ∨ sends es = 0 ∧ Swallowed name es)

theorem Api.Framed.sendsOnce {n : Nat} {x : Api Unit} (hx : x.Framed n conv) (name : String) :
    SendsOnce name x := by
  intro es r h hs
  have := (hx es r h).sends hs
  cases hr : r.isOk <;> simp_all

theorem notReceive_of_quiet (c : Call) (hc : c.isQuiet) : !c.isReceive := by
  simp only [Call.isQuiet, Bool.and_eq_true] at hc
  exact hc.1

theorem reads_apiGetaddressinfo : apiGetaddressinfo.Reads 1 (passes []) :=
  Reads.receive_bind fun a => Only.reads_zero (Only.tryCatch
    (Only.bind (Only.perform (by rfl)) fun _ => Only.ite (Only.perform (by rfl))
      (Only.bind ((quiet_storedInfo a).mono notReceive_of_quiet) fun _ => Only.perform (by rfl)))
    fun _ => by trivial)

theorem reads_apiGetpeerinfo : apiGetpeerinfo.Reads 0 (passes []) :=
  Only.reads_zero (Only.tryCatch (Only.bind (Only.perform (by rfl)) fun _ => Only.perform (by rfl))
    fun _ => by trivial)

theorem sendsOnce_apiGetaddressinfo : SendsOnce "api_getaddressinfo" apiGetaddressinfo := by
  intro es r h hs
  rcases Path.bind_inv h with ⟨e, he, rfl⟩ | ⟨a, es₁, es₂, h₁, h₂, rfl⟩
  · rw [Path.perform_inv he]
    simp [Call.isSend]
  · rw [Path.perform_inv h₁] at hs ⊢
    have hs₂ := (answered_append.1 hs).2
    obtain ⟨hr, h1 | ⟨h0, e, he⟩⟩ := (framed_addressInfoReply a).swallow h₂ hs₂
    · simp [Call.isSend, h1, hr]
    · obtain ⟨ev, hev, hk⟩ := addressInfoReply_raised he hs₂
      simp only [Call.isSend, sends_append, sends_cons, h0, hr]
      exact ⟨by simp, by simp, fun _ => .inr ⟨by simp, .inl ⟨rfl, ev, by simp [hev], hk⟩⟩⟩

theorem sendsOnce_apiGetpeerinfo : SendsOnce "api_getpeerinfo" apiGetpeerinfo := by
  intro es r h hs
  obtain ⟨hr, h1 | ⟨h0, e, he⟩⟩ := framed_peerInfoReply.swallow h hs
  · simp [h1, hr]
  · exact ⟨by omega, fun _ => h0, fun _ => .inr ⟨h0, .inr ⟨rfl, peerInfoReply_raised he hs⟩⟩⟩

/-! ## Every command -/

/-- The parameters each command takes from the session, in order. -/
def paramCount : String → Nat
  | "api_getaddressinfo" | "api_getblockfromhash" | "api_getblockfromhashextra"
  | "api_getblockfromheight" | "api_getblocksince" => 1
  | "api_getblockrange" | "api_getblockswhereoflike" | "api_getblocksafterwhere"
  | "api_getbalance" | "api_getreceived" => 2
  | "api_getaddressrange" | "api_getaddresssince" | "api_listreceived" | "api_listbalance" => 3
  | _ => 0

/-- The checks each command makes on a parameter before it reads the next one, parameter by
parameter: int(since_height) in api_getblockswhereoflike, int() of both heights in
api_getaddresssince, `minconf < 1` in api_listreceived and api_listbalance. The other commands
read all their parameters before they convert any. -/
def earlyChecks : String → List (Json → Bool)
  | "api_getblockswhereoflike" => [convertsInt]
  | "api_getaddresssince" => [convertsInt, convertsInt]
  | "api_listreceived" | "api_listbalance" => [unchecked, comparesMinconf]
  | _ => []

/-- A name the table does not hold takes no parameters. -/
theorem paramCount_eq_zero {name : String} (h : (handlers config codec).lookup name = none) :
    paramCount name = 0 := by
  unfold paramCount
  split <;> first | rfl | exact absurd h (Option.ne_none_iff_isSome.2 rfl)

theorem handlers_reads :
    ∀ p ∈ handlers config codec, p.2.Reads (paramCount p.1) (passes (earlyChecks p.1)) := by
  rw [handlers]
  repeat rw [List.forall_mem_cons]
  exact ⟨framed_apiMempool.reads, (framed_apiGetconfig config).reads, framed_apiClearmempool.reads,
    (framed_send _).reads, reads_apiGetaddressinfo,
    (framed_sendBlocksOf fun _ => Only.perform (by rfl)).reads,
    framed_apiGetblockfromhashextra.reads,
    (framed_sendBlocksOf fun _ => Only.perform (by rfl)).reads,
    framed_apiGetaddressrange.reads, (framed_apiGetblockrange codec).reads,
    (framed_apiGetblocksince config codec).reads, (framed_apiGetblockswhereoflike config codec).reads,
    framed_apiGetblocksafterwhere.reads, (framed_apiGetaddresssince config codec).reads,
    (framed_totalOver config quiet_getBalance).reads, (framed_totalOver config quiet_getReceived).reads,
    (framed_listOver config quiet_getReceived).reads, (framed_apiListbalance config).reads,
    (framed_throw _).reads, (framed_throw _).reads, reads_apiGetpeerinfo, (framed_throw _).reads,
    fun _ h => absurd h (List.not_mem_nil _)⟩

theorem handlers_sendsOnce : ∀ p ∈ handlers config codec, SendsOnce p.1 p.2 := by
  rw [handlers]
  repeat rw [List.forall_mem_cons]
  exact ⟨framed_apiMempool.sendsOnce _, (framed_apiGetconfig config).sendsOnce _,
    framed_apiClearmempool.sendsOnce _, (@framed_send (passes []) _).sendsOnce _,
    sendsOnce_apiGetaddressinfo, (framed_sendBlocksOf fun _ => Only.perform (by rfl)).sendsOnce _,
    framed_apiGetblockfromhashextra.sendsOnce _,
    (framed_sendBlocksOf fun _ => Only.perform (by rfl)).sendsOnce _,
    framed_apiGetaddressrange.sendsOnce _, (framed_apiGetblockrange codec).sendsOnce _,
    (framed_apiGetblocksince config codec).sendsOnce _,
    (framed_apiGetblockswhereoflike config codec).sendsOnce _,
    framed_apiGetblocksafterwhere.sendsOnce _, (framed_apiGetaddresssince config codec).sendsOnce _,
    (framed_totalOver config quiet_getBalance).sendsOnce _,
    (framed_totalOver config quiet_getReceived).sendsOnce _,
    (framed_listOver config quiet_getReceived).sendsOnce _, (framed_apiListbalance config).sendsOnce _,
    (@framed_throw Unit (passes []) _).sendsOnce _, (@framed_throw Unit (passes []) _).sendsOnce _,
    sendsOnce_apiGetpeerinfo, (@framed_throw Unit (passes []) _).sendsOnce _,
    fun _ h => absurd h (List.not_mem_nil _)⟩

/-- A path of a call by name is a path of the handler the name finds, its result dropped, or
the name finds none and the call raises AttributeError. -/
theorem callMethod_path {name : String} {es r} (h : (callMethod config codec name).Path es r) :
    (handlers config codec).lookup name = none ∧ es = [] ∧ r = .error .attributeError ∨
      ∃ p ∈ handlers config codec, p.1 = name ∧
        ∃ r', p.2.Path es r' ∧ r = (fun _ => none) <$> r' := by
  unfold callMethod at h
  split at h
  · rename_i call hl
    obtain ⟨l₁, l₂, hl, -⟩ := List.lookup_eq_some_iff.1 hl
    have hmem : (name, call) ∈ handlers config codec := by simp [hl]
    rcases Path.bind_inv h with ⟨e, he, rfl⟩ | ⟨a, es₁, es₂, h₁, h₂, rfl⟩
    · exact .inr ⟨_, hmem, rfl, _, he, rfl⟩
    · obtain ⟨rfl, rfl⟩ := Path.pure_inv h₂
      exact .inr ⟨_, hmem, rfl, _, by simpa using h₁, rfl⟩
  · rename_i hl
    exact .inl ⟨hl, Path.raise_inv h⟩

/-- Every path of a dispatch is a path of the handler its name finds, or calls nothing for a
name without parameters; the dispatch returns None when the handler returned and False when it
raised. -/
theorem dispatch_path {name : String} {es r} (h : (dispatch config codec name).Path es r) :
    es = [] ∧ r = .ok (some false) ∧ paramCount name = 0 ∨ ∃ p ∈ handlers config codec,
      p.1 = name ∧ ∃ r', p.2.Path es r' ∧ r = .ok (if r'.isOk then none else some false) := by
  rcases Path.tryCatch_inv h with ⟨a, ha, rfl⟩ | ⟨e, es₁, es₂, h₁, h₂, rfl⟩
  · rcases callMethod_path config codec ha with ⟨-, -, h⟩ | ⟨p, hp, hn, r', h', he⟩
    · cases h
    · cases r' with
      | error => cases he
      | ok => cases he; exact .inr ⟨p, hp, hn, _, h', rfl⟩
  · obtain ⟨rfl, rfl⟩ := Path.pure_inv h₂
    rcases callMethod_path config codec h₁ with ⟨hl, rfl, -⟩ | ⟨p, hp, hn, r', h', he⟩
    · exact .inl ⟨rfl, rfl, paramCount_eq_zero config codec hl⟩
    · cases r' with
      | ok => cases he
      | error e' => exact .inr ⟨p, hp, hn, .error e', by simpa using h', rfl⟩

theorem dispatch_sends_once :
    (∀ p ∈ handlers config codec, SendsOnce p.1 p.2) ∧
    ∀ name es r, (dispatch config codec name).Path es r → Answered Call.isSend es →
      sends es ≤ 1 := by
  refine ⟨handlers_sendsOnce config codec, fun name es r h hs => ?_⟩
  rcases dispatch_path config codec h with ⟨rfl, -⟩ | ⟨p, hp, rfl, r', h', -⟩
  · simp
  · exact (handlers_sendsOnce config codec p hp es r' h' hs).1

theorem getaddressinfo_returns_silent : ¬ ∀ (config : Config) (codec : Codec),
    ∀ p ∈ handlers config codec, ∀ es r, p.2.Path es r → Answered Call.isSend es →
      r.isOk → sends es = 1 := by
  intro h
  have := h ⟨true, []⟩ Codec.reference ("api_getaddressinfo", apiGetaddressinfo)
    (by simp [handlers]) [⟨.receive, .ok .null⟩, ⟨.addressIsValid .null, .error .typeError⟩]
    (.ok ()) (.call _ (.call _ (.pure _))) (fun e he hs => by
      simp at he; rcases he with rfl | rfl <;> cases hs) rfl
  simp [Call.isSend] at this

/-! ## Runs of the dispatcher -/

/-- What a path of a dispatch does when its sends went through: it returns, sends at most once,
and reads the command's parameters, or fewer, failing the command's checks, when it returns
False. -/
theorem dispatch_path_framed {name : String} {es r} (h : (dispatch config codec name).Path es r)
    (hs : Answered Call.isSend es) :
    r.isOk ∧ sends es ≤ 1 ∧ (Answered Call.isReceive es →
      reads es = paramCount name ∨ reads es < paramCount name ∧
        passes (earlyChecks name) (es.filterMap Event.input?) = false ∧ r = .ok (some false)) := by
  rcases dispatch_path config codec h with ⟨rfl, rfl, h0⟩ | ⟨p, hp, rfl, r', h', rfl⟩
  · exact ⟨rfl, by simp, fun _ => .inl h0.symm⟩
  · refine ⟨rfl, (handlers_sendsOnce config codec p hp es r' h' hs).1, fun ha => ?_⟩
    rcases handlers_reads config codec p hp es r' h' ha with heq | ⟨hlt, hc, e, rfl, -⟩
    exacts [.inl heq, .inr ⟨hlt, hc, rfl⟩]

/-- **Every run of a dispatch is framed.** Whatever the world answers and whatever the session
holds, the dispatch returns and sends at most one value. It takes from the session as many
values as the command has parameters, or fewer when the values it took fail the command's checks
and it returned False, or it used the session up. -/
theorem dispatch_run_framed (w : World) (name : String) (s : Session) :
    let run := (dispatch config codec name).run w s
    run.1.isOk ∧ (run.2.sent = s.sent ∨ ∃ v, run.2.sent = s.sent ++ [v]) ∧
      ∃ consumed, s.inputs = consumed ++ run.2.inputs ∧
        (consumed.length = paramCount name ∨
          consumed.length < paramCount name ∧ passes (earlyChecks name) consumed = false ∧
            run.1 = .ok (some false) ∨ run.2.inputs = []) := by
  obtain ⟨es, hp, hi, ho, hs, hr⟩ := (dispatch config codec name).run_path w s
  obtain ⟨hok, hsends, hreads⟩ := dispatch_path_framed config codec hp hs
  have hout := (length_outputs es).trans_le hsends
  refine ⟨hok, ?_, _, hi, ?_⟩
  · rw [ho]
    exact (Nat.le_one_iff_eq_zero_or_eq_one.1 hout).imp
      (fun h => by rw [List.length_eq_zero.1 h, List.append_nil])
      (fun h => (List.length_eq_one.1 h).imp fun v hv => by rw [hv])
  · rcases hr with ha | hu
    · rw [length_inputs ha]
      exact (hreads ha).imp_right .inl
    · exact .inr (.inr hu)

/-! ## Unknown, disabled and rejected requests -/

/-- **An unknown command leaves the session usable.** A dispatch of a name no handler has returns
False and leaves the session as it was, so whatever runs next runs as if the name had not been
sent. -/
theorem dispatch_unknown_untouched {α : Type} {name : String}
    (hname : name ∉ (handlers config codec).map Prod.fst) (w : World) (s : Session) (x : Api α) :
    (dispatch config codec name).run w s = (.ok (some false), s) ∧
      (dispatch config codec name >>= fun _ => x).run w s = x.run w s := by
  have hl : (handlers config codec).lookup name = none := List.lookup_eq_none_iff.2 fun p hp =>
    bne_iff_ne.2 fun he => hname (he ▸ List.mem_map_of_mem Prod.fst hp)
  have h : (dispatch config codec name).run w s = (.ok (some false), s) := by
    simp only [dispatch, callMethod, hl]
    rfl
  exact ⟨h, by rw [Api.run_bind, h]⟩

/-- **The disabled commands fail for every input and reach no collaborator.** A dispatch of
api_getblocksafterwhere or of a transaction lookup returns False, sends nothing and makes no call
but the reads of its parameters, whatever the world answers. -/
theorem disabled_reach_nothing (w : World) (s : Session) :
    ∀ name ∈ ["api_getblocksafterwhere", "api_gettransaction", "api_gettransactionbysignature",
      "api_gettransaction_for_recipients"],
      (dispatch config codec name).run w s =
        (.ok (some false), { s with inputs := s.inputs.drop (paramCount name) }) := by
  simp only [List.mem_cons, List.mem_singleton, List.not_mem_nil, or_false, forall_eq_or_imp,
    forall_eq]
  rcases s with ⟨_ | ⟨v, _ | ⟨v', vs⟩⟩, sent, t⟩ <;> exact ⟨rfl, rfl, rfl, rfl⟩

/-- **A rejected address never reaches the store.** When the validator rejects the address,
api_getaddressinfo sends known False with an empty pubkey after that one call. -/
theorem getaddressinfo_rejected (w : World) (address : Json) (vs sent : List Json) (t : Nat)
    (h : w.backend t (.addressIsValid address) = .ok false) :
    (dispatch config codec "api_getaddressinfo").run w ⟨address :: vs, sent, t⟩ =
      (.ok none, ⟨vs, sent ++ [addressInfo (.bool false) (.str "")], t + 1⟩) := by
  have hl : (handlers config codec).lookup "api_getaddressinfo" = some apiGetaddressinfo := rfl
  simp only [dispatch, callMethod, hl, apiGetaddressinfo, addressInfoReply, tryCatch_eq]
  rw [run_tryCatch, run_bind, run_receive_bind, run_tryCatch,
    run_perform_bind_world (.addressIsValid address) _ _ ⟨rfl, rfl⟩]
  simp [World.answer, h]

/-! ## Only api_clearmempool clears the mempool

The store has no write among the calls of apihandler.py, and the mempool one: its `clear()`.
Each handler is walked with the combinators of `Api.Only`, one term per handler. -/

/-- The calls that leave the mempool as it is: all but mp.MEMPOOL.clear(). -/
def Call.keepsMempool : Call → Bool
  | .mempoolClear => false
  | _ => true

theorem keeps_storedInfo (address : Json) : (storedInfo address).Only Call.keepsMempool :=
  Only.tryCatch (Only.bind (Only.perform rfl) fun _ =>
    Only.tryCatch (Only.bind (Only.perform rfl) fun _ => trivial) fun _ => trivial) fun _ => trivial

theorem keeps_getBalance (address minconf : Json) :
    (getBalance address minconf).Only Call.keepsMempool :=
  Only.bind (Only.perform rfl) fun _ => Only.bind (Only.lift _) fun _ =>
    Only.bind (Only.perform rfl) fun _ => Only.bind (Only.perform rfl) fun _ => trivial

theorem keeps_getReceived (address minconf : Json) :
    (getReceived address minconf).Only Call.keepsMempool :=
  Only.bind (Only.perform rfl) fun _ => Only.bind (Only.lift _) fun _ =>
    Only.bind (Only.perform rfl) fun _ => trivial

theorem keeps_totalOver {amountOf : Json → Json → Api ℚ}
    (h : ∀ a m, (amountOf a m).Only Call.keepsMempool) :
    (totalOver config amountOf).Only Call.keepsMempool :=
  Only.bind (Only.perform rfl) fun _ => Only.bind (Only.perform rfl) fun _ => Only.bind (Only.lift _) fun _ => Only.bind (Only.lift _) fun _ =>
    Only.bind (Only.foldlM (fun _ _ => Only.bind (h _ _) fun _ => by trivial) _ _) fun _ =>
    Only.perform rfl

theorem keeps_listOver {amountOf : Json → Json → Api ℚ}
    (h : ∀ a m, (amountOf a m).Only Call.keepsMempool) :
    (listOver config amountOf).Only Call.keepsMempool :=
  Only.bind (Only.perform rfl) fun _ => Only.bind (Only.perform rfl) fun _ => Only.bind (Only.lift _) fun _ => Only.bind (Only.perform rfl) fun _ => Only.bind (Only.lift _) fun _ =>
    Only.bind (Only.foldlM (fun _ _ => Only.bind (h _ _) fun _ => Only.ite (Only.lift _) (by trivial))
      _ _) fun _ => Only.perform rfl

/-- Every command of the table but api_clearmempool, on every path, leaves the mempool as it
is. -/
theorem handlers_keep_mempool : ∀ p ∈ handlers config codec, p.1 ≠ "api_clearmempool" →
    p.2.Only Call.keepsMempool := by
  rw [handlers]
  repeat rw [List.forall_mem_cons]
  refine ⟨fun _ => ?mempool, fun _ => Only.bind (Only.lift _) fun _ => Only.perform rfl, fun h => absurd rfl h,
    fun _ => Only.perform rfl, fun _ => ?addressinfo, fun _ => Only.bind (Only.perform rfl) fun _ => Only.bind (Only.perform rfl) fun _ => Only.perform rfl,
    fun _ => ?extra, fun _ => Only.bind (Only.perform rfl) fun _ => Only.bind (Only.perform rfl) fun _ => Only.perform rfl, fun _ => ?range, fun _ => ?blockrange, fun _ => ?since, fun _ => ?like,
    fun _ => Only.bind (Only.perform rfl) fun _ => Only.bind (Only.perform rfl) fun _ => trivial, fun _ => ?addresssince,
    fun _ => keeps_totalOver config keeps_getBalance,
    fun _ => keeps_totalOver config keeps_getReceived,
    fun _ => keeps_listOver config keeps_getReceived,
    fun _ => apiListbalance_eq_listOver config ▸ keeps_listOver config keeps_getBalance,
    fun _ => trivial, fun _ => trivial, fun _ => ?peerinfo, fun _ => trivial,
    fun _ h => absurd h (List.not_mem_nil _)⟩
  case mempool => exact Only.bind (Only.perform rfl) fun _ => Only.ite (Only.perform rfl) (Only.bind (Only.perform rfl) fun _ => Only.perform rfl)
  case addressinfo =>
    exact Only.bind (Only.perform rfl) fun a => Only.tryCatch (Only.bind (Only.perform rfl) fun _ =>
      Only.ite (Only.perform rfl) (Only.bind (keeps_storedInfo a) fun _ => Only.perform rfl))
      fun _ => trivial
  case extra =>
    unfold apiGetblockfromhashextra
    exact Only.bind (Only.perform rfl) fun _ => Only.bind (Only.perform rfl) fun _ => Only.bind (Only.lift _) fun _ => Only.bind (Only.lift _) fun _ => Only.bind (Only.lift _) fun _ => Only.bind (Only.lift _) fun _ => Only.bind (Only.perform rfl) fun _ => Only.bind (Only.lift _) fun _ =>
      Only.bind (Only.perform rfl) fun _ => Only.bind (Only.perform rfl) fun _ => Only.bind (Only.lift _) fun _ => Only.perform rfl
  case range => exact Only.bind (Only.perform rfl) fun _ => Only.bind (Only.perform rfl) fun _ => Only.bind (Only.perform rfl) fun _ => Only.bind (Only.lift _) fun _ => Only.bind (Only.perform rfl) fun _ => Only.perform rfl
  case blockrange =>
    unfold apiGetblockrange
    exact Only.bind (Only.perform rfl) fun _ => Only.bind (Only.perform rfl) fun _ => Only.bind (Only.lift _) fun _ => Only.bind (Only.lift _) fun _ => Only.bind (Only.lift _) fun _ => Only.bind (Only.perform rfl) fun _ => Only.bind (Only.perform rfl) fun _ => Only.bind (Only.lift _) fun _ =>
      Only.perform rfl
  case since =>
    unfold apiGetblocksince
    exact Only.bind (Only.perform rfl) fun _ => Only.bind (Only.perform rfl) fun _ => Only.bind (Only.lift _) fun _ => Only.bind (Only.perform rfl) fun _ => Only.perform rfl
  case like =>
    unfold apiGetblockswhereoflike
    exact Only.bind (Only.perform rfl) fun _ => Only.bind (Only.lift _) fun _ => Only.bind (Only.perform rfl) fun _ => Only.bind (Only.lift _) fun _ => Only.bind (Only.perform rfl) fun _ => Only.bind (Only.lift _) fun _ => Only.bind (Only.perform rfl) fun _ =>
      Only.perform rfl
  case addresssince =>
    unfold apiGetaddresssince
    exact Only.bind (Only.perform rfl) fun _ => Only.bind (Only.lift _) fun _ => Only.bind (Only.perform rfl) fun _ => Only.bind (Only.lift _) fun _ => Only.bind (Only.perform rfl) fun _ => Only.bind (Only.perform rfl) fun _ => Only.bind (Only.lift _) fun _ =>
      Only.bind (Only.perform rfl) fun _ => Only.perform rfl
  case peerinfo => exact Only.tryCatch (Only.bind (Only.perform rfl) fun _ => Only.perform rfl) fun _ => trivial

/-- **Only api_clearmempool clears the mempool.** Dispatching any other name, whatever the
session holds and the collaborators answer, never calls mp.MEMPOOL.clear() on any path: a name
outside the table makes no call, and every other command only reads. -/
theorem dispatch_keeps_mempool {name : String} (hname : name ≠ "api_clearmempool") :
    (dispatch config codec name).Only Call.keepsMempool := by
  unfold dispatch callMethod
  refine Only.tryCatch ?_ fun _ => trivial
  split
  · rename_i call hl
    obtain ⟨l₁, l₂, hl, -⟩ := List.lookup_eq_some_iff.1 hl
    have hmem : (name, call) ∈ handlers config codec := by simp [hl]
    exact Only.bind (handlers_keep_mempool config codec _ hmem hname) fun _ => trivial
  · trivial

end Handlers

end BismuthApi
