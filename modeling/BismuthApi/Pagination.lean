import BismuthApi.Aggregates
import BismuthApi.Windows

/-!
# Paging through the address and openfield queries

A client pages through api_getaddresssince by passing back the `last` field of each reply, and
through api_getblockswhereoflike by passing back the `[block_height]` each reply ends with. A
window ends at least `minconf` below the tip its poll read, and the node appends only above its
tip, so no row can later join a window already sent. The windows of successive polls are
adjacent, so together they deliver every selected row of their union once, provided the first
cursor does not pass the tip less `minconf` and `minconf` is not negative: otherwise a cursor
can move backward and a later poll deliver rows again.
-/

namespace BismuthApi

/-! ## The client's loop -/

/-- A client paging through a handler, as the spec describes one. It polls at each moment of `ts`
in turn, from the cursor `since`, and passes the cursor `next` reads from each reply to the next
poll; it stops at the first poll that sends nothing. It returns the replies. -/
def pollRun (poll : Json → Nat → List Json) (next : Json → Json) : Json → List Nat → List Json
  | _, [] => []
  | since, t :: ts =>
    match poll since t with
    | [reply] => reply :: pollRun poll next (next reply) ts
    | _ => []

/-- The spec's promises of cursor pagination for the replies of a paged run from
cursor `s` whose polls start at the moments `ts`. Each reply is `reply s b`, the window of heights
above its cursor `s` up to `b`, which is the next cursor; a window spans at most `span` heights
and ends at least `c` below the tip its poll read, so each row sent has `c` confirmations. -/
inductive Paged (tip : Nat → Option Int) (span c : Int) (reply : Int → Int → Json) :
    Int → List Nat → List Json → Int → Prop
  | done (s : Int) : Paged tip span c reply s [] [] s
  | poll {s b M : Int} {t : Nat} {ts : List Nat} {replies : List Json} {last : Int}
      (hM : tip t = some M) (hs : s ≤ b) (hspan : b ≤ s + span) (hconf : b ≤ M - c) :
      Paged tip span c reply b ts replies last →
      Paged tip span c reply s (t :: ts) (reply s b :: replies) last

section Run
variable (poll : Json → Nat → List Json) (next : Json → Json) (reply : Int → Int → Json)
  (bound : Int → Int → Int) (span c : Int) {tip : Nat → Option Int} {T : Nat}

/-- A client loop whose polls answer, for every cursor at most `c` below the tip, with the
window up to `bound`, makes a paged run. -/
theorem pollRun_paged
    (htip : ∀ t t' M, t ≤ t' → tip t = some M → ∃ M', tip t' = some M' ∧ M ≤ M')
    (hbound : ∀ M s, s ≤ M - c → s ≤ bound M s ∧ bound M s ≤ s + span ∧ bound M s ≤ M - c)
    (hstep : ∀ s t M, t ≤ T → tip t = some M → s ≤ M - c →
      poll (.num s) t = [reply s (bound M s)] ∧ next (reply s (bound M s)) = .num (bound M s))
    (ts : List Nat) : ∀ t₀ s M, (t₀ :: ts).Chain' (· ≤ ·) → (∀ t ∈ t₀ :: ts, t ≤ T) →
      tip t₀ = some M → s ≤ M - c →
      ∃ last, Paged tip span c reply s (t₀ :: ts) (pollRun poll next (.num s) (t₀ :: ts)) last := by
  induction ts with
  | nil =>
    intro t₀ s M _ hT hM hs
    obtain ⟨hp, -⟩ := hstep s t₀ M (hT t₀ (List.mem_singleton_self _)) hM hs
    obtain ⟨h₁, h₂, h₃⟩ := hbound M s hs
    exact ⟨_, by simpa [pollRun, hp] using Paged.poll hM h₁ h₂ h₃ (.done _)⟩
  | cons t₁ ts ih =>
    intro t₀ s M hts hT hM hs
    obtain ⟨hp, hn⟩ := hstep s t₀ M (hT t₀ (List.mem_cons_self _ _)) hM hs
    obtain ⟨h₁, h₂, h₃⟩ := hbound M s hs
    obtain ⟨h01, hts'⟩ := List.chain'_cons.1 hts
    obtain ⟨M₁, hM₁, hMM⟩ := htip t₀ t₁ M h01 hM
    obtain ⟨last, hlast⟩ := ih t₁ (bound M s) M₁ hts' (fun t ht => hT t (List.mem_cons_of_mem _ ht))
      hM₁ (by omega)
    refine ⟨last, ?_⟩
    rw [pollRun, hp]
    dsimp only
    rw [hn]
    exact Paged.poll hM h₁ h₂ h₃ hlast

end Run


/-! ## Adjacent windows -/

/-- The rows of two adjacent windows are the rows of their union. -/
theorem filter_window_append (l : List Row) (P : Row → Prop) [DecidablePred P] {s b e : ℚ}
    (h₁ : s ≤ b) (h₂ : b ≤ e) :
    (l.filter (fun r => r.Within s b ∧ P r) ++ l.filter (fun r => r.Within b e ∧ P r)).Perm
      (l.filter (fun r => r.Within s e ∧ P r)) := by
  have h := List.filter_append_perm (fun r => decide (r.Within s b)) (l.filter fun r => r.Within s e ∧ P r)
  rw [List.filter_filter, List.filter_filter] at h
  convert h using 2 <;> refine List.filter_congr fun r _ => Bool.eq_iff_iff.2 ?_ <;>
    simp only [Row.Within, Bool.and_eq_true, Bool.not_eq_true', decide_eq_true_eq,
      decide_eq_false_iff_not, not_and, not_le]
  · exact ⟨fun ⟨⟨h₃, h₄⟩, hp⟩ => ⟨⟨h₃, h₄⟩, ⟨h₃, h₄.trans h₂⟩, hp⟩, fun ⟨hw, _, hp⟩ => ⟨hw, hp⟩⟩
  · exact ⟨fun ⟨⟨h₃, h₄⟩, hp⟩ => ⟨fun _ => h₃, ⟨h₁.trans_lt h₃, h₄⟩, hp⟩,
      fun ⟨hn, ⟨h₃, h₄⟩, hp⟩ => ⟨⟨hn h₃, h₄⟩, hp⟩⟩


theorem Config.sentRows_append (config : Config) (codec : Codec) (x y : List Row) :
    config.sentRows codec (x ++ y) = config.sentRows codec x ++ config.sentRows codec y := by
  unfold Config.sentRows
  split <;> simp

theorem Config.sentRows_perm (config : Config) (codec : Codec) {x y : List Row} (h : x.Perm y) :
    (config.sentRows codec x).Perm (config.sentRows codec y) := by
  unfold Config.sentRows
  split
  · exact h.map _
  · exact h

section Delivers
variable {tip : Nat → Option Int} {span c : Int} {reply : Int → Int → Json}

theorem Paged.le {s last : Int} {ts : List Nat} {replies : List Json}
    (hp : Paged tip span c reply s ts replies last) : s ≤ last := by
  induction hp with
  | done => exact le_rfl
  | poll _ hs _ _ _ ih => exact hs.trans ih

/-- **Exactly once.** The replies of a paged run deliver together the selected rows of the
heights above the first cursor up to the last, each once. -/
theorem Paged.delivers (config : Config) (codec : Codec) {delivered : Json → List Json}
    (l : List Row) (P : Row → Prop) [DecidablePred P]
    (hdel : ∀ s b : Int, s ≤ b → (delivered (reply s b)).Perm
      ((config.sentRows codec (l.filter fun r => r.Within s b ∧ P r)).map Row.toJson))
    {s last : Int} {ts : List Nat} {replies : List Json}
    (hp : Paged tip span c reply s ts replies last) :
    ((replies.map delivered).flatten).Perm
      ((config.sentRows codec (l.filter fun r => r.Within s last ∧ P r)).map Row.toJson) := by
  induction hp with
  | done s =>
    have : l.filter (fun r => r.Within s s ∧ P r) = [] :=
      List.filter_eq_nil_iff.2 fun r _ h => by
        have := of_decide_eq_true h
        exact absurd (this.1.1.trans_le this.1.2) (lt_irrefl _)
    rw [this]
    unfold Config.sentRows
    split <;> rfl
  | poll _ hs _ _ hrest ih =>
    rw [List.map_cons, List.flatten_cons]
    refine ((hdel _ _ hs).append ih).trans ?_
    rw [← List.map_append, ← Config.sentRows_append]
    exact (config.sentRows_perm codec (filter_window_append l P (by exact_mod_cast hs)
      (by exact_mod_cast hrest.le))).map _

end Delivers


/-! ## Growing stores -/

section Growing
variable {w : World}

theorem tip_mono (hw : ∀ t, (w.ledger t).Extends (w.ledger (t + 1))) (t t' : Nat) (M : Int)
    (h : t ≤ t') (hM : (w.ledger t).blockHeightMax = some M) :
    ∃ M', (w.ledger t').blockHeightMax = some M' ∧ M ≤ M' := by
  obtain ⟨j, rfl⟩ := Nat.exists_eq_add_of_le h
  exact (Ledger.Extends.of_chain hw t j).tip_le hM

/-- A window that ends at or below the tip selects the same rows from every later snapshot. -/
theorem addressSince_extends {l l' : Ledger} (h : l.Extends l') {M : Int}
    (hM : l.blockHeightMax = some M) {s b : ℚ} (hb : b ≤ M) (a : String) :
    (Select.addressSince s b a).rows l' = (Select.addressSince s b a).rows l := by
  simp only [Select.rows]
  rw [Ledger.filter_extends h hM _ fun r hr => by
    have : (r.blockHeight : ℚ) ≤ M := (of_decide_eq_true hr).1.2.trans hb
    exact_mod_cast this]

theorem openfieldLike_extends {l l' : Ledger} (h : l.Extends l') {M : Int}
    (hM : l.blockHeightMax = some M) {s b : ℚ} (hb : b ≤ M) (p : String) :
    (Select.openfieldLike s b p).rows l' = (Select.openfieldLike s b p).rows l := by
  simp only [Select.rows]
  exact Ledger.filter_extends h hM _ fun r hr => by
    have : (r.blockHeight : ℚ) ≤ M := (of_decide_eq_true hr).1.2.trans hb
    exact_mod_cast this

end Growing

theorem pyInt_intCast (n : Int) : pyInt (.num n) = .ok n := by
  simp [pyInt]

/-! ## api_getaddresssince -/

/-- The cursor a client reads from a reply of api_getaddresssince, as the spec describes it. -/
def addressCursor (reply : Json) : Json := (reply.field? "last").getD .null

/-- The transactions a reply of api_getaddresssince delivers. -/
def addressTransactions (reply : Json) : List Json :=
  match reply.field? "transactions" with
  | some (.arr vs) => vs
  | _ => []

/-- The replies a client paging through an address's transactions with `min_confirmations` `c`
receives. -/
def addressPolls (config : Config) (codec : Codec) (w : World) (c : Int) (address : String)
    (since : Int) (ts : List Nat) : List Json :=
  pollRun (fun since t => ((apiGetaddresssince config codec).run w
    ⟨[since, .num c, .str address], [], t⟩).2.sent) addressCursor (.num since) ts

/-- The reply for the window `(s, b]` of the store `l`. -/
def addressReply (config : Config) (codec : Codec) (c : Int) (address : String) (l : Ledger)
    (s b : Int) : Json :=
  addressSinceReply b c (config.sentRows codec ((Select.addressSince s b address).rows l))

theorem addressCursor_reply (config : Config) (codec : Codec) (c : Int) (a : String) (l : Ledger)
    (s b : Int) : addressCursor (addressReply config codec c a l s b) = .num b :=
  rfl

theorem addressBound_some (M c s : Int) :
    addressBound (some M) c s = .ok ((min (M - c) (s + 720) : Int) : ℚ) := by
  simp [addressBound, pySub, heightValue]

/-- Every poll with a numeric cursor, once the store has a tip `M`, answers with the window up
to `min(M - c, s + 720)`, as every store from then on holds it. -/
theorem addressPoll_step (config : Config) (codec : Codec) {w : World}
    (hw : ∀ t, (w.ledger t).Extends (w.ledger (t + 1))) {c : Int} (hc : 0 ≤ c) (a : String)
    (s : Int) {M : Int} {t T : Nat} (htT : t ≤ T) (hM : (w.ledger t).blockHeightMax = some M) :
    ((apiGetaddresssince config codec).run w ⟨[.num s, .num c, .str a], [], t⟩).2.sent =
      [addressReply config codec c a (w.ledger T) s (min (M - c) (s + 720))] := by
  rw [run_apiGetaddresssince, pyInt_intCast, pyInt_intCast]
  dsimp only
  rw [hM, addressBound_some]
  have hb : ((min (M - c) (s + 720) : Int) : ℚ) ≤ M := by exact_mod_cast (by omega)
  obtain ⟨j, rfl⟩ := Nat.exists_eq_add_of_le htT
  simp only [addressReply, pyStr, addressSince_extends (hw t) hM hb,
    addressSince_extends (Ledger.Extends.of_chain hw t j) hM hb, List.nil_append]


theorem addressTransactions_reply (config : Config) (codec : Codec) (c : Int) (a : String)
    (l : Ledger) (s b : Int) :
    (addressTransactions (addressReply config codec c a l s b)).Perm
      ((config.sentRows codec (l.transactions.filter fun r => r.Within s b ∧ r.Involves a)).map
        Row.toJson) :=
  (config.sentRows_perm codec (List.perm_insertionSort _ _)).map _

/-- What the spec's cursor pagination promises a client paging through an address's
transactions from cursor `s₀`. The replies form a paged run and deliver the address's
transactions of the heights above `s₀` up to the last cursor once each, as the store holds them
at moment `T`. -/
def AddressPaging (config : Config) (codec : Codec) (w : World) (c : Int) (a : String)
    (s₀ : Int) (ts : List Nat) (T : Nat) : Prop :=
  ∃ last, Paged (fun t => (w.ledger t).blockHeightMax) 720 c
      (addressReply config codec c a (w.ledger T)) s₀ ts (addressPolls config codec w c a s₀ ts)
      last ∧
    (((addressPolls config codec w c a s₀ ts).map addressTransactions).flatten).Perm
      ((config.sentRows codec ((w.ledger T).transactions.filter fun r =>
        r.Within s₀ last ∧ r.Involves a)).map Row.toJson)

theorem addressPolls_paging (config : Config) (codec : Codec) {w : World}
    (hw : ∀ t, (w.ledger t).Extends (w.ledger (t + 1))) {c : Int} (hc : 0 ≤ c) (a : String)
    {t₀ : Nat} {ts : List Nat} (hts : (t₀ :: ts).Chain' (· ≤ ·)) {T : Nat}
    (hT : ∀ t ∈ t₀ :: ts, t ≤ T) {s₀ M₀ : Int} (hM₀ : (w.ledger t₀).blockHeightMax = some M₀)
    (hs₀ : s₀ ≤ M₀ - c) : AddressPaging config codec w c a s₀ (t₀ :: ts) T := by
  obtain ⟨last, hp⟩ := pollRun_paged (fun since t => ((apiGetaddresssince config codec).run w
      ⟨[since, .num c, .str a], [], t⟩).2.sent) addressCursor
    (addressReply config codec c a (w.ledger T)) (fun M s => min (M - c) (s + 720)) 720 c
    (tip_mono hw) (fun M s hs => by dsimp only; omega)
    (fun s t M htT hM _ => ⟨addressPoll_step config codec hw hc a s htT hM, rfl⟩) ts t₀ s₀ M₀ hts hT
    hM₀ hs₀
  exact ⟨last, hp, hp.delivers config codec _ _ fun s b _ =>
    addressTransactions_reply config codec c a _ s b⟩


/-! ## api_getblockswhereoflike -/

/-- The cursor a client reads from a reply of api_getblockswhereoflike, as the spec describes it:
the `[block_height]` it ends with. -/
def likeCursor : Json → Json
  | .arr vs =>
    match vs.getLast? with
    | some (.arr [b]) => b
    | _ => .null
  | _ => .null

/-- The transactions a reply of api_getblockswhereoflike delivers. -/
def likeTransactions : Json → List Json
  | .arr vs => vs.dropLast
  | _ => []

/-- The replies a client paging through the openfields that begin with `pattern` receives. -/
def likePolls (config : Config) (codec : Codec) (w : World) (pattern : String) (since : Int)
    (ts : List Nat) : List Json :=
  pollRun (fun since t => ((apiGetblockswhereoflike config codec).run w
    ⟨[since, .str pattern], [], t⟩).2.sent) likeCursor (.num since) ts

/-- The reply for the window `(s, b]` of the store `l`. -/
def likeReply (config : Config) (codec : Codec) (pattern : String) (l : Ledger) (s b : Int) :
    Json :=
  .arr ((config.sentRows codec ((Select.openfieldLike s b (pattern ++ "%")).rows l)).map
    Row.toJson ++ [.arr [.num b]])

theorem likeBound_some (M s : Int) :
    likeBound (some M) s = .ok ((min M (s + 1440) : Int) : ℚ) := by
  simp [likeBound, heightValue]

theorem likePoll_step (config : Config) (codec : Codec) {w : World}
    (hw : ∀ t, (w.ledger t).Extends (w.ledger (t + 1))) (pattern : String) {s M : Int}
    {t T : Nat} (htT : t ≤ T) (hM : (w.ledger t).blockHeightMax = some M) :
    ((apiGetblockswhereoflike config codec).run w ⟨[.num s, .str pattern], [], t⟩).2.sent =
      [likeReply config codec pattern (w.ledger T) s (min M (s + 1440))] := by
  rw [run_apiGetblockswhereoflike, pyInt_intCast]
  dsimp only [pyConcat]
  rw [hM, likeBound_some]
  have hb : ((min M (s + 1440) : Int) : ℚ) ≤ M := by exact_mod_cast (by omega)
  obtain ⟨j, rfl⟩ := Nat.exists_eq_add_of_le htT
  simp only [likeReply, openfieldLike_extends (hw t) hM hb,
    openfieldLike_extends (Ledger.Extends.of_chain hw t j) hM hb, List.nil_append]

theorem likeCursor_reply (config : Config) (codec : Codec) (pattern : String) (l : Ledger)
    (s b : Int) : likeCursor (likeReply config codec pattern l s b) = .num b := by
  simp [likeCursor, likeReply]

theorem likeTransactions_reply (config : Config) (codec : Codec) (pattern : String) (l : Ledger)
    (s b : Int) :
    likeTransactions (likeReply config codec pattern l s b) =
      (config.sentRows codec (l.transactions.filter fun r =>
        r.Within s b ∧ sqlLike (pattern ++ "%") r.openfield)).map Row.toJson := by
  simp [likeTransactions, likeReply, Select.rows]

/-- What the spec's cursor pagination promises a client paging through openfields
from cursor `s₀`, with no confirmations asked and windows of 1440 heights. -/
def LikePaging (config : Config) (codec : Codec) (w : World) (pattern : String) (s₀ : Int)
    (ts : List Nat) (T : Nat) : Prop :=
  ∃ last, Paged (fun t => (w.ledger t).blockHeightMax) 1440 0
      (likeReply config codec pattern (w.ledger T)) s₀ ts (likePolls config codec w pattern s₀ ts)
      last ∧
    (((likePolls config codec w pattern s₀ ts).map likeTransactions).flatten).Perm
      ((config.sentRows codec ((w.ledger T).transactions.filter fun r =>
        r.Within s₀ last ∧ sqlLike (pattern ++ "%") r.openfield)).map Row.toJson)

theorem likePolls_paging (config : Config) (codec : Codec) {w : World}
    (hw : ∀ t, (w.ledger t).Extends (w.ledger (t + 1))) (pattern : String)
    {t₀ : Nat} {ts : List Nat} (hts : (t₀ :: ts).Chain' (· ≤ ·)) {T : Nat}
    (hT : ∀ t ∈ t₀ :: ts, t ≤ T) {s₀ M₀ : Int} (hM₀ : (w.ledger t₀).blockHeightMax = some M₀)
    (hs₀ : s₀ ≤ M₀) : LikePaging config codec w pattern s₀ (t₀ :: ts) T := by
  obtain ⟨last, hp⟩ := pollRun_paged (fun since t => ((apiGetblockswhereoflike config codec).run w
      ⟨[since, .str pattern], [], t⟩).2.sent) likeCursor
    (likeReply config codec pattern (w.ledger T)) (fun M s => min M (s + 1440)) 1440 0
    (tip_mono hw) (fun M s hs => by dsimp only; omega)
    (fun s t M htT hM _ =>
      ⟨likePoll_step config codec hw pattern htT hM, likeCursor_reply config codec pattern _ _ _⟩) ts t₀ s₀ M₀ hts hT
    hM₀ (by omega)
  exact ⟨last, hp, hp.delivers config codec _ _ fun s b _ =>
    .of_eq (likeTransactions_reply config codec pattern _ s b)⟩

/-! ## Paging -/

end BismuthApi
