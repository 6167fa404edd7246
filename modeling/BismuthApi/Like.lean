import Mathlib.Data.List.Infix

/-!
# SQLite's LIKE

api_getblockswhereoflike filters with `openfield like ?` and binds the caller's text with one
`%` appended. SQLite reads `%` in a pattern as any run of characters and `_` as any single
character, compares letters without regard to ASCII case, and reads both the pattern and the text
as C strings, each ending at its first NUL. The characterisation below says which texts
`p ++ "%"` selects: those that begin with a run matching `p` itself, which is a case-blind
literal prefix test only when `p` holds no wildcard and no NUL.
-/

namespace BismuthApi

/-- SQLite's LIKE without an ESCAPE clause, on the characters of the pattern and the text. -/
def likeChars : List Char → List Char → Bool
  | [], s => s.isEmpty
  | '%' :: ps, s => s.tails.any (likeChars ps)
  | '_' :: ps, s =>
    match s with
    | [] => false
    | _ :: s => likeChars ps s
  | p :: ps, s =>
    match s with
    | [] => false
    | c :: s => p.toLower == c.toLower && likeChars ps s

/-- SQLite's `s LIKE pattern`: both texts are read up to their first NUL. -/
def sqlLike (pattern s : String) : Bool :=
  likeChars (pattern.toList.takeWhile (· != '\x00')) (s.toList.takeWhile (· != '\x00'))

/-- A pattern character that LIKE reads as itself: no wildcard, and not the NUL that would end
the pattern. -/
def Literal (c : Char) : Prop := c ≠ '%' ∧ c ≠ '_' ∧ c ≠ '\x00'

instance (c : Char) : Decidable (Literal c) := inferInstanceAs (Decidable (_ ∧ _ ∧ _))

theorem likeChars_percent (ps s : List Char) :
    likeChars ('%' :: ps) s = true ↔ ∃ t, t <:+ s ∧ likeChars ps t = true := by
  simp [likeChars, List.mem_tails]

theorem likeChars_underscore (ps : List Char) (c : Char) (s : List Char) :
    likeChars ('_' :: ps) (c :: s) = likeChars ps s := by
  simp [likeChars]

theorem likeChars_literal {p : Char} (hp : p ≠ '%') (hu : p ≠ '_') (ps : List Char) (c : Char)
    (s : List Char) :
    likeChars (p :: ps) (c :: s) = (p.toLower == c.toLower && likeChars ps s) :=
  likeChars.eq_6 p ps c s hp hu

theorem likeChars_literal_nil {p : Char} (hp : p ≠ '%') (hu : p ≠ '_') (ps : List Char) :
    likeChars (p :: ps) [] = false :=
  likeChars.eq_5 p ps hp hu

/-- The step of the characterisation below for a pattern head that consumes one character, `_` or
a literal, whose test on that character is `m`. -/
theorem likeChars_append_percent_one {p : Char} (m : Char → Bool)
    (hcons : ∀ ps c s, likeChars (p :: ps) (c :: s) = (m c && likeChars ps s))
    (hnil : ∀ ps, likeChars (p :: ps) [] = false) {ps : List Char}
    (ih : ∀ s, likeChars (ps ++ ['%']) s = true ↔ ∃ t u, s = t ++ u ∧ likeChars ps t = true)
    (s : List Char) :
    likeChars (p :: ps ++ ['%']) s = true ↔ ∃ t u, s = t ++ u ∧ likeChars (p :: ps) t = true := by
  cases s with
  | nil => simp [hnil]
  | cons c s =>
    simp only [List.cons_append, hcons, Bool.and_eq_true, ih]
    constructor
    · rintro ⟨hc, t, u, rfl, ht⟩
      exact ⟨c :: t, u, rfl, by simp [hcons, hc, ht]⟩
    · rintro ⟨_ | ⟨d, t⟩, u, he, ht⟩
      · simp [hnil] at ht
      · obtain ⟨rfl, rfl⟩ := List.cons_eq_cons.mp he
        simp only [hcons, Bool.and_eq_true] at ht
        exact ⟨ht.1, t, u, rfl, ht.2⟩

/-- **A trailing `%` matches exactly the texts with a matching head.** This is the filter
api_getblockswhereoflike applies, for every pattern the caller can send. -/
theorem likeChars_append_percent (p s : List Char) :
    likeChars (p ++ ['%']) s = true ↔ ∃ t u, s = t ++ u ∧ likeChars p t = true := by
  induction p generalizing s with
  | nil =>
    simp only [List.nil_append, likeChars_percent]
    exact ⟨fun _ => ⟨[], s, rfl, rfl⟩, fun _ => ⟨[], List.nil_suffix, rfl⟩⟩
  | cons p ps ih =>
    by_cases hpc : p = '%'
    · subst hpc
      simp only [List.cons_append, likeChars_percent, ih]
      constructor
      · rintro ⟨v, ⟨x, rfl⟩, t, u, rfl, ht⟩
        exact ⟨x ++ t, u, by simp, t, ⟨x, rfl⟩, ht⟩
      · rintro ⟨t', u, rfl, t, ⟨x, rfl⟩, ht⟩
        exact ⟨t ++ u, ⟨x, by simp⟩, t, u, rfl, ht⟩
    by_cases hpu : p = '_'
    · subst hpu
      exact @likeChars_append_percent_one '_' (fun _ => true)
        (fun ps c s => by rw [likeChars_underscore, Bool.true_and]) (fun _ => rfl) ps ih s
    · exact likeChars_append_percent_one _ (likeChars_literal hpc hpu)
        (likeChars_literal_nil hpc hpu) ih s

/-- A wildcard-free pattern matches a text exactly when the two agree letter for letter, up to
ASCII case. -/
theorem likeChars_literal_iff {p : List Char} (hp : ∀ c ∈ p, Literal c) (t : List Char) :
    likeChars p t = true ↔ p.map Char.toLower = t.map Char.toLower := by
  induction p generalizing t with
  | nil => cases t <;> simp [likeChars]
  | cons p ps ih =>
    obtain ⟨hl, hu, -⟩ := hp p (by simp)
    cases t with
    | nil => simp [likeChars_literal_nil hl hu]
    | cons c t =>
      simp [likeChars_literal hl hu, ih (fun c hc => hp c (by simp [hc]))]

/-- **For a wildcard-free prefix the filter is a case-blind prefix test.** -/
theorem likeChars_literal_percent_iff {p : List Char} (hp : ∀ c ∈ p, Literal c) (s : List Char) :
    likeChars (p ++ ['%']) s = true ↔ p.map Char.toLower <+: s.map Char.toLower := by
  rw [likeChars_append_percent]
  constructor
  · rintro ⟨t, u, rfl, ht⟩
    exact ⟨u.map Char.toLower, by rw [List.map_append, ← (likeChars_literal_iff hp t).mp ht]⟩
  · rintro ⟨v, hv⟩
    refine ⟨_, _, (List.take_append_drop p.length s).symm, (likeChars_literal_iff hp _).mpr ?_⟩
    rw [List.map_take, ← hv, List.take_left' (List.length_map _ _)]

/-- Only NUL lowers to NUL. -/
theorem eq_nul_of_toLower {c : Char} (h : c.toLower = '\x00') : c = '\x00' := by
  simp only [Char.toLower] at h
  split_ifs at h with hr
  · have hv : Nat.isValidChar (c.toNat + 32) := Or.inl (by omega)
    rw [Char.ofNat, dif_pos hv] at h
    have h2 : c.toNat + 32 = 0 := congrArg Char.toNat h
    omega
  · exact h

/-- A text cut at its first NUL still begins with a NUL-free prefix it began with, up to ASCII
case. -/
theorem lower_prefix_takeWhile_iff {p : List Char} (hp : ∀ c ∈ p, c ≠ '\x00') (s : List Char) :
    p.map Char.toLower <+: (s.takeWhile (· != '\x00')).map Char.toLower ↔
      p.map Char.toLower <+: s.map Char.toLower := by
  induction p generalizing s with
  | nil => simp
  | cons a p ih =>
    cases s with
    | nil => simp
    | cons c s =>
      by_cases hc : c = '\x00'
      · subst hc
        refine ⟨fun h => by simp [List.takeWhile_cons] at h, fun h => ?_⟩
        exact absurd (eq_nul_of_toLower ((List.cons_prefix_cons.1 h).1.trans rfl))
          (hp a (List.mem_cons_self _ _))
      · simp [List.takeWhile_cons, hc, List.cons_prefix_cons,
          ih (fun c h => hp c (List.mem_cons_of_mem _ h))]

theorem sqlLike_literal_iff {p : String} (hp : ∀ c ∈ p.toList, Literal c) (s : String) :
    sqlLike (p ++ "%") s = true ↔ p.toList.map Char.toLower <+: s.toList.map Char.toLower := by
  have happ : (p ++ "%").toList.takeWhile (· != '\x00') = p.toList ++ ['%'] := by
    rw [show (p ++ "%").toList = p.toList ++ ['%'] by simp,
      List.takeWhile_append_of_pos fun c hc => by simpa using (hp c hc).2.2]
    rfl
  rw [sqlLike, happ, likeChars_literal_percent_iff hp, lower_prefix_takeWhile_iff fun c hc => (hp c hc).2.2]

end BismuthApi
