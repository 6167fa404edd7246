import BismuthApi.Replies
import BismuthApi.Like

/-!
# The height windows of the block queries

api_getblockrange, api_getblocksince and api_getblockswhereoflike each select the rows of a
window of heights computed from the caller's parameters and the tip. The range is capped at 50
heights and its reply holds at most one block per height; api_getaddressrange caps the limit it
passes to the store at 500 the same way. The blocks-since window reaches one
height further down than its docstring's ten blocks: `block_height > max(M - 11, since)` keeps
height `M - 10`. The openfield filter binds the caller's text as a LIKE pattern, so it is a
prefix test only for text without `%`, `_` and NUL, and even then it ignores ASCII case.
-/

namespace BismuthApi

/-! ## The block range -/


/-- The limit after `if limit > cap: limit = cap`, as a number: the smaller of the two. -/
theorem capped_num {cap : ℚ} {limit L' : Json} (h : capped cap limit = .ok L') :
    ∃ L, pyNum limit = .ok L ∧ pyNum L' = .ok (min L cap) := by
  unfold capped pyLt at h
  cases hL : pyNum limit with
  | error => simp [hL] at h
  | ok L =>
    simp only [hL, pyNum_num, except_ok_bind, pure_bind] at h
    refine ⟨L, rfl, ?_⟩
    by_cases hlt : cap < L <;> simp only [hlt, decide_True, decide_False, if_true, if_false] at h
    · rw [← Except.ok.inj h, pyNum_num, min_eq_right hlt.le]
    · rw [← Except.ok.inj h, hL, min_eq_left (not_lt.1 hlt)]

/-- A numeric limit passes the cap: the capped limit is the smaller of it and the cap. -/
theorem capped_of_num (cap : ℚ) {L : ℚ} {limit : Json} (h : pyNum limit = .ok L) :
    ∃ L', capped cap limit = .ok L' ∧ pyNum L' = .ok (min L cap) := by
  have : ∃ L', capped cap limit = .ok L' := by
    unfold capped pyLt
    simp only [h, pyNum_num, except_ok_bind, pure_bind]
    split <;> exact ⟨_, rfl⟩
  obtain ⟨L', hc⟩ := this
  obtain ⟨L₀, h₀, hL'⟩ := capped_num hc
  rw [h, Except.ok.injEq] at h₀
  exact ⟨L', hc, h₀ ▸ hL'⟩

/-- The bound of api_getaddressrange's docstring: the store call asks for at most `cap`
entries. -/
def Call.limitAtMost (cap : ℚ) : Call → Bool
  | .addressRange _ _ limit =>
    match pyNum limit with
    | .ok L => decide (L ≤ cap)
    | .error _ => false
  | _ => true

/-- **api_getaddressrange asks the store for at most 500 entries**: on every path, whatever the
caller sent, the limit of its address-range call is a number no larger than 500. -/
theorem getaddressrange_capped : apiGetaddressrange.Only (Call.limitAtMost 500) :=
  Api.Only.bind (Api.Only.perform rfl) fun _ => Api.Only.bind (Api.Only.perform rfl) fun _ =>
    Api.Only.bind (Api.Only.perform rfl) fun _ => Api.Only.lift_bind fun _ hl =>
      Api.Only.bind (Api.Only.perform (by
        obtain ⟨L, -, hL⟩ := capped_num hl
        simp [Call.limitAtMost, hL])) fun _ => Api.Only.perform rfl

/-- Keys that are pairwise distinct integer heights of a window `[lo, lo + n)` number at most
`n`. -/
theorem length_le_of_heights {ks : List Json} {lo : ℚ} {n : Nat}
    (hk : ∀ k ∈ ks, ∃ h : Int, k = .num h ∧ lo ≤ h ∧ (h : ℚ) < lo + n)
    (hd : ks.Pairwise fun x y => x.keyEq y = false) : ks.length ≤ n := by
  have hnum : ∀ k ∈ ks, ∃ h : Int, (k.keyNum?).getD 0 = h ∧ ⌈lo⌉ ≤ h ∧ h < ⌈lo⌉ + n := by
    intro k hk'
    obtain ⟨h, rfl, h₁, h₂⟩ := hk k hk'
    refine ⟨h, rfl, Int.ceil_le.2 h₁, ?_⟩
    have : (h : ℚ) < ((⌈lo⌉ + n : ℤ) : ℚ) := by push_cast; linarith [Int.le_ceil lo]
    exact_mod_cast this
  have hnodup : (ks.map fun k => (k.keyNum?).getD 0).Nodup := by
    refine List.pairwise_map.2 (hd.imp_of_mem fun {a b} ha hb hab => ?_)
    obtain ⟨x, rfl, -⟩ := hk a ha
    obtain ⟨y, rfl, -⟩ := hk b hb
    simpa [Json.keyNum?] using hab
  have hsub : (ks.map fun k => (k.keyNum?).getD 0) ⊆
      (List.range n).map fun i : Nat => ((⌈lo⌉ + i : ℤ) : ℚ) := by
    intro q hq
    obtain ⟨k, hk', rfl⟩ := List.mem_map.1 hq
    obtain ⟨h, hh, h₁, h₂⟩ := hnum k hk'
    have hi : (h - ⌈lo⌉).toNat < n := by omega
    refine List.mem_map.2 ⟨(h - ⌈lo⌉).toNat, List.mem_range.2 hi, ?_⟩
    rw [hh, show ⌈lo⌉ + ((h - ⌈lo⌉).toNat : ℤ) = h by omega]
  simpa using (List.subperm_of_subset hnodup hsub).length_le


/-- What api_getblockrange may send for a start and a limit: the dumps of a dict of at most 50
blocks, each under a height `h` with `start ≤ h < start + min(limit, 50)`. -/
def RangeReply (start limit : ℚ) (v : Json) : Prop :=
  ∃ d : PyDict, v = .str d.toJson.dumps ∧ d.entries.length ≤ 50 ∧
    ∀ k ∈ d.keys, ∃ h : Int, k = .num h ∧ start ≤ h ∧ h < start + min limit 50

theorem rangeReply_of_keysFrom {l : Ledger} {lo L : ℚ} {d : PyDict}
    (h : KeysFrom ((Select.range lo (lo + min L 50)).rows l) d) :
    RangeReply lo L (.str d.toJson.dumps) := by
  have hk : ∀ k ∈ d.keys, ∃ h : Int, k = .num h ∧ lo ≤ h ∧ (h : ℚ) < lo + min L 50 := by
    intro k hk
    obtain ⟨r, hr, rfl⟩ := h.1 k hk
    simp only [Select.rows, List.mem_filter, decide_eq_true_eq] at hr
    exact ⟨r.blockHeight, rfl, hr.2⟩
  have hlen : d.keys.length ≤ 50 := length_le_of_heights (fun k hk' => by
    obtain ⟨h, rfl, h₁, h₂⟩ := hk k hk'
    exact ⟨h, rfl, h₁, by push_cast; linarith [min_le_right L 50]⟩) h.2
  exact ⟨d, rfl, by simpa [PyDict.keys] using hlen, hk⟩

/-- **The block-range cap.** For every start, every limit and every store, api_getblockrange
either sends nothing or sends one reply that keeps the cap. -/
theorem getblockrange_capped (codec : Codec) (w : World) (start limit : Json)
    (vs sent : List Json) (t : Nat) :
    ((apiGetblockrange codec).run w ⟨start :: limit :: vs, sent, t⟩).2.sent = sent ∨
      ∃ lo L v, pyNum start = .ok lo ∧ pyNum limit = .ok L ∧
        ((apiGetblockrange codec).run w ⟨start :: limit :: vs, sent, t⟩).2.sent = sent ++ [v] ∧
        RangeReply lo L v := by
  rw [run_apiGetblockrange]
  cases hc : capped 50 limit with
  | error => exact .inl rfl
  | ok L' =>
    cases hs : pyNum start with
    | error => exact .inl rfl
    | ok lo =>
      obtain ⟨L, hL, hL'⟩ := capped_num hc
      have hhi : pyAdd start L' = .ok (lo + min L 50) := by simp [pyAdd, hs, hL']
      dsimp only
      rw [hhi]
      dsimp only
      cases hd : blocktojsondiffs codec ((Select.range lo (lo + min L 50)).rows (w.ledger t))
          ((w.ledger (t + 1)).difficulties lo (lo + min L 50)) with
      | error => exact .inl rfl
      | ok d => exact .inr ⟨lo, L, _, rfl, hL, rfl, rangeReply_of_keysFrom (blocktojsondiffs_keysFrom hd)⟩


/-- **When api_getblockrange replies.** For a numeric start and limit, and rows of the window
that `from_legacy` reads, the handler makes both store calls, and sends its one reply exactly
when the rows of the window, read at the first call, hold no more reward rows than the
difficulties of the window, read at the second; when they hold more, blocktojsondiffs raises
IndexError and nothing is sent. -/
theorem getblockrange_replies_iff (codec : Codec) (w : World) {start limit : Json} {lo L : ℚ}
    (hs : pyNum start = .ok lo) (hl : pyNum limit = .ok L) (vs sent : List Json) (t : Nat)
    (hdec : codec.Decodes ((Select.range lo (lo + min L 50)).rows (w.ledger t))) :
    let run := (apiGetblockrange codec).run w ⟨start :: limit :: vs, sent, t⟩
    let rewards := ((Select.range lo (lo + min L 50)).rows (w.ledger t)).filter codec.isReward
    let diffs := (w.ledger (t + 1)).difficulties lo (lo + min L 50)
    (rewards.length ≤ diffs.length →
        run.1 = .ok () ∧ run.2.clock = t + 2 ∧ ∃ v, run.2.sent = sent ++ [v]) ∧
      (diffs.length < rewards.length → run = (.error .indexError, ⟨vs, sent, t + 2⟩)) := by
  intro run rewards diffs
  obtain ⟨L', hc, hL'⟩ := capped_of_num 50 hl
  have hhi : pyAdd start L' = .ok (lo + min L 50) := by simp [pyAdd, hs, hL']
  obtain ⟨herr, hok⟩ := blocktojsondiffs_outcome codec
    ((Select.range lo (lo + min L 50)).rows (w.ledger t)) diffs hdec
  simp only [run, run_apiGetblockrange, hc, hs, hhi]
  refine ⟨fun h => ?_, fun h => by rw [herr h]⟩
  obtain ⟨d, hd⟩ := hok h
  rw [hd]
  exact ⟨rfl, rfl, _, rfl⟩

/-- An empty store holds no reward rows, so the handler replies. -/
theorem getblockrange_replies_empty :
    pyNum (.num 0) = .ok 0 ∧ pyNum (.num 1) = .ok 1 ∧
      Codec.reference.Decodes ((Select.range 0 (0 + min 1 50)).rows ⟨[], []⟩) ∧
      let run := (apiGetblockrange .reference).run (stillWorld ⟨[], []⟩) ⟨[.num 0, .num 1], [], 0⟩
      run.1 = .ok () ∧ run.2.clock = 0 + 2 ∧ ∃ v, run.2.sent = [] ++ [v] :=
  ⟨rfl, rfl, fun _ _ => rfl, (getblockrange_replies_iff .reference (stillWorld ⟨[], []⟩)
    (pyNum_num 0) (pyNum_num 1) [] [] 0 fun _ _ => rfl).1 (Nat.zero_le _)⟩

/-- **Blocks appended between the two reads do not change the block range.** On a store that
only grows between api_getblockrange's two reads, whenever the rows and the difficulties of the
first snapshot give a dict, the handler sends that dict: the difficulties of the blocks appended
after the rows were read come after the ones the rows use. -/
theorem getblockrange_first_snapshot (codec : Codec) (w : World) {start limit : Json} {lo L : ℚ}
    (hs : pyNum start = .ok lo) (hl : pyNum limit = .ok L) (vs sent : List Json) (t : Nat)
    (hw : (w.ledger t).Extends (w.ledger (t + 1))) {d : PyDict}
    (hd : blocktojsondiffs codec ((Select.range lo (lo + min L 50)).rows (w.ledger t))
      ((w.ledger t).difficulties lo (lo + min L 50)) = .ok d) :
    (apiGetblockrange codec).run w ⟨start :: limit :: vs, sent, t⟩ =
      (.ok (), ⟨vs, sent ++ [.str d.toJson.dumps], t + 2⟩) := by
  obtain ⟨L', hc, hL'⟩ := capped_of_num 50 hl
  have hhi : pyAdd start L' = .ok (lo + min L 50) := by simp [pyAdd, hs, hL']
  obtain ⟨extra, he⟩ := Ledger.difficulties_extends hw lo (lo + min L 50)
  simp only [run_apiGetblockrange, hc, hs, hhi, he, blocktojsondiffs_append_ok extra hd]

/-- The store is empty at the first call and holds a mined block at height 0 from the second
call on. -/
def blockAppended : World :=
  ⟨fun t => if t = 0 then ⟨[], []⟩ else
    ⟨[⟨0, 0, "", "m", 0, "", "", "", 0, 1, "", ""⟩], [⟨0, .num 7⟩]⟩, fun _ _ => .error .external⟩

/-- The block appended between the reads adds a difficulty in the window, and the reply is still
the empty dict of the first read. -/
theorem getblockrange_first_snapshot_appended :
    (apiGetblockrange .reference).run blockAppended ⟨[.num 0, .num 1], [], 0⟩ =
      (.ok (), ⟨[], [] ++ [.str PyDict.empty.toJson.dumps], 0 + 2⟩) :=
  getblockrange_first_snapshot .reference blockAppended (pyNum_num 0) (pyNum_num 1) [] [] 0
    ⟨[_], [_], rfl, rfl, by simp [blockAppended]⟩ rfl

/-! ## The blocks-since window -/

/-- A row at a height with an openfield, its other fields empty. -/
def openfieldRow (height : Int) (openfield : String) : Row :=
  ⟨height, 0, "", "", 0, "", "", "", 0, 0, "", openfield⟩

/-- Two blocks, at heights 0 and 10. -/
def tipTen : Ledger := ⟨[openfieldRow 0 "", openfieldRow 10 ""], []⟩

theorem sinceBound_some {M : Int} {v : Json} {s : ℚ} (hs : pyNum v = .ok s) :
    sinceBound (some M) v = .ok (max (M - 11) s) := by
  simp [sinceBound, pySub, heightValue, hs]

/-- An integer height lies above `max (M - 11) s` exactly when it lies above `s` and at or
above `M - 10`. -/
theorem max_lt_height_iff (M h : Int) (s : ℚ) :
    max ((M : ℚ) - 11) s < h ↔ s < h ∧ M - 10 ≤ h := by
  rw [max_lt_iff, and_comm]
  have : ((M : ℚ) - 11 < h) ↔ M - 10 ≤ h := by
    rw [show ((M : ℚ) - 11) = ((M - 11 : ℤ) : ℚ) by push_cast; ring, Int.cast_lt]
    omega
  rw [this]

/-- **The blocks-since window.** With tip `M` at its first call, api_getblocksince sends the rows
above `since_height` and at or above `M - 10`, that is from the eleven heights `M - 10 .. M`
when `since_height ≤ M - 11`. -/
theorem getblocksince_window (config : Config) (codec : Codec) (w : World) (v : Json)
    (vs sent : List Json) (t : Nat) {M : Int} (hM : (w.ledger t).blockHeightMax = some M) {s : ℚ}
    (hs : pyNum v = .ok s) :
    ((apiGetblocksince config codec).run w ⟨v :: vs, sent, t⟩).2.sent =
      sent ++ [rowsJson (config.sentRows codec ((w.ledger (t + 1)).transactions.filter fun r =>
        s < r.blockHeight ∧ M - 10 ≤ r.blockHeight))] := by
  rw [run_apiGetblocksince, hM, sinceBound_some hs]
  simp only [Select.rows, max_lt_height_iff]

section TipTen
attribute [local semireducible] Rat.add Rat.mul Rat.sub Rat.inv

/-- With tip 10, api_getblocksince sends the row of height `0 = 10 - 10`. -/
theorem getblocksince_sends_eleven_blocks :
    tipTen.blockHeightMax = some 10 ∧
      ((apiGetblocksince ⟨true, []⟩ .reference).run (stillWorld tipTen) ⟨[.num (-1)], [], 0⟩).2.sent =
        [rowsJson [openfieldRow 0 "", openfieldRow 10 ""]] := by
  have hM : tipTen.blockHeightMax = some 10 := by decide
  refine ⟨hM, ?_⟩
  rw [run_apiGetblocksince]
  simp only [stillWorld, hM, sinceBound_some (pyNum_num (-1))]
  have : (Select.above (max ((10 : Int) - 11 : ℚ) (-1))).rows tipTen = [openfieldRow 0 "", openfieldRow 10 ""] := by decide
  rw [this]
  rfl

end TipTen


/-! ## The openfield filter -/

/-- Two openfields in block 1: one matches `bis_` through the wildcard, one through case. -/
def likeLedger : Ledger := ⟨[openfieldRow 1 "bisX", openfieldRow 1 "Bis_y"], []⟩

section BisPrefix
attribute [local semireducible] Rat.add

end BisPrefix

section BisWildcard
attribute [local semireducible] Rat.add Rat.mul Rat.sub Rat.inv

/-- For the prefix `bis_`, api_getblockswhereoflike sends both rows, though neither openfield
begins with `bis_`. -/
theorem getblockswhereoflike_matches_wildcards :
    ((apiGetblockswhereoflike ⟨true, []⟩ .reference).run (stillWorld likeLedger)
        ⟨[.num 0, .str "bis_"], [], 0⟩).2.sent =
      [.arr [(openfieldRow 1 "bisX").toJson, (openfieldRow 1 "Bis_y").toJson, .arr [.num 1]]] ∧
    ¬ "bis_".toList <+: "bisX".toList ∧ ¬ "bis_".toList <+: "Bis_y".toList := by
  refine ⟨?_, by decide, by decide⟩
  have hs : pyInt (.num 0) = .ok 0 := by decide
  have hb : likeBound likeLedger.blockHeightMax 0 = .ok 1 := by decide
  have hrows : (Select.openfieldLike 0 1 ("bis_" ++ "%")).rows likeLedger =
      [openfieldRow 1 "bisX", openfieldRow 1 "Bis_y"] := by decide
  rw [run_apiGetblockswhereoflike, hs]
  simp only [stillWorld, pyConcat, hb, Int.cast_zero, hrows]
  rfl

end BisWildcard

end BismuthApi
