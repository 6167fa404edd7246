import BismuthApi.Ledger

/-!
# Grouping rows into blocks

blocktojsondiffs walks the rows of a height range once and carries four pieces of state: the
height of the previous row, the block being assembled, the normal transactions seen at this
height, and an index into the difficulty list. A row whose formatted reward is not
`"0.00000000"` closes the block of its height: the block is stored with the normal rows seen so
far and the difficulty at the index, and the index moves on. The index therefore counts
reward-bearing heights, not heights, and a normal row after the reward row of its height is
never stored.
-/

namespace BismuthApi

/-- Whether a formatted reward is the text of a zero reward. -/
def Json.isZeroReward : Json → Bool
  | .str s => s == "0.00000000"
  | _ => false

/-- The loop state of blocktojsondiffs. -/
structure DiffsState where
  i : Nat
  blocksDict : PyDict
  blockDict : PyDict
  normalTransactions : List PyDict
  old : Json

/-- The state before the first row: `old` starts as None. -/
def DiffsState.init : DiffsState := ⟨0, .empty, .empty, [], .null⟩

/-- The loop body on one row. The height comparison `old != height` is Python's, on the
heights the dicts hold. -/
def diffsStep (codec : Codec) (listOfDiffs : List Json) (s : DiffsState) (transaction : Row) :
    Except Exc DiffsState := do
  let tf ← codec.legacyDict transaction
  let height ← tf.get (.str "block_height")
  let tf ← tf.del (.str "block_height")
  let fresh := !s.old.keyEq height
  let blockDict := if fresh then PyDict.empty else s.blockDict
  let normalTransactions := if fresh then [] else s.normalTransactions
  if (← tf.get (.str "reward")).isZeroReward then
    let tf ← tf.del (.str "block_hash")
    let tf ← tf.del (.str "reward")
    pure ⟨s.i, s.blocksDict, blockDict, normalTransactions ++ [tf], height⟩
  else
    let tf ← tf.del (.str "address")
    let tf ← tf.del (.str "amount")
    let difficulty ← match listOfDiffs[s.i]? with
      | some d => pure d
      | none => throw .indexError
    let tf ← tf.set (.str "difficulty") difficulty
    let blockDict ← blockDict.set (.str "mining_tx") tf.toJson
    let blockDict ← blockDict.set (.str "transactions")
      (.arr (normalTransactions.map PyDict.toJson))
    let blocksDict ← s.blocksDict.set height blockDict.toJson
    pure ⟨s.i + 1, blocksDict, blockDict, normalTransactions, height⟩

/-- blocktojsondiffs: "Beware, returns a dict, not a json encoded payload". -/
def blocktojsondiffs (codec : Codec) (listOfTxs : List Row) (listOfDiffs : List Json) :
    Except Exc PyDict :=
  (listOfTxs.foldlM (diffsStep codec listOfDiffs) .init).map DiffsState.blocksDict

namespace Codec
variable (codec : Codec)

/-- The formatted reward of a row. -/
def rewardOf (r : Row) : Json := ((codec.formatted r).find? (.str "reward")).getD .null

/-- A row whose formatted reward is not "0.00000000": it closes the block of its height. -/
def isReward (r : Row) : Bool := !(codec.rewardOf r).isZeroReward

/-- A normal row as its block lists it, without block_height, block_hash and reward. -/
def normalDict (r : Row) : PyDict :=
  (((codec.formatted r).erase (.str "block_height")).erase (.str "block_hash")).erase (.str "reward")

/-- A reward row as its block's mining transaction, without block_height, address and amount,
and with the block's difficulty. -/
def minedDict (r : Row) (difficulty : Json) : PyDict :=
  ((((codec.formatted r).erase (.str "block_height")).erase (.str "address")).erase
    (.str "amount")).put (.str "difficulty") difficulty

theorem formatted_blockHeight (r : Row) :
    (codec.formatted r).find? (.str "block_height") = some (.num r.blockHeight) := by
  rw [formatted, codec.toDict_blockHeight, codec.fromLegacy_blockHeight]

theorem formatted_has (r : Row) {k : String} (hk : k ∈ formattedKeys) :
    ((codec.formatted r).find? (.str k)).isSome :=
  codec.toDict_keys _ k hk

end Codec

/-- A block: the block dict as it stood, given its mining transaction and its transactions. -/
def blockOf (blockDict mining : PyDict) (normals : List PyDict) : PyDict :=
  (blockDict.put (.str "mining_tx") mining.toJson).put (.str "transactions")
    (.arr (normals.map PyDict.toJson))

namespace DiffsState

/-- The block dict a row of height `h` starts from: cleared when the height changes. -/
def dictAt (s : DiffsState) (h : Json) : PyDict := if !s.old.keyEq h then .empty else s.blockDict

/-- The normal transactions a row of height `h` starts from: cleared when the height changes. -/
def normalsAt (s : DiffsState) (h : Json) : List PyDict :=
  if !s.old.keyEq h then [] else s.normalTransactions

end DiffsState

section Step
variable {codec : Codec} {diffs : List Json} {s : DiffsState} {r : Row}

theorem diffsStep_undecoded {e : Exc} (h : codec.legacyError r = some e) :
    diffsStep codec diffs s r = .error e := by
  simp [diffsStep, Codec.legacyDict, h, bind, Except.bind]

theorem Codec.formatted_reward (codec : Codec) (r : Row) :
    (codec.formatted r).find? (.str "reward") = some (codec.rewardOf r) := by
  have h := codec.formatted_has r (show "reward" ∈ formattedKeys by simp [formattedKeys])
  rw [Codec.rewardOf]
  cases hf : (codec.formatted r).find? (.str "reward") <;> simp_all

theorem diffsStep_normal (hdec : codec.legacyError r = none) (hr : codec.isReward r = false) :
    diffsStep codec diffs s r = .ok ⟨s.i, s.blocksDict, s.dictAt (.num r.blockHeight),
      s.normalsAt (.num r.blockHeight) ++ [codec.normalDict r], .num r.blockHeight⟩ := by
  have hk := fun k (hk : k ∈ formattedKeys) => codec.formatted_has r hk
  simp only [formattedKeys, List.mem_cons, List.mem_singleton, forall_eq_or_imp, forall_eq, List.not_mem_nil, or_false] at hk
  simp only [Codec.isReward, Bool.not_eq_false'] at hr
  simp [diffsStep, PyDict.get, PyDict.del, PyDict.has_eq_isSome_find?, PyDict.find?_erase_str, Codec.legacyDict, hdec,
    Codec.formatted_blockHeight, Codec.formatted_reward, hk, hr, Json.hashable, bind, Except.bind, pure, Except.pure,
    DiffsState.dictAt, DiffsState.normalsAt, Codec.normalDict]

theorem diffsStep_reward {d : Json} (hdec : codec.legacyError r = none) (hr : codec.isReward r = true)
    (hd : diffs[s.i]? = some d) :
    diffsStep codec diffs s r = .ok ⟨s.i + 1, s.blocksDict.put (.num r.blockHeight)
      (blockOf (s.dictAt (.num r.blockHeight)) (codec.minedDict r d)
        (s.normalsAt (.num r.blockHeight))).toJson,
      blockOf (s.dictAt (.num r.blockHeight)) (codec.minedDict r d) (s.normalsAt (.num r.blockHeight)),
      s.normalsAt (.num r.blockHeight), .num r.blockHeight⟩ := by
  have hk := fun k (hk : k ∈ formattedKeys) => codec.formatted_has r hk
  simp only [formattedKeys, List.mem_cons, List.mem_singleton, forall_eq_or_imp, forall_eq, List.not_mem_nil, or_false] at hk
  simp only [Codec.isReward, Bool.not_eq_true'] at hr
  simp [diffsStep, PyDict.get, PyDict.del, PyDict.set, PyDict.has_eq_isSome_find?, PyDict.find?_erase_str, Codec.legacyDict, hdec,
    Codec.formatted_blockHeight, Codec.formatted_reward, hk, hr, hd, Json.hashable, bind, Except.bind, pure, Except.pure,
    DiffsState.dictAt, DiffsState.normalsAt, Codec.minedDict, blockOf]

theorem diffsStep_short (hdec : codec.legacyError r = none) (hr : codec.isReward r = true)
    (hd : diffs[s.i]? = none) :
    diffsStep codec diffs s r = .error .indexError := by
  have hk := fun k (hk : k ∈ formattedKeys) => codec.formatted_has r hk
  simp only [formattedKeys, List.mem_cons, List.mem_singleton, forall_eq_or_imp, forall_eq, List.not_mem_nil, or_false] at hk
  simp only [Codec.isReward, Bool.not_eq_true'] at hr
  simp [diffsStep, PyDict.get, PyDict.del, PyDict.has_eq_isSome_find?, PyDict.find?_erase_str, Codec.legacyDict, hdec,
    Codec.formatted_blockHeight, Codec.formatted_reward, hk, hr, hd, Json.hashable, bind, Except.bind, pure, Except.pure, throw, throwThe, MonadExceptOf.throw]
end Step

section Runs
variable {codec : Codec} {diffs : List Json}

/-- Normal rows of the current height only add to the normal transactions. -/
theorem foldlM_normals {h : Int} (g : List Row) (hdec : codec.Decodes g)
    (hg : ∀ r ∈ g, r.blockHeight = h ∧ codec.isReward r = false) (s : DiffsState)
    (hs : s.old = .num h) :
    ∃ s', g.foldlM (diffsStep codec diffs) s = .ok s' ∧ s'.i = s.i ∧
      s'.blocksDict = s.blocksDict ∧ s'.old = .num h := by
  induction g generalizing s with
  | nil => exact ⟨s, rfl, rfl, rfl, hs⟩
  | cons r g ih =>
    obtain ⟨hh, hr⟩ := hg r (by simp)
    rw [List.foldlM_cons, diffsStep_normal (hdec r (by simp)) hr]
    exact ih (fun x hx => hdec x (by simp [hx])) (fun x hx => hg x (by simp [hx])) _ (by simp [hh])

/-- A run of one height with at most one reward row, entered with its height set: the reward
row stores the block of the height, with the normal rows before it. -/
theorem foldlM_run {h : Int} (g : List Row) (hdec : codec.Decodes g) (hg : ∀ r ∈ g, r.blockHeight = h)
    (hone : (g.filter codec.isReward).length ≤ 1) (s : DiffsState) (hs : s.old = .num h)
    (hi : s.i < diffs.length) :
    ∃ s', g.foldlM (diffsStep codec diffs) s = .ok s' ∧ s'.old = .num h ∧
      match g.find? codec.isReward with
      | none => s'.i = s.i ∧ s'.blocksDict = s.blocksDict
      | some r => s'.i = s.i + 1 ∧ s'.blocksDict = s.blocksDict.put (.num h)
          (blockOf s.blockDict (codec.minedDict r (diffs.getD s.i .null))
            (s.normalTransactions ++ (g.takeWhile (!codec.isReward ·)).map codec.normalDict)).toJson := by
  induction g generalizing s with
  | nil => exact ⟨s, rfl, hs, rfl, rfl⟩
  | cons r g ih =>
    have hh := hg r (by simp)
    subst hh
    have hat : s.old.keyEq (.num r.blockHeight) = true := by simp [hs]
    have hr₀ := hdec r (by simp)
    rw [List.foldlM_cons]
    cases hr : codec.isReward r with
    | false =>
      rw [diffsStep_normal hr₀ hr, except_ok_bind]
      obtain ⟨s', h1, h2, h3⟩ := ih (fun x hx => hdec x (by simp [hx])) (fun x hx => hg x (by simp [hx]))
        (by simpa [List.filter_cons, hr] using hone) ⟨s.i, s.blocksDict,
          s.dictAt (.num r.blockHeight), s.normalsAt (.num r.blockHeight) ++ [codec.normalDict r],
          .num r.blockHeight⟩ rfl hi
      refine ⟨s', h1, h2, ?_⟩
      simp only [DiffsState.dictAt, DiffsState.normalsAt, hat, Bool.not_true] at h3
      simpa [List.find?_cons, hr] using h3
    | true =>
      have hd : diffs[s.i]? = some (diffs.getD s.i .null) := by simp [hi]
      rw [diffsStep_reward hr₀ hr hd, except_ok_bind]
      have hn : ∀ x ∈ g, x.blockHeight = r.blockHeight ∧ codec.isReward x = false := by
        have : g.filter codec.isReward = [] := by
          simpa [hr, List.filter_cons] using hone
        exact fun x hx => ⟨hg x (by simp [hx]), by
          simpa using (List.filter_eq_nil_iff.mp this) x hx⟩
      obtain ⟨s', h1, h2, h3, h4⟩ := @foldlM_normals codec diffs r.blockHeight g
        (fun x hx => hdec x (by simp [hx])) hn ⟨s.i + 1,
        s.blocksDict.put (.num r.blockHeight) (blockOf (s.dictAt (.num r.blockHeight))
          (codec.minedDict r (diffs.getD s.i .null)) (s.normalsAt (.num r.blockHeight))).toJson,
        blockOf (s.dictAt (.num r.blockHeight)) (codec.minedDict r (diffs.getD s.i .null))
          (s.normalsAt (.num r.blockHeight)), s.normalsAt (.num r.blockHeight),
        .num r.blockHeight⟩ rfl
      refine ⟨s', h1, h4, ?_⟩
      simp [hr, h2, h3, DiffsState.dictAt, DiffsState.normalsAt, hat]

end Runs

/-! ## The blocks the rows describe -/

/-- The rows split into maximal runs of one height, each with its height. -/
def heightRuns : List Row → List (Int × List Row)
  | [] => []
  | r :: rs =>
    match heightRuns rs with
    | (h, g) :: gs =>
      if r.blockHeight = h then (h, r :: g) :: gs else (r.blockHeight, [r]) :: (h, g) :: gs
    | [] => [(r.blockHeight, [r])]

/-- Runs that are nonempty, of one height each, in increasing height order. -/
def RunsOk : List (Int × List Row) → Prop
  | [] => True
  | (h, g) :: gs => g ≠ [] ∧ (∀ r ∈ g, r.blockHeight = h) ∧ (∀ hg ∈ gs, h < hg.1) ∧ RunsOk gs

theorem heightRuns_join (rows : List Row) : ((heightRuns rows).map Prod.snd).flatten = rows := by
  induction rows with
  | nil => rfl
  | cons r rs ih =>
    rw [heightRuns]
    split
    · next h g gs heq =>
      rw [heq] at ih
      split <;> simp_all
    · next heq => rw [heq] at ih; simp [← ih]

theorem heightRuns_ok {rows : List Row} (hs : rows.Sorted (·.blockHeight ≤ ·.blockHeight)) :
    RunsOk (heightRuns rows) := by
  induction rows with
  | nil => trivial
  | cons r rs ih =>
    obtain ⟨hr, hrs⟩ := List.sorted_cons.mp hs
    have hjoin := heightRuns_join rs
    have ok := ih hrs
    rw [heightRuns]
    split
    · next h g gs heq =>
      rw [heq] at ok hjoin
      obtain ⟨hg, hgh, hgs, hok⟩ := ok
      split
      · next he =>
        refine ⟨List.cons_ne_nil _ _, fun x hx => ?_, hgs, hok⟩
        rcases List.mem_cons.mp hx with rfl | hx
        exacts [he, hgh x hx]
      · next hne =>
        obtain ⟨x, hx⟩ := List.exists_mem_of_ne_nil g hg
        have hrx : r.blockHeight < h :=
          lt_of_le_of_ne (hgh x hx ▸ hr x (by rw [← hjoin]; simp [hx])) hne
        refine ⟨List.cons_ne_nil _ _, by simp, fun hg' hmem => ?_, hg, hgh, hgs, hok⟩
        rcases List.mem_cons.mp hmem with rfl | hmem
        exacts [hrx, hrx.trans (hgs hg' hmem)]
    · exact ⟨List.cons_ne_nil _ _, by simp, by simp, trivial⟩

/-- The blocks blocktojsondiffs builds from runs of one height, `j` runs with a reward row before
them: a run with a reward row gives the block of its height, holding the normal rows before its
reward row and the `j`-th difficulty. -/
def minedBlocks (codec : Codec) (diffs : List Json) :
    Nat → List (Int × List Row) → List (Json × Json)
  | _, [] => []
  | j, (h, g) :: gs =>
    match g.find? codec.isReward with
    | some r => (.num h, (blockOf .empty (codec.minedDict r (diffs.getD j .null))
        ((g.takeWhile (!codec.isReward ·)).map codec.normalDict)).toJson) ::
        minedBlocks codec diffs (j + 1) gs
    | none => minedBlocks codec diffs j gs

/-- The state a row of a new height starts from: block and normal transactions cleared. -/
def DiffsState.enter (s : DiffsState) (h : Int) : DiffsState :=
  { s with blockDict := .empty, normalTransactions := [], old := .num h }

section Runs
variable {codec : Codec} {diffs : List Json}

theorem diffsStep_enter {s : DiffsState} {r : Row} (hf : s.old.keyEq (.num r.blockHeight) = false) :
    diffsStep codec diffs s r = diffsStep codec diffs (s.enter r.blockHeight) r := by
  cases he : codec.legacyError r with
  | some e => rw [diffsStep_undecoded he, diffsStep_undecoded he]
  | none =>
    cases hr : codec.isReward r with
    | false =>
      simp [diffsStep_normal he hr, DiffsState.dictAt, DiffsState.normalsAt, DiffsState.enter, hf]
    | true =>
      cases hd : diffs[s.i]? with
      | none =>
        rw [diffsStep_short he hr hd, @diffsStep_short codec diffs (s.enter r.blockHeight) r he hr hd]
      | some d =>
        rw [diffsStep_reward he hr hd,
          @diffsStep_reward codec diffs (s.enter r.blockHeight) r d he hr hd]
        simp [DiffsState.dictAt, DiffsState.normalsAt, DiffsState.enter, hf]

/-- **The loop over whole runs.** Each run is entered at a new height, stores at most one block,
and the blocks come out in run order. -/
theorem foldlM_runs (gs : List (Int × List Row)) (hdec : codec.Decodes (gs.map Prod.snd).flatten)
    (hgs : RunsOk gs)
    (hone : ∀ hg ∈ gs, (hg.2.filter codec.isReward).length ≤ 1) (s : DiffsState)
    (hold : ∀ hg ∈ gs, s.old.keyEq (.num hg.1) = false)
    (hkeys : ∀ hg ∈ gs, s.blocksDict.has (.num hg.1) = false)
    (hlen : s.i + gs.length ≤ diffs.length) :
    ∃ s', (gs.map Prod.snd).flatten.foldlM (diffsStep codec diffs) s = .ok s' ∧
      s'.blocksDict = ⟨s.blocksDict.entries ++ minedBlocks codec diffs s.i gs⟩ := by
  induction gs generalizing s with
  | nil => exact ⟨s, rfl, by simp [minedBlocks]⟩
  | cons hg gs ih =>
    obtain ⟨h, g⟩ := hg
    obtain ⟨hne, hgh, hlt, hok⟩ := hgs
    obtain ⟨r₀, g₀, rfl⟩ := List.exists_cons_of_ne_nil hne
    have h0 := hgh r₀ (by simp)
    have hfirst : (r₀ :: g₀).foldlM (diffsStep codec diffs) s =
        (r₀ :: g₀).foldlM (diffsStep codec diffs) (s.enter h) := by
      rw [List.foldlM_cons, List.foldlM_cons,
        diffsStep_enter (by simpa [h0] using hold (h, r₀ :: g₀) (by simp)), h0]
    rw [List.map_cons, List.flatten_cons] at hdec
    obtain ⟨s₁, hrun, hold₁, hmatch⟩ := @foldlM_run codec diffs h (r₀ :: g₀)
      (fun x hx => hdec x (List.mem_append_left _ hx)) hgh
      (hone (h, r₀ :: g₀) (by simp)) (s.enter h) rfl (by simp [DiffsState.enter] at hlen ⊢; omega)
    have hnext : ∀ hg ∈ gs, s₁.old.keyEq (.num hg.1) = false := fun hg hm => by
      simpa [hold₁] using ne_of_lt (hlt hg hm)
    -- What the run of height `h` leaves for the rest of the loop.
    suffices h₁ : (∀ hg ∈ gs, s₁.blocksDict.has (.num hg.1) = false) ∧
        s₁.i + gs.length ≤ diffs.length ∧
        s₁.blocksDict.entries ++ minedBlocks codec diffs s₁.i gs =
          s.blocksDict.entries ++ minedBlocks codec diffs s.i ((h, r₀ :: g₀) :: gs) by
      obtain ⟨s', h1, h2⟩ := ih (fun x hx => hdec x (List.mem_append_right _ hx)) hok
        (fun hg hm => hone hg (by simp [hm])) s₁ hnext h₁.1 h₁.2.1
      rw [List.map_cons, List.flatten_cons, List.foldlM_append, hfirst, hrun, except_ok_bind]
      exact ⟨s', h1, by rw [h2, h₁.2.2]⟩
    cases hf : (r₀ :: g₀).find? codec.isReward with
    | none =>
      rw [hf] at hmatch
      obtain ⟨hi, hb⟩ := hmatch
      refine ⟨fun hg hm => by rw [hb]; exact hkeys hg (by simp [hm]),
        by simp [hi, DiffsState.enter] at hlen ⊢; omega, ?_⟩
      simp [minedBlocks, hf, hb, hi, DiffsState.enter]
    | some r =>
      rw [hf] at hmatch
      obtain ⟨hi, hb⟩ := hmatch
      rw [PyDict.put_of_not_has (by simpa [DiffsState.enter] using hkeys (h, r₀ :: g₀) (by simp))]
        at hb
      refine ⟨fun hg hm => ?_, by simp [hi, DiffsState.enter] at hlen ⊢; omega, ?_⟩
      · rw [hb]
        simpa [PyDict.has, List.any_append, DiffsState.enter] using
          ⟨by simpa [PyDict.has] using hkeys hg (by simp [hm]), ne_of_lt (hlt hg hm)⟩
      · simp [minedBlocks, hf, hb, hi, DiffsState.enter]

end Runs

/-- **blocktojsondiffs on height-sorted rows with at most one reward row per height.** The
blocks are those of the heights holding a reward row, in height order. A block's mining
transaction carries the difficulty at the count of reward-bearing heights below it, and its
transactions are the normal rows of its height that come before the reward row. -/
theorem blocktojsondiffs_heightRuns (codec : Codec) (rows : List Row) (diffs : List Json)
    (hdec : codec.Decodes rows) (hsorted : rows.Sorted (·.blockHeight ≤ ·.blockHeight))
    (hone : ∀ hg ∈ heightRuns rows, (hg.2.filter codec.isReward).length ≤ 1)
    (hlen : (heightRuns rows).length ≤ diffs.length) :
    blocktojsondiffs codec rows diffs = .ok ⟨minedBlocks codec diffs 0 (heightRuns rows)⟩ := by
  obtain ⟨s', h1, h2⟩ := foldlM_runs (heightRuns rows) (by rwa [heightRuns_join])
    (heightRuns_ok hsorted) hone DiffsState.init
    (fun _ _ => Json.keyEq_null_num _) (fun _ _ => rfl) (by simpa [DiffsState.init] using hlen)
  rw [blocktojsondiffs]
  nth_rewrite 1 [← heightRuns_join rows]
  rw [h1]
  show Except.ok s'.blocksDict = _
  rw [h2]
  rfl

section TwoBlocks
attribute [local semireducible] Rat.add Rat.mul Rat.sub Rat.inv

/-- Two heights, the first with a normal row before its reward row, the second with a reward
row only. -/
theorem blocktojsondiffs_two_blocks :
    blocktojsondiffs Codec.reference
      [⟨1, 0, "a", "b", 0, "n1", "", "", 0, 0, "", ""⟩, ⟨1, 0, "", "m", 0, "w1", "", "", 0, 1, "", ""⟩,
        ⟨2, 0, "", "m", 0, "w2", "", "", 0, 1, "", ""⟩] [.num 7, .num 8] =
      .ok ⟨minedBlocks Codec.reference [.num 7, .num 8] 0
        (heightRuns [⟨1, 0, "a", "b", 0, "n1", "", "", 0, 0, "", ""⟩,
          ⟨1, 0, "", "m", 0, "w1", "", "", 0, 1, "", ""⟩, ⟨2, 0, "", "m", 0, "w2", "", "", 0, 1, "", ""⟩])⟩ :=
  blocktojsondiffs_heightRuns _ _ _ (fun _ _ => rfl) (by decide) (by decide) (by decide)

end TwoBlocks

/-- The blocks as the spec's transaction format adapter describes them. Each
height with a reward row gives a block with the difficulty at the height's own place among all
heights, and with all the normal rows of the height. -/
def specBlocks (codec : Codec) (diffs : List Json) :
    Nat → List (Int × List Row) → List (Json × Json)
  | _, [] => []
  | j, (h, g) :: gs =>
    match g.find? codec.isReward with
    | some r => (.num h, (blockOf .empty (codec.minedDict r (diffs.getD j .null))
        ((g.filter (!codec.isReward ·)).map codec.normalDict)).toJson) ::
        specBlocks codec diffs (j + 1) gs
    | none => specBlocks codec diffs (j + 1) gs

/-- Where every height closes with its reward row, the blocks blocktojsondiffs builds are the
ones the spec describes. -/
theorem minedBlocks_eq_specBlocks (codec : Codec) (diffs : List Json) (runs : List (Int × List Row))
    (hlast : ∀ hg ∈ runs, ∃ pre r, hg.2 = pre ++ [r] ∧ codec.isReward r = true ∧
      ∀ x ∈ pre, codec.isReward x = false) (j : Nat) :
    minedBlocks codec diffs j runs = specBlocks codec diffs j runs := by
  induction runs generalizing j with
  | nil => rfl
  | cons hg runs ih =>
    obtain ⟨h, g⟩ := hg
    obtain ⟨pre, r, rfl, hr, hpre⟩ := hlast (h, g) (by simp)
    have hnone : pre.find? codec.isReward = none := List.find?_eq_none.mpr fun x hx => by simp [hpre x hx]
    have htake : (pre ++ [r]).takeWhile (!codec.isReward ·) = pre := by
      rw [List.takeWhile_append_of_pos (by simpa using hpre)]; simp [hr]
    have hfilter : (pre ++ [r]).filter (!codec.isReward ·) = pre := by
      rw [List.filter_append, List.filter_eq_self.mpr (by simpa using hpre)]; simp [hr]
    simp [minedBlocks, specBlocks, List.find?_append, hnone, hr, htake, hfilter,
      ih (fun hg hm => hlast hg (by simp [hm]))]

section LateNormal
attribute [local semireducible] Rat.add Rat.mul Rat.sub Rat.inv

set_option maxRecDepth 20000 in
/-- Three rows: a height with a normal row only, then a height whose reward row comes before its
normal row. The stored block of height 2 gets the first difficulty and no transactions. -/
theorem blocktojsondiffs_late_normal :
    ¬ ∀ (codec : Codec) (rows : List Row) (diffs : List Json), codec.Decodes rows →
      rows.Sorted (·.blockHeight ≤ ·.blockHeight) →
      (∀ hg ∈ heightRuns rows, (hg.2.filter codec.isReward).length ≤ 1) →
      diffs.length = (heightRuns rows).length →
      blocktojsondiffs codec rows diffs = .ok ⟨specBlocks codec diffs 0 (heightRuns rows)⟩ := by
  intro h
  have := congrArg (fun x => x.toOption.map fun d => d.toJson.dumps)
    (h Codec.reference [⟨1, 0, "a", "b", 0, "n1", "", "", 0, 0, "", ""⟩,
      ⟨2, 0, "", "m", 0, "w2", "", "", 0, 1, "", ""⟩, ⟨2, 0, "a", "b", 0, "n2", "", "", 0, 0, "", ""⟩]
      [.num 7, .num 8] (fun _ _ => rfl) (by decide) (by decide) (by decide))
  revert this
  decide

end LateNormal

/-! ## The keys of the blocks dict

Whatever the order of the rows and however many reward rows a height has, every key
blocktojsondiffs stores is the height of a row it read, and no key is stored twice: a key is
only ever written by an assignment, which overwrites an equal key in place. -/

/-- Every key is the height of one of the rows, and no two keys are equal. -/
def KeysFrom (rows : List Row) (d : PyDict) : Prop :=
  (∀ k ∈ d.keys, ∃ r ∈ rows, k = .num r.blockHeight) ∧ d.keys.Pairwise fun a b => a.keyEq b = false

theorem keysFrom_append {rows : List Row} {d : PyDict} (h : KeysFrom rows d) (more : List Row) :
    KeysFrom (rows ++ more) d :=
  ⟨fun k hk => (h.1 k hk).imp fun _ ⟨hr, he⟩ => ⟨List.mem_append_left _ hr, he⟩, h.2⟩

theorem keysFrom_put {rows : List Row} {d : PyDict} {r : Row} (h : KeysFrom rows d) (hr : r ∈ rows)
    (v : Json) : KeysFrom rows (d.put (.num r.blockHeight) v) := by
  by_cases hk : d.has (.num r.blockHeight)
  · have hkeys : (d.put (.num r.blockHeight) v).keys = d.keys := by
      simp [PyDict.put, hk, PyDict.keys, PyDict.keys_overwrite]
    rw [KeysFrom, hkeys]
    exact h
  · have hkeys : (d.put (.num r.blockHeight) v).keys = d.keys ++ [.num r.blockHeight] := by
      simp [PyDict.put_of_not_has (Bool.eq_false_iff.2 hk), PyDict.keys]
    have hne : ∀ a ∈ d.keys, a.keyEq (.num r.blockHeight) = false := by
      simpa [PyDict.has, PyDict.keys] using hk
    rw [KeysFrom, hkeys, List.pairwise_append]
    refine ⟨fun k hk' => ?_, h.2, List.pairwise_singleton _ _, fun a ha b hb => ?_⟩
    · rcases List.mem_append.1 hk' with hk' | hk'
      · exact h.1 k hk'
      · exact ⟨r, hr, List.mem_singleton.1 hk'⟩
    · rw [List.mem_singleton.1 hb]
      exact hne a ha

section Keys
variable {codec : Codec} {diffs : List Json}

theorem diffsStep_blocksDict {s s' : DiffsState} {r : Row} (h : diffsStep codec diffs s r = .ok s') :
    s'.blocksDict = s.blocksDict ∨ ∃ v, s'.blocksDict = s.blocksDict.put (.num r.blockHeight) v := by
  cases he : codec.legacyError r with
  | some e => rw [diffsStep_undecoded he] at h; cases h
  | none =>
    cases hr : codec.isReward r with
    | false => rw [diffsStep_normal he hr] at h; cases h; exact .inl rfl
    | true =>
      cases hd : diffs[s.i]? with
      | none => rw [diffsStep_short he hr hd] at h; cases h
      | some d => rw [diffsStep_reward he hr hd] at h; cases h; exact .inr ⟨_, rfl⟩

theorem foldlM_keysFrom (rows : List Row) : ∀ (s s' : DiffsState) (pre : List Row),
    KeysFrom pre s.blocksDict → rows.foldlM (diffsStep codec diffs) s = .ok s' →
    KeysFrom (pre ++ rows) s'.blocksDict := by
  induction rows with
  | nil => intro s s' pre h e; cases e; simpa using h
  | cons r rows ih =>
    intro s s' pre h e
    rw [List.foldlM_cons] at e
    cases hs : diffsStep codec diffs s r with
    | error => rw [hs] at e; cases e
    | ok s₁ =>
      rw [hs, except_ok_bind] at e
      have hk : KeysFrom (pre ++ [r]) s₁.blocksDict := by
        rcases diffsStep_blocksDict hs with hb | ⟨v, hb⟩ <;> rw [hb]
        · exact keysFrom_append h _
        · exact keysFrom_put (keysFrom_append h _) (by simp) v
      simpa using ih s₁ s' (pre ++ [r]) hk e

/-- **The blocks dict is keyed by distinct heights of the rows read**, for every row list. -/
theorem blocktojsondiffs_keysFrom {rows : List Row} {d : PyDict}
    (h : blocktojsondiffs codec rows diffs = .ok d) : KeysFrom rows d := by
  rw [blocktojsondiffs] at h
  cases hf : rows.foldlM (diffsStep codec diffs) .init with
  | error => rw [hf] at h; cases h
  | ok s =>
    rw [hf] at h
    cases h
    simpa using foldlM_keysFrom rows .init s [] ⟨by simp [DiffsState.init, PyDict.empty, PyDict.keys],
      by simp [DiffsState.init, PyDict.empty, PyDict.keys]⟩ hf

/-! ## Rows in any order

For every order of the rows, the loop raises IndexError exactly when it meets more reward rows
than there are difficulties. Otherwise it stores one block per height of a reward row, in the
order in which those heights first close a block: a later block of a height overwrites the
earlier one in place. -/

/-- The keys of a dict after assignments under the keys `hs` in turn, each new key going last
and a known one keeping its place. -/
def insertKeys (ks : List Int) : List Int → List Int
  | [] => ks
  | h :: hs => insertKeys (if h ∈ ks then ks else ks ++ [h]) hs

example : insertKeys [] [2, 1, 2, 3] = [2, 1, 3] := by decide

/-- Among integer keys, an integer is found exactly when it is listed. -/
theorem any_keyEq_num (ks : List Int) (h : Int) :
    (ks.map fun a : Int => Json.num a).any (·.keyEq (.num h)) = decide (h ∈ ks) := by
  induction ks with
  | nil => rfl
  | cons a ks ih =>
    rw [List.map_cons, List.any_cons, ih, Json.keyEq_num]
    by_cases hh : h = a
    · subst hh
      simp
    · simp [hh, Ne.symm hh]

theorem PyDict.keys_put_num {d : PyDict} {ks : List Int} (hks : d.keys = ks.map fun h => .num h)
    (h : Int) (v : Json) :
    (d.put (.num h) v).keys = (if h ∈ ks then ks else ks ++ [h]).map fun h => .num h := by
  rw [PyDict.keys_put, PyDict.has_eq_any_keys, hks, any_keyEq_num]
  by_cases hm : h ∈ ks <;> simp [hm]

/-- A normal row leaves the counter and the blocks dict as they were. -/
theorem diffsStep_normal_frame (diffs : List Json) {r : Row} (hdec : codec.legacyError r = none)
    (hr : codec.isReward r = false) (s : DiffsState) :
    ∃ s₁, diffsStep codec diffs s r = .ok s₁ ∧ s₁.i = s.i ∧ s₁.blocksDict = s.blocksDict :=
  ⟨_, diffsStep_normal hdec hr, rfl, rfl⟩

/-- A reward row with a difficulty left advances the counter and assigns its height. -/
theorem diffsStep_reward_frame {r : Row} (hdec : codec.legacyError r = none)
    (hr : codec.isReward r = true) {s : DiffsState} (hi : s.i < diffs.length) :
    ∃ s₁ v, diffsStep codec diffs s r = .ok s₁ ∧ s₁.i = s.i + 1 ∧
      s₁.blocksDict = s.blocksDict.put (.num r.blockHeight) v :=
  ⟨_, _, diffsStep_reward hdec hr (List.getElem?_eq_getElem hi), rfl, rfl⟩

theorem foldlM_any_order (rows : List Row) (hdec : codec.Decodes rows) :
    ∀ (s : DiffsState) (ks : List Int),
    s.blocksDict.keys = ks.map (fun h => .num h) → s.i ≤ diffs.length →
    (diffs.length < s.i + (rows.filter codec.isReward).length ∧
        rows.foldlM (diffsStep codec diffs) s = .error .indexError) ∨
      (s.i + (rows.filter codec.isReward).length ≤ diffs.length ∧
        ∃ s', rows.foldlM (diffsStep codec diffs) s = .ok s' ∧ s'.blocksDict.keys =
          (insertKeys ks ((rows.filter codec.isReward).map Row.blockHeight)).map fun h => .num h) := by
  induction rows with
  | nil => intro s ks hks hi; exact .inr ⟨by simpa using hi, s, rfl, hks⟩
  | cons r rows ih =>
    intro s ks hks hi
    have hr₀ := hdec r (List.mem_cons_self _ _)
    have ih := ih fun x hx => hdec x (List.mem_cons_of_mem _ hx)
    rw [List.foldlM_cons]
    cases hr : codec.isReward r with
    | false =>
      obtain ⟨s₁, h1, hi1, hb1⟩ := diffsStep_normal_frame diffs hr₀ hr s
      rw [h1, except_ok_bind]
      simp only [List.filter_cons, hr, Bool.false_eq_true, if_false]
      rw [← hi1]
      exact ih s₁ ks (hb1 ▸ hks) (hi1 ▸ hi)
    | true =>
      simp only [List.filter_cons, hr, if_true, List.length_cons, List.map_cons, insertKeys]
      by_cases hlt : s.i < diffs.length
      · obtain ⟨s₁, v, h1, hi1, hb1⟩ := diffsStep_reward_frame hr₀ hr hlt
        rw [h1, except_ok_bind]
        rcases ih s₁ _ (hb1 ▸ PyDict.keys_put_num hks _ v) (by omega) with ⟨h2, h3⟩ | ⟨h2, h3⟩
        · exact .inl ⟨by omega, h3⟩
        · exact .inr ⟨by omega, h3⟩
      · rw [diffsStep_short hr₀ hr (List.getElem?_eq_none_iff.2 (Nat.le_of_not_lt hlt))]
        exact .inl ⟨by omega, rfl⟩

/-- The outcome of blocktojsondiffs, without the keys: IndexError when the reward rows outnumber
the difficulties, a dict otherwise. -/
theorem blocktojsondiffs_outcome (codec : Codec) (rows : List Row) (diffs : List Json)
    (hdec : codec.Decodes rows) :
    (diffs.length < (rows.filter codec.isReward).length →
        blocktojsondiffs codec rows diffs = .error .indexError) ∧
      ((rows.filter codec.isReward).length ≤ diffs.length →
        ∃ d, blocktojsondiffs codec rows diffs = .ok d) := by
  rcases foldlM_any_order rows hdec .init [] rfl (Nat.zero_le _) with ⟨h1, h2⟩ | ⟨h1, s', h2, -⟩ <;>
    simp only [DiffsState.init, Nat.zero_add] at h1 <;> rw [blocktojsondiffs, h2]
  · exact ⟨fun _ => rfl, fun h => absurd h1 (not_lt.2 h)⟩
  · exact ⟨fun h => absurd h1 (not_le.2 h), fun _ => ⟨_, rfl⟩⟩

/-- **blocktojsondiffs on rows in any order.** It raises IndexError exactly when the rows hold
more reward rows than there are difficulties; otherwise its dict is keyed by the heights of the
reward rows, each once, in the order in which they first appear. -/
theorem blocktojsondiffs_any_order (codec : Codec) (rows : List Row) (diffs : List Json)
    (hdec : codec.Decodes rows) :
    (diffs.length < (rows.filter codec.isReward).length ∧
        blocktojsondiffs codec rows diffs = .error .indexError) ∨
      ((rows.filter codec.isReward).length ≤ diffs.length ∧ ∃ d,
        blocktojsondiffs codec rows diffs = .ok d ∧
          d.keys = (insertKeys [] ((rows.filter codec.isReward).map Row.blockHeight)).map
            fun h => .num h) := by
  rcases foldlM_any_order rows hdec .init [] rfl (Nat.zero_le _) with ⟨h1, h2⟩ | ⟨h1, s', h2, h3⟩
  · exact .inl ⟨by simpa [DiffsState.init] using h1, by rw [blocktojsondiffs, h2]; rfl⟩
  · exact .inr ⟨by simpa [DiffsState.init] using h1, s'.blocksDict,
      by rw [blocktojsondiffs, h2]; rfl, h3⟩

end Keys

section DescendingHeights
attribute [local semireducible] Rat.add Rat.mul Rat.sub Rat.inv

/-- Reward rows of heights 2 and then 1: the dict keeps that order. -/
theorem blocktojsondiffs_any_order_descending : ∃ d, blocktojsondiffs Codec.reference
      [⟨2, 0, "", "m", 0, "w2", "", "", 0, 1, "", ""⟩, ⟨1, 0, "", "m", 0, "w1", "", "", 0, 1, "", ""⟩]
      [.num 7, .num 8] = .ok d ∧ d.keys = ([2, 1] : List Int).map fun h => .num h := by
  rcases blocktojsondiffs_any_order Codec.reference
      [⟨2, 0, "", "m", 0, "w2", "", "", 0, 1, "", ""⟩, ⟨1, 0, "", "m", 0, "w1", "", "", 0, 1, "", ""⟩]
      [.num 7, .num 8] (fun _ _ => rfl) with ⟨h, -⟩ | ⟨-, d, hd, hk⟩
  · exact absurd h (by decide)
  · exact ⟨d, hd, hk.trans (congrArg _ (by decide))⟩

end DescendingHeights

/-! ## Difficulties the rows do not reach

The loop reads the difficulties by its counter, from the front: once it has returned, the
difficulties after the ones it read play no part. -/

section Extra
variable {codec : Codec} {diffs : List Json}

theorem diffsStep_append_ok {s s' : DiffsState} {r : Row} (extra : List Json)
    (h : diffsStep codec diffs s r = .ok s') : diffsStep codec (diffs ++ extra) s r = .ok s' := by
  cases he : codec.legacyError r with
  | some e => rw [diffsStep_undecoded he] at h; cases h
  | none =>
    cases hr : codec.isReward r with
    | false => rwa [diffsStep_normal he hr] at h ⊢
    | true =>
      cases hd : diffs[s.i]? with
      | none => rw [diffsStep_short he hr hd] at h; cases h
      | some d =>
        have hi : s.i < diffs.length := (List.getElem?_eq_some_iff.1 hd).1
        rw [diffsStep_reward he hr hd] at h
        rwa [diffsStep_reward he hr ((List.getElem?_append_left hi).trans hd)]

theorem foldlM_append_ok (extra : List Json) (rows : List Row) : ∀ {s s' : DiffsState},
    rows.foldlM (diffsStep codec diffs) s = .ok s' →
      rows.foldlM (diffsStep codec (diffs ++ extra)) s = .ok s' := by
  induction rows with
  | nil => intro _ _ h; rwa [List.foldlM_nil] at h ⊢
  | cons r rows ih =>
    intro s s' h
    rw [List.foldlM_cons] at h ⊢
    cases h₁ : diffsStep codec diffs s r with
    | error => rw [h₁] at h; cases h
    | ok s₁ =>
      rw [h₁, except_ok_bind] at h
      rw [diffsStep_append_ok extra h₁, except_ok_bind]
      exact ih h

/-- More difficulties than the rows use leave the dict as it was. -/
theorem blocktojsondiffs_append_ok {rows : List Row} {d : PyDict} (extra : List Json)
    (h : blocktojsondiffs codec rows diffs = .ok d) :
    blocktojsondiffs codec rows (diffs ++ extra) = .ok d := by
  unfold blocktojsondiffs at h ⊢
  cases h₁ : rows.foldlM (diffsStep codec diffs) .init with
  | error => rw [h₁] at h; cases h
  | ok s => rw [foldlM_append_ok extra rows h₁]; rw [h₁] at h; exact h

end Extra

/-! ## The blocks, for rows in any order

`block_dict` and `normal_transactions` are cleared only when the height changes, so a block is
built from the run of rows of its height that its reward row closes: the normal rows of the run
before it, and a mining transaction replacing the one an earlier reward row of the run set.
The block stored under a height is the one its last reward row built. The counter `i` moves
on at every reward row, whatever its height, so the `i`-th difficulty goes to the `i`-th reward
row: a second reward row at one height moves every later block onto the next difficulty. With
the keys of `blocktojsondiffs_any_order` this is the whole dict. -/

/-- The normal rows of the run of height-`h` rows that `before` ends with. -/
def runNormals (codec : Codec) (before : List Row) (h : Int) : List Row :=
  ((before.reverse.takeWhile fun r => r.blockHeight = h).reverse).filter fun r => !codec.isReward r

theorem runNormals_nil (codec : Codec) (h : Int) : runNormals codec [] h = [] := rfl

theorem runNormals_append (codec : Codec) (before : List Row) (r : Row) (h : Int) :
    runNormals codec (before ++ [r]) h =
      if r.blockHeight = h then
        runNormals codec before h ++ (if codec.isReward r then [] else [r])
      else [] := by
  by_cases hh : r.blockHeight = h
  · cases hr : codec.isReward r <;> simp [runNormals, List.takeWhile_cons, hh, hr]
  · simp [runNormals, List.takeWhile_cons, hh]

/-- The shapes of block_dict: cleared, or holding a block. -/
def BlockShape (d : PyDict) : Prop :=
  d = .empty ∨ ∃ m n, d = ⟨[(.str "mining_tx", m), (.str "transactions", n)]⟩

/-- Setting the two fields of a block on a dict that is cleared or holds a block gives the same
dict. -/
theorem blockOf_shape {d : PyDict} (hd : BlockShape d) (mining : PyDict) (normals : List PyDict) :
    blockOf d mining normals = blockOf .empty mining normals := by
  rcases hd with rfl | ⟨m, n, rfl⟩
  · rfl
  · simp [blockOf, PyDict.put, PyDict.has, PyDict.overwrite, PyDict.empty]

/-- The block left under height `h`, reading the rows after `before` with the counter at `i`:
the block of the last reward row of height `h`, with the difficulty at its count and the normal
rows of its run before it; none when no reward row has the height. -/
def lastBlock (codec : Codec) (diffs : List Json) (h : Int) :
    Nat → List Row → List Row → Option Json
  | _, _, [] => none
  | i, before, r :: rows =>
    if codec.isReward r then
      (lastBlock codec diffs h (i + 1) (before ++ [r]) rows).or
        (if r.blockHeight = h then some (blockOf .empty (codec.minedDict r (diffs.getD i .null))
          ((runNormals codec before h).map codec.normalDict)).toJson else none)
    else lastBlock codec diffs h i (before ++ [r]) rows

/-- The loop state after the rows `before`: block_dict holds a block or nothing, and a row of
height `h` starts from the normal rows of the run of height `h` that `before` ends with. -/
def DiffsState.Tracks (codec : Codec) (s : DiffsState) (before : List Row) : Prop :=
  BlockShape s.blockDict ∧
    ∀ h : Int, s.normalsAt (.num h) = (runNormals codec before h).map codec.normalDict

section Whole
variable {codec : Codec} {diffs : List Json}

theorem tracks_init : DiffsState.init.Tracks codec [] :=
  ⟨.inl rfl, fun h => by simp [DiffsState.normalsAt, DiffsState.init, runNormals_nil]⟩

theorem BlockShape.dictAt {s : DiffsState} (hs : BlockShape s.blockDict) (h : Json) :
    BlockShape (s.dictAt h) := by
  unfold DiffsState.dictAt
  split
  · exact .inl rfl
  · exact hs

theorem blockShape_blockOf (mining : PyDict) (normals : List PyDict) :
    BlockShape (blockOf .empty mining normals) := .inr ⟨_, _, rfl⟩

/-- After a row of height `h'`, the row of height `h` starts from the run's normal rows when
`h = h'` and from none otherwise. -/
theorem normalsAt_after {before : List Row} (r : Row)
    (ns : List PyDict) (hns : ns = (runNormals codec (before ++ [r]) r.blockHeight).map codec.normalDict)
    (b : PyDict) (bd : PyDict) (i : Nat) (h : Int) :
    DiffsState.normalsAt ⟨i, bd, b, ns, .num r.blockHeight⟩ (.num h) =
      (runNormals codec (before ++ [r]) h).map codec.normalDict := by
  by_cases hh : r.blockHeight = h
  · subst hh
    simp [DiffsState.normalsAt, hns]
  · have : ((r.blockHeight : ℚ) == (h : ℚ)) = false := by simpa using hh
    simp [DiffsState.normalsAt, Json.keyEq_num, this, runNormals_append, hh]

theorem tracks_normal {s : DiffsState} {before : List Row} (hs : s.Tracks codec before) {r : Row}
    (hr : codec.isReward r = false) :
    DiffsState.Tracks codec ⟨s.i, s.blocksDict, s.dictAt (.num r.blockHeight),
      s.normalsAt (.num r.blockHeight) ++ [codec.normalDict r], .num r.blockHeight⟩
      (before ++ [r]) :=
  ⟨hs.1.dictAt _, normalsAt_after r _ (by simp [runNormals_append, hr, hs.2]) _ _ _⟩

theorem tracks_reward {s : DiffsState} {before : List Row} (hs : s.Tracks codec before) {r : Row}
    (hr : codec.isReward r = true) (m : PyDict) (bd : PyDict) :
    DiffsState.Tracks codec ⟨s.i + 1, bd, blockOf (s.dictAt (.num r.blockHeight)) m
      (s.normalsAt (.num r.blockHeight)), s.normalsAt (.num r.blockHeight), .num r.blockHeight⟩
      (before ++ [r]) :=
  ⟨by rw [blockOf_shape (hs.1.dictAt _)]; exact blockShape_blockOf _ _,
    normalsAt_after r _ (by simp [runNormals_append, hr, hs.2]) _ _ _⟩

theorem foldlM_lastBlock (h : Int) (rows : List Row) : ∀ (s s' : DiffsState) (before : List Row),
    s.Tracks codec before → rows.foldlM (diffsStep codec diffs) s = .ok s' →
      s'.blocksDict.find? (.num h) =
        (lastBlock codec diffs h s.i before rows).or (s.blocksDict.find? (.num h)) := by
  induction rows with
  | nil => intro s s' before _ hs; cases hs; rfl
  | cons r rows ih =>
    intro s s' before ht hs
    rw [List.foldlM_cons] at hs
    cases he : codec.legacyError r with
    | some e => rw [diffsStep_undecoded he] at hs; cases hs
    | none =>
    cases hr : codec.isReward r with
    | false =>
      rw [diffsStep_normal he hr, except_ok_bind] at hs
      simpa [lastBlock, hr] using ih _ _ _ (tracks_normal ht hr) hs
    | true =>
      cases hd : diffs[s.i]? with
      | none => rw [diffsStep_short he hr hd] at hs; cases hs
      | some d =>
        rw [diffsStep_reward he hr hd, except_ok_bind] at hs
        have hdi : diffs.getD s.i .null = d := by simp [List.getD_eq_getElem?_getD, hd]
        rw [ih _ _ _ (tracks_reward ht hr _ _) hs]
        simp only [lastBlock, hr, if_true, PyDict.find?_put_num, Int.cast_inj, hdi,
          blockOf_shape (ht.1.dictAt _), ht.2]
        by_cases hh : r.blockHeight = h
        · subst hh
          cases lastBlock codec diffs r.blockHeight (s.i + 1) (before ++ [r]) rows <;> simp
        · simp only [hh, if_false, Ne.symm hh]
          cases lastBlock codec diffs h (s.i + 1) (before ++ [r]) rows <;> simp

/-- **The blocks blocktojsondiffs stores, for rows in any order.** When it returns, the value
under every height is the block of the height's last reward row: its mining transaction with
the difficulty at that row's count among the reward rows, and its transactions the normal rows
of its run that come before it. A height without a reward row has no entry. -/
theorem blocktojsondiffs_blocks (codec : Codec) (rows : List Row) (diffs : List Json) {d : PyDict}
    (hd : blocktojsondiffs codec rows diffs = .ok d) (h : Int) :
    d.find? (.num h) = lastBlock codec diffs h 0 [] rows := by
  unfold blocktojsondiffs at hd
  cases hs : rows.foldlM (diffsStep codec diffs) .init with
  | error => rw [hs] at hd; cases hd
  | ok s' =>
    rw [hs] at hd
    cases hd
    rw [foldlM_lastBlock h rows _ _ [] tracks_init hs]
    exact Option.or_none

end Whole

section LateNormalBlock
attribute [local semireducible] Rat.add Rat.mul Rat.sub Rat.inv

/-- A normal row after its block's reward row is left out, and the block takes the first
difficulty. -/
theorem blocktojsondiffs_blocks_late_normal : ∃ d, blocktojsondiffs Codec.reference
      [⟨1, 0, "a", "b", 0, "n1", "", "", 0, 0, "", ""⟩, ⟨2, 0, "", "m", 0, "w2", "", "", 0, 1, "", ""⟩,
        ⟨2, 0, "a", "b", 0, "n2", "", "", 0, 0, "", ""⟩] [.num 7, .num 8] = .ok d ∧
    d.find? (.num 2) = some (blockOf .empty
      (Codec.reference.minedDict ⟨2, 0, "", "m", 0, "w2", "", "", 0, 1, "", ""⟩ (.num 7)) []).toJson := by
  obtain ⟨d, hd⟩ := (blocktojsondiffs_outcome Codec.reference
    [⟨1, 0, "a", "b", 0, "n1", "", "", 0, 0, "", ""⟩, ⟨2, 0, "", "m", 0, "w2", "", "", 0, 1, "", ""⟩,
      ⟨2, 0, "a", "b", 0, "n2", "", "", 0, 0, "", ""⟩] [.num 7, .num 8] fun _ _ => rfl).2 (by decide)
  exact ⟨d, hd, (blocktojsondiffs_blocks _ _ _ hd 2).trans rfl⟩

end LateNormalBlock

end BismuthApi
