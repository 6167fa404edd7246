import BismuthApi.Framing

/-!
# The single lookups

api_getaddressinfo and api_getblockfromhashextra answer one question each, from several store
calls. api_getaddressinfo degrades: a store that raises turns its reply into the default
`{known: False, pubkey: ''}`, or keeps the `known` it already had, and only the validator
raising leaves the client without a reply. api_getblockfromhashextra reads the first block of
the store's blocks dict and sets three fields on it, with Python's dict assignment: a field the
block already has keeps its place, and a field it lacks goes last.
-/

namespace BismuthApi

open Api

section Lookups
variable (config : Config) (codec : Codec)

/-- **api_getaddressinfo on every world.** Dispatched, it reads the address, returns None and
sends: nothing when the validator raised; the default reply when the validator rejected the
address or the store's known_address raised; otherwise the store's known_address answer with
its pubkeyget answer, or with '' when pubkeyget raised. -/
theorem getaddressinfo_best_effort (w : World) (address : Json) (vs sent : List Json) (t : Nat) :
    ∃ t', (dispatch config codec "api_getaddressinfo").run w ⟨address :: vs, sent, t⟩ =
      (.ok none, ⟨vs, sent ++ (match w.backend t (.addressIsValid address) with
        | .error _ => []
        | .ok false => [addressInfo (.bool false) (.str "")]
        | .ok true => [match w.backend (t + 1) (.knownAddress address) with
          | .error _ => addressInfo (.bool false) (.str "")
          | .ok known => addressInfo known (match w.backend (t + 2) (.pubkeyget address) with
            | .ok pubkey => pubkey
            | .error _ => .str "")]), t'⟩) := by
  have hl : (handlers config codec).lookup "api_getaddressinfo" = some apiGetaddressinfo := rfl
  simp only [dispatch, callMethod, hl, apiGetaddressinfo, addressInfoReply, storedInfo, tryCatch_eq]
  rw [run_tryCatch, run_bind, run_receive_bind, run_tryCatch,
    run_perform_bind_world (.addressIsValid address) _ _ ⟨rfl, rfl⟩]
  cases hv : w.backend t (.addressIsValid address) with
  | error => simp [World.answer, hv]
  | ok valid =>
    cases valid
    · simp [World.answer, hv]
    · cases hk : w.backend (t + 1) (.knownAddress address) <;>
        cases hp : w.backend (t + 2) (.pubkeyget address) <;>
        simp [run_bind, run_tryCatch, run_map, Session.step, World.answer, hv, hk, hp]

end Lookups

/-! ## The block with its neighbours -/

/-- A dict's fields followed by the new fields it lacks, none twice when the dict has none
twice. -/
theorem nodup_fields_append {kvs : List (String × Json)} (h : (kvs.map Prod.fst).Nodup)
    {fs : List String} (hfs : fs.Nodup) :
    ((kvs.map fun kv : String × Json => Json.str kv.1) ++
      ((fs.filter fun f => (kvs.lookup f).isNone).map Json.str)).Nodup := by
  have hinj : Function.Injective Json.str := fun _ _ h => Json.str.inj h
  refine List.nodup_append.2 ⟨?_, (hfs.filter _).map hinj, fun x hx hx' => ?_⟩
  · simpa only [List.map_map] using h.map hinj
  · obtain ⟨kv, hkv, rfl⟩ := List.mem_map.1 hx
    obtain ⟨f, hf, hfe⟩ := List.mem_map.1 hx'
    rw [Json.str.inj hfe] at hf
    have hnone : kvs.lookup kv.1 = none := by simpa using (List.mem_filter.1 hf).2
    simpa using List.lookup_eq_none_iff.1 hnone kv hkv

section Extra
variable (w : World) (blockHash : Json) (vs sent : List Json) (t : Nat)
  {blocks : PyDict} {k : Json} {kvs : List (String × Json)} {rest : List (Json × Json)}
  {hv dv previous next : Json} {h : ℚ} {d : Int}
  (hb : w.backend t (.blockFromHash blockHash) = .ok blocks)
  (hfirst : blocks.entries = (k, .obj kvs) :: rest)
  (hh : kvs.lookup "block_height" = some hv) (hnum : pyNum hv = .ok h)
  (hp : w.backend (t + 1) (.blockHashForHeight (h - 1)) = .ok previous)
  (hn : w.backend (t + 2) (.blockHashForHeight (h + 1)) = .ok next)
  (hd : w.backend (t + 3) (.difficultyForHeight hv) = .ok dv) (hint : pyInt dv = .ok d)
include hb hfirst hh hnum hp hn hd hint

theorem run_apiGetblockfromhashextra :
    apiGetblockfromhashextra.run w ⟨blockHash :: vs, sent, t⟩ =
      (.ok (), ⟨vs, sent ++ [((((PyDict.ofFields kvs).put (.str "previous_block_hash") previous).put
        (.str "next_block_hash") next).put (.str "difficulty") (.num d)).toJson], t + 4⟩) := by
  have hget : (PyDict.ofFields kvs).get (.str "block_height") = .ok hv :=
    PyDict.get_of_find? rfl ((PyDict.find?_ofFields kvs _).trans hh)
  have hsub : pySub hv (.num 1) = .ok (h - 1) := by simp [pySub, hnum]
  have hadd : pyAdd hv (.num 1) = .ok (h + 1) := by simp [pyAdd, hnum]
  simp only [apiGetblockfromhashextra, run_receive_bind, Call.isReceive, Call.isSend, and_self,
    run_perform_bind_world, World.answer, run_lift_bind, run_send, hb, firstValue, hfirst,
    List.head?_cons, Json.asDict, hget, hsub, hadd, hp, hn, hd, hint]

end Extra

/-- A store whose blocks dict for every hash holds the block at height 5, whose hash for a
height is the height itself, and whose difficulty is 7. -/
def neighbourWorld : World :=
  ⟨fun _ => ⟨[], []⟩, fun _ c => match c with
    | .blockFromHash _ => .ok ⟨[(.num 5, .obj [("block_height", .num 5)])]⟩
    | .blockHashForHeight h => .ok (.num h)
    | .difficultyForHeight _ => .ok (.num 7)
    | _ => .error .external⟩

end BismuthApi
