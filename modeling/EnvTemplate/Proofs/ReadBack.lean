import EnvTemplate.Proofs.Run

namespace EnvTemplate.Cache

theorem ofList_ne_empty {l : List (String × String)} (h : l ≠ []) : OrderedMap.ofList l ≠ ∅ := by
  obtain ⟨p, hp⟩ := List.exists_mem_of_ne_nil l h
  intro he
  have hk : p.1 ∈ (OrderedMap.ofList l).keys :=
    OrderedMap.mem_keys_ofList.mpr (List.mem_map_of_mem hp)
  rw [he] at hk
  exact List.not_mem_nil hk

/-- What a successful write stores reads back as the passed values exactly if each of their keys
is one that a line can state and what the path leads to may be read. The error of a write that fails
tells what it leaves. -/
theorem read?_write_iff (cache : Cache) (verdicts : Verdicts) (tree : FileTree) :
    match cache.write verdicts tree with
    | (.ok _, changed) =>
      cache.read? changed = some (OrderedMap.ofList verdicts.passed) ↔
        ∀ p ∈ verdicts.passed, EnvFile.IsKey p.1 ∧ tree.mayRead cache.path
    | (.error error, changed) => cache.Residue (rendered verdicts) tree changed error := by
  split
  · rename_i changed hw
    obtain ⟨hk, place, location, hs⟩ := write_ok hw
    rw [hs.read?, Option.some_inj]
    by_cases hm : tree.mayRead cache.path
    · rw [if_pos hm, EnvFile.parse_render_eq_iff fun p hp => isValue_of_keeps (hk p hp)]
      simp only [hm, and_true]
    · rw [if_neg hm]
      simp only [hm, Bool.false_eq_true, and_false]
      constructor
      · intro he p hp
        exact ofList_ne_empty (List.ne_nil_of_mem hp) he.symm
      · intro hn
        rw [List.eq_nil_iff_forall_not_mem.mpr hn]
        rfl
  · rename_i error changed hw
    exact write_error hw

/-- Only values are looked at before a write, so a line break in a key is written, and what follows
it reads back as a key of its own. -/
theorem line_break_in_key_reads_back_as_other_key :
    let cache := Cache.ofDirectory (Path.ofText ".")
    let verdicts : Verdicts := [⟨"A\nPATH", "/evil", .ok⟩]
    let written := cache.write verdicts FileTree.empty
    verdicts.passed = [("A\nPATH", "/evil")] ∧ written.1 = .ok () ∧
      cache.read? written.2 = some (OrderedMap.ofList [("PATH", "/evil")]) ∧
      cache.read? written.2 ≠ some (OrderedMap.ofList verdicts.passed) := by
  decide +kernel

/-- A value is kept exactly if the line that is written for it states it and nothing else, but for
values with a carriage return inside, which are refused although such a line states them too. -/
theorem keeps_iff_states_line {key : String} (hk : EnvFile.IsKey key) (value : String) :
    keeps value ↔
      (EnvFile.parse (EnvFile.line key value)).entries = [(key, value)] ∧
        '\r' ∉ value.toList := by
  constructor
  · intro h
    exact ⟨EnvFile.parse_line hk (isValue_of_keeps h), (keeps_iff.mp h).2.1⟩
  · rintro ⟨hp, hr⟩
    have hm : (key, value) ∈ (EnvFile.parse (EnvFile.line key value)).entries := by
      rw [hp]
      exact List.mem_cons_self
    obtain ⟨-, hv⟩ := EnvFile.clean_of_mem_parse hm
    exact keeps_iff.mpr ⟨hv.no_break, hr, hv.trimmed⟩

theorem keeps_iff_states_line_of_return :
    EnvFile.IsKey "A\rB" ∧
      (keeps "x = y" ∧ (EnvFile.parse (EnvFile.line "A\rB" "x = y")).entries =
        [("A\rB", "x = y")]) ∧
      ¬keeps "x\ry" ∧ (EnvFile.parse (EnvFile.line "A\rB" "x\ry")).entries =
        [("A\rB", "x\ry")] := by
  have hk : EnvFile.IsKey "A\rB" := ⟨by decide, by decide, by decide, by decide⟩
  have hkept : keeps "x = y" := by decide
  have hr : '\r' ∈ "x\ry".toList := by decide
  refine ⟨hk, ⟨hkept, ((keeps_iff_states_line hk _).mp hkept).1⟩, fun h => ?_, by decide +kernel⟩
  exact ((keeps_iff_states_line hk _).mp h).2 hr

end EnvTemplate.Cache
