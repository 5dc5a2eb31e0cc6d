import EnvTemplate.Text.Cut

namespace EnvTemplate.Text

variable {s t : String} {l : List String}

def OneLine (s : String) : Prop := '\n' ∉ s.toList

instance (s : String) : Decidable (OneLine s) := inferInstanceAs (Decidable ('\n' ∉ s.toList))

def lines (s : String) : List String := (s.toList.splitOn '\n').map String.ofList

theorem oneLine_append_iff : OneLine (s ++ t) ↔ OneLine s ∧ OneLine t := by
  simp [OneLine]

theorem oneLine_intercalate (hs : OneLine s) (h : ∀ t ∈ l, OneLine t) :
    OneLine (s.intercalate l) := by
  induction l with
  | nil => exact List.not_mem_nil
  | cons first rest ih =>
    cases rest with
    | nil => simpa [OneLine] using h first List.mem_cons_self
    | cons second rest =>
      have hr := ih fun t ht => h t (List.mem_cons_of_mem _ ht)
      have he : s.intercalate (first :: second :: rest) =
          first ++ s ++ s.intercalate (second :: rest) := by
        apply String.toList_inj.mp
        simp
      rw [he, oneLine_append_iff, oneLine_append_iff]
      exact ⟨⟨h first List.mem_cons_self, hs⟩, hr⟩

/-- Texts written below each other are the lines of the whole if and only if each is one line. -/
theorem lines_intercalate_iff (hl : l ≠ []) : lines ("\n".intercalate l) = l ↔
    ∀ s ∈ l, OneLine s := by
  constructor
  · intro h s hs
    rw [← h] at hs
    obtain ⟨piece, hp, rfl⟩ := List.mem_map.mp hs
    simpa [OneLine] using (of_mem_splitOn hp).1
  · intro h
    have hsplit : (['\n'].intercalate (l.map String.toList)).splitOn '\n' = l.map String.toList :=
      List.splitOn_intercalate '\n' (by simpa [OneLine] using h) (by simpa using hl)
    have ht : ("\n".intercalate l).toList = ['\n'].intercalate (l.map String.toList) := by simp
    rw [lines, ht, hsplit, List.map_map]
    simp [Function.comp_def]

theorem lines_join (h : ∀ s ∈ l, OneLine s) :
    lines (String.join (l.map (· ++ "\n"))) = l ++ [""] := by
  induction l with
  | nil => rfl
  | cons first rest ih =>
    obtain ⟨hf, hr⟩ := List.forall_mem_cons.mp h
    have hsplit : (String.join ((first :: rest).map (· ++ "\n"))).toList =
        first.toList ++ '\n' :: (String.join (rest.map (· ++ "\n"))).toList := by
      simp [String.join_cons]
    have hl : lines (String.join ((first :: rest).map (· ++ "\n"))) =
        first :: lines (String.join (rest.map (· ++ "\n"))) := by
      rw [lines, hsplit, List.splitOn_append_cons_self_of_not_mem hf, List.map_cons,
        String.ofList_toList, lines]
    rw [hl, ih hr, List.cons_append]

end EnvTemplate.Text
