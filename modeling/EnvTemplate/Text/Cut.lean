namespace EnvTemplate.Text

def cut (sep : Char) : List Char → Option (List Char × List Char)
  | [] => none
  | c :: s => if c = sep then some ([], s) else (cut sep s).map fun (a, b) => (c :: a, b)

def cutLast (sep : Char) (s : List Char) : Option (List Char × List Char) :=
  (cut sep s.reverse).map fun (b, a) => (a.reverse, b.reverse)

theorem cut_append (sep : Char) {a : List Char} (h : sep ∉ a) (b : List Char) :
    cut sep (a ++ sep :: b) = some (a, b) := by
  induction a with
  | nil => simp [cut]
  | cons c a ih =>
    obtain ⟨hc, ha⟩ : sep ≠ c ∧ sep ∉ a := by simpa using h
    simp [cut, Ne.symm hc, ih ha]

theorem cut_eq_none_iff {sep : Char} {s : List Char} : cut sep s = none ↔ sep ∉ s := by
  induction s with
  | nil => simp [cut]
  | cons c s ih =>
    by_cases hc : c = sep
    · simp [cut, hc]
    · simp [cut, hc, ih, Ne.symm (a := c) hc]

theorem cut_eq_some_iff {sep : Char} {s a b : List Char} :
    cut sep s = some (a, b) ↔ s = a ++ sep :: b ∧ sep ∉ a := by
  constructor
  · induction s generalizing a with
    | nil => simp [cut]
    | cons c s ih =>
      by_cases hc : c = sep
      · simp only [cut, hc, if_true, Option.some.injEq, Prod.mk.injEq]
        rintro ⟨rfl, rfl⟩
        simp
      · simp only [cut, hc, if_false, Option.map_eq_some_iff, Prod.exists, Prod.mk.injEq]
        rintro ⟨a', b', h, rfl, rfl⟩
        obtain ⟨rfl, ha⟩ := ih h
        exact ⟨rfl, by simp [ha, Ne.symm hc]⟩
  · rintro ⟨rfl, h⟩
    exact cut_append sep h b

theorem cutLast_eq_some_iff {sep : Char} {s a b : List Char} :
    cutLast sep s = some (a, b) ↔ s = a ++ sep :: b ∧ sep ∉ b := by
  have reversed : s.reverse = b.reverse ++ sep :: a.reverse ↔ s = a ++ sep :: b := by
    rw [← List.reverse_inj]
    simp
  constructor
  · intro h
    obtain ⟨⟨b', a'⟩, hc, he⟩ := Option.map_eq_some_iff.mp h
    obtain ⟨rfl, rfl⟩ := Prod.mk.inj he
    obtain ⟨hs, hb⟩ := cut_eq_some_iff.mp hc
    exact ⟨reversed.mp (by simpa using hs), by simpa using hb⟩
  · rintro ⟨hs, hb⟩
    have hc := cut_eq_some_iff.mpr ⟨reversed.mpr hs, by simpa using hb⟩
    simp [cutLast, hc]

theorem of_mem_splitOn {α : Type} [BEq α] [LawfulBEq α] {c : α} {s l : List α}
    (h : l ∈ s.splitOn c) : c ∉ l ∧ l ⊆ s := by
  induction s generalizing l with
  | nil =>
    obtain rfl : l = [] := by simpa [List.splitOn_nil] using h
    exact ⟨List.not_mem_nil, List.Subset.refl _⟩
  | cons d s ih =>
    rw [List.splitOn_cons_eq_if_modifyHead] at h
    split at h
    · rcases List.mem_cons.mp h with rfl | hl
      · exact ⟨List.not_mem_nil, List.nil_subset _⟩
      · exact (ih hl).imp_right (List.subset_cons_of_subset d)
    · rename_i hd
      cases hs : s.splitOn c with
      | nil => exact absurd hs (List.splitOn_ne_nil c s)
      | cons first rest =>
        rw [hs, List.modifyHead_cons] at h
        rcases List.mem_cons.mp h with rfl | hl
        · obtain ⟨hf, hm⟩ := ih (l := first) (by simp [hs])
          refine ⟨?_, List.cons_subset_cons d hm⟩
          simp only [List.mem_cons, not_or]
          exact ⟨fun he => hd (by simp [he]), hf⟩
        · exact (ih (by simp [hs, hl])).imp_right (List.subset_cons_of_subset d)

theorem splitOn_append {sep : Char} {between : String} (h : between.toList = [sep])
    (a b : String) :
    (a ++ between ++ b).toList.splitOn sep = a.toList.splitOn sep ++ b.toList.splitOn sep := by
  rw [String.toList_append, String.toList_append, h, List.append_assoc]
  exact List.splitOn_append_cons_self _ _

end EnvTemplate.Text
