namespace EnvTemplate.Text

def blankRanges : List (Nat × Nat) :=
  [(0x9, 0xD), (0x20, 0x20), (0x85, 0x85), (0xA0, 0xA0), (0x1680, 0x1680), (0x2000, 0x200A),
    (0x2028, 0x2029), (0x202F, 0x202F), (0x205F, 0x205F), (0x3000, 0x3000)]

def isBlank (c : Char) : Bool :=
  blankRanges.any fun (first, last) => first ≤ c.toNat && c.toNat ≤ last

def trimStart (s : List Char) : List Char := s.dropWhile isBlank

def trimEnd (s : List Char) : List Char := (s.reverse.dropWhile isBlank).reverse

def trim (s : List Char) : List Char := trimEnd (trimStart s)

theorem trimStart_eq_self {s : List Char} (h : ∀ c ∈ s.head?, isBlank c = false) :
    trimStart s = s := by
  cases s with
  | nil => rfl
  | cons c s => simp [trimStart, h c (by simp)]

theorem trimEnd_eq_self {s : List Char} (h : ∀ c ∈ s.getLast?, isBlank c = false) :
    trimEnd s = s := by
  have := trimStart_eq_self (s := s.reverse) (by simpa using h)
  simpa [trimEnd, trimStart] using congrArg List.reverse this

theorem trimStart_append {a : List Char} (h : ∀ c ∈ a, isBlank c) (s : List Char) :
    trimStart (a ++ s) = trimStart s :=
  List.dropWhile_append_of_pos h

theorem trimEnd_append {b : List Char} (h : ∀ c ∈ b, isBlank c) (s : List Char) :
    trimEnd (s ++ b) = trimEnd s := by
  have hr : trimStart (b.reverse ++ s.reverse) = trimStart s.reverse :=
    trimStart_append (by simpa using h) s.reverse
  simpa [trimEnd, trimStart] using congrArg List.reverse hr

theorem trim_append {a b : List Char} (ha : ∀ c ∈ a, isBlank c) (hb : ∀ c ∈ b, isBlank c)
    (s : List Char) : trim (a ++ s ++ b) = trim s := by
  have hn : trimStart b = [] := by simpa [trimStart] using trimStart_append hb []
  rw [List.append_assoc, trim, trimStart_append ha, trimStart, List.dropWhile_append]
  split
  · rename_i hs
    have ht : trimStart s = [] := List.isEmpty_iff.mp hs
    rw [trim, ht]
    exact congrArg trimEnd hn
  · exact trimEnd_append hb (trimStart s)

theorem exists_trimStart (s : List Char) :
    ∃ a, (∀ c ∈ a, isBlank c) ∧ s = a ++ trimStart s := by
  refine ⟨s.takeWhile isBlank, fun c hc => ?_, List.takeWhile_append_dropWhile.symm⟩
  exact List.all_eq_true.mp List.all_takeWhile c hc

theorem exists_trimEnd (s : List Char) :
    ∃ b, (∀ c ∈ b, isBlank c) ∧ s = trimEnd s ++ b := by
  obtain ⟨a, ha, hs⟩ := exists_trimStart s.reverse
  refine ⟨a.reverse, fun c hc => ha c (by simpa using hc), ?_⟩
  simpa [trimEnd, trimStart] using congrArg List.reverse hs

theorem exists_trim (s : List Char) :
    ∃ a b, (∀ c ∈ a, isBlank c) ∧ (∀ c ∈ b, isBlank c) ∧ s = a ++ trim s ++ b := by
  obtain ⟨a, ha, hs⟩ := exists_trimStart s
  obtain ⟨b, hb, ht⟩ := exists_trimEnd (trimStart s)
  exact ⟨a, b, ha, hb, by rw [List.append_assoc, trim, ← ht, ← hs]⟩

theorem mem_of_mem_trim {c : Char} {s : List Char} (h : c ∈ trim s) : c ∈ s := by
  obtain ⟨a, b, -, -, hs⟩ := exists_trim s
  rw [hs]
  simp [h]

theorem head?_trimStart (s : List Char) : ∀ c ∈ (trimStart s).head?, isBlank c = false := by
  intro c hc
  have := List.head?_dropWhile_not isBlank s
  simp only [trimStart, Option.mem_def] at hc
  simpa [hc] using this

theorem getLast?_trim (s : List Char) : ∀ c ∈ (trim s).getLast?, isBlank c = false := by
  intro c hc
  exact head?_trimStart (trimStart s).reverse c (by simpa [trim, trimEnd, trimStart] using hc)

theorem head?_trim (s : List Char) : ∀ c ∈ (trim s).head?, isBlank c = false := by
  intro c hc
  obtain ⟨b, -, ht⟩ := exists_trimEnd (trimStart s)
  apply head?_trimStart s
  rw [ht, List.head?_append]
  simp only [trim, Option.mem_def] at hc ⊢
  simp [hc]

theorem trim_eq_self_iff {s : List Char} :
    trim s = s ↔ (∀ c ∈ s.head?, isBlank c = false) ∧ (∀ c ∈ s.getLast?, isBlank c = false) := by
  constructor
  · intro h
    exact ⟨h ▸ head?_trim s, h ▸ getLast?_trim s⟩
  · intro ⟨hh, hl⟩
    rw [trim, trimStart_eq_self hh, trimEnd_eq_self hl]

theorem trim_trim (s : List Char) : trim (trim s) = trim s :=
  trim_eq_self_iff.mpr ⟨head?_trim s, getLast?_trim s⟩

end EnvTemplate.Text
