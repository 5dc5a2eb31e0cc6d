import EnvTemplate.EnvFile

namespace EnvTemplate.EnvFile

open Text

structure IsKey (key : String) : Prop where
  ne_empty : key ≠ ""
  trimmed : trim key.toList = key.toList
  no_separator : '=' ∉ key.toList
  no_break : '\n' ∉ key.toList

structure IsValue (value : String) : Prop where
  trimmed : trim value.toList = value.toList
  no_break : '\n' ∉ value.toList

theorem clean_of_binding? {line : List Char} {key value : String}
    (h : binding? line = some (key, value)) (hl : '\n' ∉ line) : IsKey key ∧ IsValue value := by
  unfold binding? at h
  split at h
  · cases h
  · rename_i a b hc
    obtain ⟨rfl, ha⟩ := cut_eq_some_iff.mp hc
    split at h
    · cases h
    · rename_i hk
      simp only [Option.some.injEq, Prod.mk.injEq] at h
      obtain ⟨rfl, rfl⟩ := h
      have hn : '\n' ∉ a ∧ '\n' ∉ b := by simpa using hl
      refine ⟨⟨by simpa using hk, by simp [trim_trim], ?_, ?_⟩, ⟨by simp [trim_trim], ?_⟩⟩
      · simpa using fun hm => ha (mem_of_mem_trim hm)
      · simpa using fun hm => hn.1 (mem_of_mem_trim hm)
      · simpa using fun hm => hn.2 (mem_of_mem_trim hm)

theorem clean_of_mem_parse {text : String} {p : String × String} (h : p ∈ (parse text).entries) :
    IsKey p.1 ∧ IsValue p.2 := by
  obtain ⟨line, hl, hb⟩ := List.mem_filterMap.mp (OrderedMap.mem_of_mem_ofList h)
  exact clean_of_binding? hb (of_mem_splitOn hl).1

theorem binding?_line {key value : String} (hk : IsKey key) (hv : IsValue value) :
    binding? (key.toList ++ '=' :: value.toList) = some (key, value) := by
  have he : key.toList ≠ [] := fun h => hk.ne_empty (String.toList_eq_nil_iff.mp h)
  simp [binding?, cut_append '=' hk.no_separator, hk.trimmed, hv.trimmed, he]

theorem bindings_line {key value : String} (hk : IsKey key) (hv : IsValue value) (rest : String) :
    bindings (line key value ++ rest) = (key, value) :: bindings rest := by
  have ht : (line key value ++ rest).toList =
      (key.toList ++ '=' :: value.toList) ++ '\n' :: rest.toList := by simp [line]
  have hn : '\n' ∉ key.toList ++ '=' :: value.toList := by
    simp [hk.no_break, hv.no_break]
  rw [bindings, ht, List.splitOn_append_cons_self_of_not_mem hn, List.filterMap_cons_some,
    bindings]
  exact binding?_line hk hv

theorem bindings_render {entries : List (String × String)}
    (h : ∀ p ∈ entries, IsKey p.1 ∧ IsValue p.2) : bindings (render entries) = entries := by
  induction entries with
  | nil => rfl
  | cons p rest ih =>
    obtain ⟨key, value⟩ := p
    obtain ⟨hk, hv⟩ := h (key, value) (by simp)
    have hr : render ((key, value) :: rest) = line key value ++ render rest := by
      simp [render, String.join_cons]
    rw [hr, bindings_line hk hv, ih fun p hp => h p (List.mem_cons_of_mem _ hp)]

theorem parse_render {entries : List (String × String)} (hn : (entries.map Prod.fst).Nodup)
    (h : ∀ p ∈ entries, IsKey p.1 ∧ IsValue p.2) : (parse (render entries)).entries = entries := by
  rw [parse, bindings_render h, OrderedMap.entries_ofList hn]

theorem render_singleton (key value : String) : render [(key, value)] = line key value := by
  simp [render]

theorem parse_line {key value : String} (hk : IsKey key) (hv : IsValue value) :
    (parse (line key value)).entries = [(key, value)] := by
  rw [← render_singleton]
  exact parse_render (by simp) (List.forall_mem_singleton.mpr ⟨hk, hv⟩)

/-- Some text states just these entries if and only if their keys are distinct and all of them are
clean, and then they can be written as lines. -/
theorem exists_parse_eq_iff (entries : List (String × String)) :
    ((∃ text, (parse text).entries = entries) ↔
        (entries.map Prod.fst).Nodup ∧ ∀ p ∈ entries, IsKey p.1 ∧ IsValue p.2) ∧
      ((parse (render entries)).entries = entries ↔
        (entries.map Prod.fst).Nodup ∧ ∀ p ∈ entries, IsKey p.1 ∧ IsValue p.2) := by
  have himage : ∀ text, (parse text).entries = entries →
      (entries.map Prod.fst).Nodup ∧ ∀ p ∈ entries, IsKey p.1 ∧ IsValue p.2 := by
    rintro text rfl
    exact ⟨(parse text).nodup, fun p hp => clean_of_mem_parse hp⟩
  have hwritten : (entries.map Prod.fst).Nodup ∧ (∀ p ∈ entries, IsKey p.1 ∧ IsValue p.2) →
      (parse (render entries)).entries = entries := fun ⟨hn, hc⟩ => parse_render hn hc
  refine ⟨⟨?_, fun h => ⟨render entries, hwritten h⟩⟩, ⟨himage _, hwritten⟩⟩
  rintro ⟨text, ht⟩
  exact himage text ht

/-- A carriage return counts as any other character inside a key or a value. -/
example : (parse (render [("A\rB", "x\r=\ry"), ("C", "")])).entries =
    [("A\rB", "x\r=\ry"), ("C", "")] := by decide +kernel

/-- Lines with clean values read back as what was written exactly if their keys are clean too. -/
theorem parse_render_eq_iff {entries : List (String × String)} (hv : ∀ p ∈ entries, IsValue p.2) :
    parse (render entries) = OrderedMap.ofList entries ↔ ∀ p ∈ entries, IsKey p.1 := by
  constructor
  · intro he p hp
    have hk : p.1 ∈ (parse (render entries)).keys := by
      rw [he, OrderedMap.mem_keys_ofList]
      exact List.mem_map_of_mem hp
    obtain ⟨q, hq, hqp⟩ := List.mem_map.mp hk
    rw [← hqp]
    exact (clean_of_mem_parse hq).1
  · intro hk
    rw [parse, bindings_render fun p hp => ⟨hk p hp, hv p hp⟩]

end EnvTemplate.EnvFile
