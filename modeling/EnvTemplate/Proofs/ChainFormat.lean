import EnvTemplate.Proofs.Characters

namespace EnvTemplate

open Text

theorem Text.mem_intercalate {α : Type} {c sep : α} {l : List (List α)}
    (h : c ∈ [sep].intercalate l) : c = sep ∨ ∃ piece ∈ l, c ∈ piece := by
  induction l with
  | nil => simp at h
  | cons first rest ih =>
    cases rest with
    | nil =>
      rw [List.intercalate_singleton] at h
      exact .inr ⟨first, List.mem_cons_self, h⟩
    | cons second rest =>
      simp only [List.intercalate_cons_cons, List.append_assoc, List.mem_append,
        List.mem_singleton] at h
      rcases h with hf | hs | hr
      · exact .inr ⟨first, List.mem_cons_self, hf⟩
      · exact .inl hs
      · refine (ih hr).imp_right ?_
        rintro ⟨piece, hp, hc⟩
        exact ⟨piece, List.mem_cons_of_mem _ hp, hc⟩

theorem Text.mem_of_mem_trimEnd {c : Char} {s : List Char} (h : c ∈ trimEnd s) : c ∈ s := by
  obtain ⟨blanks, -, hs⟩ := exists_trimEnd s
  rw [hs]
  exact List.mem_append_left _ h

theorem Text.trim_trimEnd {s : List Char} (h : ∀ c ∈ s.head?, isBlank c = false) :
    trim (trimEnd s) = trimEnd s := by
  have ht : trimEnd s = trim s := by rw [trim, trimStart_eq_self h]
  rw [ht, trim_trim]

namespace Call

variable {call : Call} {link : List Char} {c : Char}

structure IsStated (call : Call) : Prop where
  trimmed : trim call.name.toList = call.name.toList
  name : '|' ∉ call.name.toList
  args : ∀ arg ∈ call.args, '|' ∉ arg.toList ∧ ',' ∉ arg.toList ∧ '(' ∉ arg.toList
  args_ne : call.args ≠ [""]

theorem toList_render (call : Call) : call.render.toList =
    call.name.toList ++ '(' :: ([','].intercalate (call.args.map String.toList) ++ [')']) := by
  simp [render]

theorem mem_of_mem_render (h : c ∈ call.render.toList) :
    c = '(' ∨ c = ',' ∨ c = ')' ∨ c ∈ call.name.toList ∨ ∃ arg ∈ call.args, c ∈ arg.toList := by
  rw [toList_render] at h
  simp only [List.mem_append, List.mem_cons, List.not_mem_nil, or_false] at h
  rcases h with hn | rfl | ha | rfl
  · simp [hn]
  · simp
  · rcases mem_intercalate ha with rfl | ⟨piece, hp, hc⟩
    · simp
    · obtain ⟨arg, hm, rfl⟩ := List.mem_map.mp hp
      exact .inr (.inr (.inr (.inr ⟨arg, hm, hc⟩)))
  · simp

theorem IsStated.no_bar (h : call.IsStated) : '|' ∉ call.render.toList := by
  intro hb
  rcases mem_of_mem_render hb with he | he | he | hn | ⟨arg, ha, hm⟩
  · cases he
  · cases he
  · cases he
  · exact h.name hn
  · exact (h.args arg ha).1 hm

theorem IsStated.trim_render (h : call.IsStated) :
    trim call.render.toList = call.render.toList := by
  have hn := (trim_eq_self_iff.mp h.trimmed).1
  rw [toList_render]
  refine trim_eq_self_iff.mpr ⟨fun c hc => ?_, fun c hc => ?_⟩
  · cases hl : call.name.toList with
    | nil =>
      obtain rfl : c = '(' := by simpa [hl, eq_comm] using hc
      decide
    | cons first rest =>
      rw [hl] at hc hn
      exact hn c hc
  · obtain rfl : c = ')' := by simpa [List.getLast?_append, List.getLast?_cons, eq_comm] using hc
    decide

theorem parseArgs_intercalate {args : List String} (hc : ∀ arg ∈ args, ',' ∉ arg.toList)
    (hne : args ≠ [""]) : parseArgs ([','].intercalate (args.map String.toList)) = args := by
  by_cases ha : args = []
  · subst ha
    rfl
  · have hs : ([','].intercalate (args.map String.toList)).splitOn ',' = args.map String.toList :=
      List.splitOn_intercalate ',' (by simpa using hc) (by simpa using ha)
    have he : [','].intercalate (args.map String.toList) ≠ [] := by
      intro he
      rw [he, List.splitOn_nil] at hs
      -- one empty piece is one empty argument
      obtain ⟨arg, rfl, hn⟩ := List.map_eq_singleton_iff.mp hs.symm
      exact hne (by rw [String.toList_eq_nil_iff.mp hn])
    rw [parseArgs, if_neg he, hs, List.map_map]
    simp [Function.comp_def]

theorem parse_render (h : call.IsStated) : parse call.render.toList = call := by
  have ho : '(' ∉ [','].intercalate (call.args.map String.toList) ++ [')'] := by
    intro hm
    rcases List.mem_append.mp hm with hm | hm
    · rcases mem_intercalate hm with he | ⟨piece, hp, hc⟩
      · cases he
      · obtain ⟨arg, ha, rfl⟩ := List.mem_map.mp hp
        exact (h.args arg ha).2.2 hc
    · simp at hm
  have hname : cutLast '(' call.render.toList = some (call.name.toList,
      [','].intercalate (call.args.map String.toList) ++ [')']) :=
    cutLast_eq_some_iff.mpr ⟨toList_render call, ho⟩
  have hargs : cutLast ')' ([','].intercalate (call.args.map String.toList) ++ [')']) =
      some ([','].intercalate (call.args.map String.toList), []) :=
    cutLast_eq_some_iff.mpr ⟨rfl, List.not_mem_nil⟩
  have ht : trimEnd call.name.toList = call.name.toList :=
    trimEnd_eq_self (trim_eq_self_iff.mp h.trimmed).2
  have hp : parseArgs ([','].intercalate (call.args.map String.toList)) = call.args :=
    parseArgs_intercalate (fun arg ha => (h.args arg ha).2.1) h.args_ne
  simp only [parse, h.trim_render, hname, hargs, ht, hp, String.ofList_toList]

theorem parseArgs_ne (s : List Char) : parseArgs s ≠ [""] := by
  intro h
  unfold parseArgs at h
  split at h
  · cases h
  · rename_i hs
    obtain ⟨piece, hp, he⟩ := List.map_eq_singleton_iff.mp h
    have hn : piece = [] := by simpa using he
    have hj : [','].intercalate (s.splitOn ',') = s := List.intercalate_splitOn ','
    rw [hp, hn, List.intercalate_singleton] at hj
    exact hs hj.symm

theorem mem_of_mem_name (h : c ∈ (parse link).name.toList) : c ∈ link := by
  apply mem_of_mem_trim
  unfold parse at h
  split at h
  · simpa using h
  · rename_i name rest hcut
    have hn : c ∈ trimEnd name := by
      split at h <;> simpa using h
    rw [(cutLast_eq_some_iff.mp hcut).1]
    exact List.mem_append_left _ (mem_of_mem_trimEnd hn)

theorem isStated_parse (h : '|' ∉ link) : (parse link).IsStated := by
  refine ⟨?_, fun hm => h (mem_of_mem_name hm), fun arg ha => ?_, ?_⟩
  · unfold parse
    split
    · simp [trim_trim]
    · rename_i name rest hcut
      have hs := (cutLast_eq_some_iff.mp hcut).1
      have hh : ∀ c ∈ name.head?, isBlank c = false := by
        intro c hc
        apply head?_trim link
        rw [hs, List.head?_append, Option.mem_def.mp hc]
        rfl
      split <;> simpa using trim_trimEnd hh
  · refine ⟨fun hm => h (mem_of_mem_parse ha hm), ?_⟩
    unfold parse at ha
    split at ha
    · cases ha
    · rename_i name rest hcut
      have ho := (cutLast_eq_some_iff.mp hcut).2
      split at ha
      · cases ha
      · rename_i args after hargs
        have hr := (cutLast_eq_some_iff.mp hargs).1
        refine ⟨?_, fun hm => ho ?_⟩
        · unfold parseArgs at ha
          split at ha
          · cases ha
          · obtain ⟨piece, hp, rfl⟩ := List.mem_map.mp ha
            simpa using (of_mem_splitOn hp).1
        · rw [hr]
          exact List.mem_append_left _ (mem_of_mem_parseArgs ha hm)
  · unfold parse
    split
    · exact (List.cons_ne_nil _ _).symm
    · split
      · exact (List.cons_ne_nil _ _).symm
      · exact parseArgs_ne _

end Call

namespace Chain

variable {known : String → Bool} {expression : String} {chain : Chain} {call : Call} {c : Char}

theorem toList_render (chain : Chain) : (render chain).toList =
    ['|'].intercalate (chain.map fun call => call.render.toList) := by
  simp [render, Function.comp_def]

theorem parse_render (h : ∀ call ∈ chain, call.IsStated ∧ known call.name) :
    parse known (render chain) = chain := by
  by_cases hn : chain = []
  · subst hn
    rfl
  · have hs : (render chain).toList.splitOn '|' = chain.map fun call => call.render.toList := by
      rw [toList_render]
      refine List.splitOn_intercalate '|' ?_ (by simpa using hn)
      simpa using fun call hc => (h call hc).1.no_bar
    have ht : (chain.map fun call => call.render.toList).map trim =
        chain.map fun call => call.render.toList := by
      rw [List.map_map]
      exact List.map_congr_left fun call hc => (h call hc).1.trim_render
    have hf : (chain.map fun call => call.render.toList).filter (· ≠ []) =
        chain.map fun call => call.render.toList := by
      refine List.filter_eq_self.mpr fun piece hp => ?_
      obtain ⟨call, -, rfl⟩ := List.mem_map.mp hp
      simp [Call.toList_render]
    have hp : (chain.map fun call => call.render.toList).map Call.parse = chain := by
      rw [List.map_map]
      exact (List.map_congr_left fun call hc => Call.parse_render (h call hc).1).trans chain.map_id
    rw [parse, hs, ht, hf, hp]
    exact List.filter_eq_self.mpr fun call hc => (h call hc).2

theorem isStated_of_mem_parse (h : call ∈ parse known expression) :
    call.IsStated ∧ known call.name := by
  obtain ⟨hm, hk⟩ := List.mem_filter.mp h
  obtain ⟨link, hl, rfl⟩ := List.mem_map.mp hm
  obtain ⟨piece, hp, rfl⟩ := List.mem_map.mp (List.mem_filter.mp hl).1
  exact ⟨Call.isStated_parse fun hb => (of_mem_splitOn hp).1 (mem_of_mem_trim hb), hk⟩

/-- Some expression states just these calls if and only if all of them are known and can be stated,
and then they can be written between bars, each with its parentheses. -/
theorem exists_expression_iff (registry : Registry) (chain : Chain) :
    ((∃ expression, parse registry.contains expression = chain) ↔
        ∀ call ∈ chain, call.IsStated ∧ registry.contains call.name) ∧
      (parse registry.contains (render chain) = chain ↔
        ∀ call ∈ chain, call.IsStated ∧ registry.contains call.name) := by
  have himage : ∀ expression, parse registry.contains expression = chain →
      ∀ call ∈ chain, call.IsStated ∧ registry.contains call.name := by
    rintro expression rfl call hc
    exact isStated_of_mem_parse hc
  have hwritten : (∀ call ∈ chain, call.IsStated ∧ registry.contains call.name) →
      parse registry.contains (render chain) = chain := fun h => parse_render h
  refine ⟨⟨?_, fun h => ⟨render chain, hwritten h⟩⟩, ⟨himage _, hwritten⟩⟩
  rintro ⟨expression, he⟩
  exact himage expression he

/-- Names may be empty or hold parentheses, arguments anything but bars, commas and opening
parentheses. -/
example :
    let registry : Registry := ⟨OrderedMap.ofList [("", fun _ value _ => .ok value),
      ("f(x)", fun _ value _ => .ok value)]⟩
    let chain : Chain := [⟨"", []⟩, ⟨"f(x)", ["", " a)\n", "b=)"]⟩, ⟨"enum", ["", ""]⟩]
    parse registry.contains (render chain) = chain := by
  decide +kernel

theorem mem_of_mem_name (h : call ∈ parse known expression) (hc : c ∈ call.name.toList) :
    c ∈ expression.toList := by
  obtain ⟨link, hl, rfl⟩ := List.mem_map.mp (List.mem_filter.mp h).1
  obtain ⟨piece, hp, rfl⟩ := List.mem_map.mp (List.mem_filter.mp hl).1
  exact (of_mem_splitOn hp).2 (mem_of_mem_trim (Call.mem_of_mem_name hc))

theorem mem_of_mem_render (h : c ∈ (render chain).toList) :
    c = '|' ∨ ∃ call ∈ chain, c ∈ call.render.toList := by
  rw [toList_render] at h
  refine (mem_intercalate h).imp_right ?_
  rintro ⟨piece, hp, hc⟩
  obtain ⟨call, hm, rfl⟩ := List.mem_map.mp hp
  exact ⟨call, hm, hc⟩

theorem head?_render (call : Call) (rest : Chain) :
    (render (call :: rest)).toList.head? = call.render.toList.head? := by
  have hne : call.render.toList ≠ [] := by simp [Call.toList_render]
  rw [toList_render, List.map_cons]
  cases rest with
  | nil => rw [List.map_nil, List.intercalate_singleton]
  | cons next rest =>
    rw [List.map_cons, List.intercalate_cons_cons, List.append_assoc, List.head?_append,
      List.head?_eq_some_head hne, Option.some_or]

theorem getLast?_render (hn : chain ≠ []) : (render chain).toList.getLast? = some ')' := by
  rw [toList_render]
  induction chain with
  | nil => exact absurd rfl hn
  | cons call rest ih =>
    cases rest with
    | nil => simp [Call.toList_render, List.getLast?_append, List.getLast?_cons]
    | cons next rest =>
      have hr := ih (List.cons_ne_nil _ _)
      rw [List.map_cons] at hr
      rw [List.map_cons, List.map_cons, List.intercalate_cons_cons, List.getLast?_append, hr]
      rfl

theorem trim_render (h : ∀ call ∈ chain, call.IsStated) :
    trim (render chain).toList = (render chain).toList := by
  cases chain with
  | nil => rfl
  | cons call rest =>
    refine trim_eq_self_iff.mpr ⟨fun c hc => ?_, fun c hc => ?_⟩
    · rw [head?_render] at hc
      exact (trim_eq_self_iff.mp (h call List.mem_cons_self).trim_render).1 c hc
    · rw [getLast?_render (List.cons_ne_nil _ _)] at hc
      cases hc
      decide

theorem isValue_render_parse (h : EnvFile.IsValue expression) :
    EnvFile.IsValue (render (parse known expression)) := by
  refine ⟨trim_render fun call hc => (isStated_of_mem_parse hc).1, fun hm => ?_⟩
  rcases mem_of_mem_render hm with he | ⟨call, hc, hm⟩
  · cases he
  · rcases Call.mem_of_mem_render hm with he | he | he | hn | ⟨arg, ha, hm⟩
    · cases he
    · cases he
    · cases he
    · exact h.no_break (mem_of_mem_name hc hn)
    · exact h.no_break (mem_of_mem_parse hc ha hm)

end Chain

namespace Rule

/-- Rules read from a template are read again from the text in which each rule has a line of its
own and each call its parentheses. -/
theorem ofTemplate_render (registry : Registry) (text : String) :
    let rules := ofTemplate registry (EnvFile.parse text)
    ofTemplate registry (EnvFile.parse (String.join (rules.map render))) = rules := by
  intro rules
  have hr : String.join (rules.map render) =
      EnvFile.render (rules.map fun rule => (rule.key, rule.chain.render)) := by
    rw [EnvFile.render, List.map_map]
    rfl
  have hk : (rules.map fun rule => (rule.key, rule.chain.render)).map Prod.fst =
      (EnvFile.parse text).keys := by
    simp [rules, ofTemplate, ofBinding, OrderedMap.keys, Function.comp_def]
  have hclean : ∀ p ∈ rules.map (fun rule => (rule.key, rule.chain.render)),
      EnvFile.IsKey p.1 ∧ EnvFile.IsValue p.2 := by
    intro p hp
    obtain ⟨rule, hm, rfl⟩ := List.mem_map.mp hp
    obtain ⟨binding, hb, rfl⟩ := List.mem_map.mp hm
    obtain ⟨hkey, hvalue⟩ := EnvFile.clean_of_mem_parse hb
    exact ⟨hkey, Chain.isValue_render_parse hvalue⟩
  have he := EnvFile.parse_render (hk ▸ OrderedMap.nodup _) hclean
  have hid : ∀ rule ∈ rules, ofBinding registry rule.key rule.chain.render = rule := by
    intro rule hm
    obtain ⟨binding, hb, rfl⟩ := List.mem_map.mp hm
    have hp : Chain.parse registry.contains (ofBinding registry binding.1 binding.2).chain.render =
        (ofBinding registry binding.1 binding.2).chain :=
      Chain.parse_render fun call hc => Chain.isStated_of_mem_parse hc
    exact congrArg (Rule.mk binding.1) hp
  rw [ofTemplate, hr, he, List.map_map]
  exact (List.map_congr_left hid).trans rules.map_id

end Rule

end EnvTemplate
