import EnvTemplate.Proofs.Snapshot

namespace EnvTemplate

open Text

namespace Rule

theorem nulFree_judge {rule : Rule} {value : String} (hv : NulFree value)
    (ha : ∀ call ∈ rule.chain, ∀ arg ∈ call.args, NulFree arg) :
    NulFree (rule.judge .standard value).1.value := by
  unfold judge
  split
  · rename_i result made hr
    intro hz
    rcases Chain.mem_of_run (congrArg Prod.fst hr) hz with hm | ⟨call, hc, arg, hm, hz⟩ | hw
    · exact hv hm
    · exact ha call hc arg hm hz
    · exact absurd hw (by decide)
  · exact hv

end Rule

namespace Publisher

variable {publisher : Publisher} {world left right : World} {verdicts : Verdicts}
  {files : FileTree}

theorem isKey_of_mem_rules {rule : Rule} (h : rule ∈ publisher.rules files) :
    EnvFile.IsKey rule.key := by
  obtain ⟨p, hp, rfl⟩ := List.mem_map.mp h
  exact (EnvFile.clean_of_mem_parse hp).1

theorem nulFree_of_mem_rules {rule : Rule} (ht : NulFree (files.readText publisher.template))
    (h : rule ∈ publisher.rules files) :
    NulFree rule.key ∧ ∀ call ∈ rule.chain, ∀ arg ∈ call.args, NulFree arg := by
  obtain ⟨p, hp, rfl⟩ := List.mem_map.mp h
  refine ⟨fun hz => ht (EnvFile.mem_of_mem_parse hp (.inl hz)), fun call hc arg ha hz => ?_⟩
  exact ht (EnvFile.mem_of_mem_parse hp (.inr (Chain.mem_of_mem_parse hc ha hz)))

theorem nulFree_input (hs : world.store.NulFree)
    (he : NulFree (world.files.readText publisher.envFile)) (key : String) :
    NulFree (Rule.input (fun key => world.store.value? key)
      (EnvFile.parse (world.files.readText publisher.envFile)) key) := by
  generalize world.files.readText publisher.envFile = text at he
  have hfile : NulFree (((EnvFile.parse text).get? key).getD "") := by
    cases hg : (EnvFile.parse text).get? key with
    | none => exact List.not_mem_nil
    | some value =>
      exact fun hz => he (EnvFile.mem_of_mem_parse (OrderedMap.mem_of_get? hg) (.inr hz))
  unfold Rule.input
  split
  · rename_i value hv
    split
    · exact hfile
    · exact hs key value hv
  · exact hfile

theorem nulFree_of_mem_validate (hr : publisher.settings.registry = .standard)
    (hs : world.store.NulFree) (ht : NulFree (world.files.readText publisher.template))
    (he : NulFree (world.files.readText publisher.envFile)) {v : Verdict}
    (hv : v ∈ (publisher.validate world).1) : NulFree v.key ∧ NulFree v.value := by
  simp only [validate, Rule.judgeAll, List.map_map, hr] at hv
  obtain ⟨rule, hm, rfl⟩ := List.mem_map.mp hv
  obtain ⟨hk, ha⟩ := nulFree_of_mem_rules ht hm
  refine ⟨?_, Rule.nulFree_judge (nulFree_input hs he _) ha⟩
  rwa [Function.comp_apply, Rule.key_judge]

def judged (publisher : Publisher) (world : World) : Verdicts × List Invocation :=
  Rule.judgeAll publisher.settings.registry (fun key => world.store.value? key)
    (EnvFile.parse (world.files.readText publisher.envFile)) (publisher.rules world.files)

theorem validate_eq (publisher : Publisher) (world : World) :
    publisher.validate world = ((publisher.judged world).1,
      { world with journal := world.journal ++ (publisher.judged world).2 }) := rfl

theorem judged_congr
    (ht : right.files.readText publisher.template = left.files.readText publisher.template)
    (he : right.files.readText publisher.envFile = left.files.readText publisher.envFile)
    (hs : ∀ rule ∈ publisher.rules left.files,
      right.store.value? rule.key = left.store.value? rule.key) :
    publisher.judged right = publisher.judged left := by
  have hr : publisher.rules right.files = publisher.rules left.files := by rw [rules, rules, ht]
  rw [judged, judged, hr, he]
  exact Rule.judgeAll_congr fun rule hm => by rw [Rule.input, Rule.input, hs rule hm]

/-- A world with a store in memory and one with the variables of a process, of which the first
holds the texts. No text that is read in them holds a zero. -/
structure Twins (publisher : Publisher) (left right : World) : Prop where
  store : left.store.IsSnapshot right.store
  files : right.files = left.files
  journal : right.journal = left.journal
  values : left.store.NulFree
  template : NulFree (left.files.readText publisher.template)
  envFile : NulFree (left.files.readText publisher.envFile)
  cache : NulFree (left.files.readText publisher.cache.path)

theorem Twins.withFiles (h : publisher.Twins left right)
    (hf : ∀ path, files.readText path = left.files.readText path ∨ NulFree (files.readText path)) :
    publisher.Twins { left with files := files } { right with files := files } :=
  { h with
    files := rfl
    template := (hf publisher.template).elim (fun he => he ▸ h.template) id
    envFile := (hf publisher.envFile).elim (fun he => he ▸ h.envFile) id
    cache := (hf publisher.cache.path).elim (fun he => he ▸ h.cache) id }

theorem Twins.setAll (h : publisher.Twins left right) {entries : List (String × String)}
    (he : ∀ p ∈ entries, EnvFile.IsKey p.1 ∧ NulFree p.1 ∧ NulFree p.2) (overwrite : Bool) :
    publisher.Twins { left with store := left.store.setAll overwrite entries }
      { right with store := right.store.setAll overwrite entries } := by
  have ha : ∀ p ∈ entries, right.store.accepts p.1 p.2 := fun p hp =>
    right.store.accepts_of_nulFree (he p hp).1 (he p hp).2.1 (he p hp).2.2
  exact { h with
    store := h.store.setAll ha overwrite
    values := h.values.setAll (fun p hp => (he p hp).2.2) overwrite }

/-- Two operations give the same answer, and leave twins. -/
def Alike {α : Type} (publisher : Publisher) (left right : α × World) : Prop :=
  ∃ answer before after, left = (answer, before) ∧ right = (answer, after) ∧
    publisher.Twins before after

theorem Twins.alike {α : Type} (h : publisher.Twins left right) (answer : α) :
    publisher.Alike (answer, left) (answer, right) :=
  ⟨answer, left, right, rfl, rfl, h⟩

theorem Twins.validate (h : publisher.Twins left right) :
    publisher.Alike (publisher.validate left) (publisher.validate right) := by
  have hj : publisher.judged right = publisher.judged left := by
    refine judged_congr (by rw [h.files]) (by rw [h.files]) fun rule hm => ?_
    have hn := Store.isName_of_isKey (isKey_of_mem_rules hm) (nulFree_of_mem_rules h.template hm).1
    exact (h.store.value? hn).symm
  have ht : publisher.Twins
      { left with journal := left.journal ++ (publisher.judged left).2 }
      { right with journal := left.journal ++ (publisher.judged left).2 } :=
    { h with journal := rfl }
  rw [validate_eq, validate_eq, hj, h.journal]
  exact ht.alike _

theorem Twins.publish (h : publisher.Twins left right)
    (hr : publisher.settings.registry = .standard) :
    publisher.Alike (publisher.publish left) (publisher.publish right) := by
  have hclean : ∀ v ∈ (publisher.validate left).1,
      EnvFile.IsKey v.key ∧ NulFree v.key ∧ NulFree v.value := fun v hm =>
    ⟨isKey_of_mem_validate hm, nulFree_of_mem_validate hr h.values h.template h.envFile hm⟩
  obtain ⟨verdicts, before, after, hl, hr, ht⟩ := h.validate
  rw [hl] at hclean
  have ha : ∀ store : Store, ∀ v ∈ verdicts, store.accepts v.key v.value :=
    fun store v hm => store.accepts_of_nulFree (hclean v hm).1 (hclean v hm).2.1 (hclean v hm).2.2
  simp only [Publisher.publish, hl, hr, Store.publish_of_accepts (ha _)]
  split
  · refine (ht.setAll (fun p hp => ?_) _).alike _
    obtain ⟨v, hm, rfl⟩ := List.mem_map.mp hp
    exact hclean v hm
  · exact ht.alike _

theorem Twins.restore (h : publisher.Twins left right) :
    publisher.Alike (publisher.restore left) (publisher.restore right) := by
  cases hc : publisher.cache.read? left.files with
  | none =>
    rw [restore_of_none hc, restore_of_none (h.files ▸ hc)]
    exact h.alike _
  | some bindings =>
    rw [restore_of_read? hc, restore_of_read? (h.files ▸ hc)]
    obtain rfl := Cache.eq_parse_of_read? hc
    refine (h.setAll (fun p hp => ⟨(EnvFile.clean_of_mem_parse hp).1, ?_, ?_⟩) _).alike _
    · exact fun hz => h.cache (EnvFile.mem_of_mem_parse hp (.inl hz))
    · exact fun hz => h.cache (EnvFile.mem_of_mem_parse hp (.inr hz))

theorem Twins.forget (h : publisher.Twins left right) :
    publisher.Alike (publisher.forget left) (publisher.forget right) := by
  unfold Publisher.forget
  rw [h.files]
  refine (h.withFiles fun path => ?_).alike _
  refine (publisher.cache.readText_clear left.files path).imp_right fun he => ?_
  exact he ▸ List.not_mem_nil

theorem Twins.keep (h : publisher.Twins left right)
    (hv : ∀ v ∈ verdicts, NulFree v.key ∧ NulFree v.value) :
    publisher.Alike (publisher.keep verdicts left) (publisher.keep verdicts right) := by
  have hrender : NulFree (EnvFile.render verdicts.passed) := by
    intro hz
    rcases EnvFile.mem_of_mem_render hz with he | he | ⟨p, hp, hz⟩
    · cases he
    · cases he
    · obtain ⟨v, hm, rfl⟩ := List.mem_map.mp hp
      obtain ⟨hk, hw⟩ := hv v (List.mem_of_mem_filter hm)
      exact hz.elim hk hw
  have hf : ∀ path, (publisher.cache.write verdicts left.files).2.readText path =
        left.files.readText path ∨
      NulFree ((publisher.cache.write verdicts left.files).2.readText path) := by
    intro path
    exact (publisher.cache.readText_write verdicts left.files path).imp_right
      (nulFree_of_isBeginning hrender)
  unfold Publisher.keep
  rw [h.files]
  exact (h.withFiles hf).alike _

theorem Twins.runCached (h : publisher.Twins left right)
    (hr : publisher.settings.registry = .standard) :
    publisher.Alike (publisher.runCached left) (publisher.runCached right) := by
  obtain ⟨found, l, r, hl, hr', h⟩ := h.restore
  simp only [Publisher.runCached, hl, hr']
  cases found with
  | true => exact h.alike _
  | false =>
    obtain ⟨answer, before, after, hb, ha, hp⟩ := h.publish hr
    simp only [hb, ha]
    cases answer with
    | error verdicts => exact hp.alike _
    | ok verdicts =>
      have hv : ∀ v ∈ verdicts, NulFree v.key ∧ NulFree v.value := by
        rw [(publish_ok hb).verdicts_eq]
        exact fun v hm => nulFree_of_mem_validate hr h.values h.template h.envFile hm
      obtain ⟨kept, written, written', hw, hw', hk⟩ := hp.keep hv
      simp only [hw, hw']
      -- the one error that is not reported stands beside four that are
      rcases kept with ⟨_ | _ | _ | _ | _⟩ | _ <;> exact hk.alike _

theorem Twins.runAfresh (h : publisher.Twins left right)
    (hr : publisher.settings.registry = .standard) :
    publisher.Alike (publisher.runAfresh left) (publisher.runAfresh right) := by
  obtain ⟨cleared, l, r, hl, hr', h⟩ := h.forget
  simp only [Publisher.runAfresh, hl, hr']
  cases cleared with
  | error error => exact h.alike _
  | ok =>
    obtain ⟨answer, before, after, hb, ha, hp⟩ := h.publish hr
    simp only [hb, ha]
    cases answer with
    | error verdicts => exact hp.alike _
    | ok verdicts => exact hp.alike _

theorem Alike.map {α β : Type} {first second : α × World} (h : publisher.Alike first second)
    (f : α → β) : publisher.Alike (first.map f id) (second.map f id) := by
  obtain ⟨answer, before, after, rfl, rfl, ht⟩ := h
  exact ht.alike (f answer)

theorem Twins.serve (h : publisher.Twins left right)
    (hr : publisher.settings.registry = .standard) (request : Request) :
    publisher.Alike (publisher.serve left request) (publisher.serve right request) := by
  cases request with
  | validate => exact h.validate.map _
  | publish => exact (h.publish hr).map _
  | restore => exact h.restore.map _
  | forget => exact h.forget.map _
  | run mode =>
    cases mode with
    | production => exact (h.runCached hr).map _
    | development => exact (h.runAfresh hr).map _

theorem Twins.trace (h : publisher.Twins left right)
    (hr : publisher.settings.registry = .standard) (requests : List Request) :
    List.Forall₂ publisher.Alike (publisher.trace left requests)
      (publisher.trace right requests) := by
  induction requests generalizing left right with
  | nil => exact .nil
  | cons request requests ih =>
    have hs := h.serve hr request
    obtain ⟨reply, before, after, hb, ha, ht⟩ := hs
    refine .cons (h.serve hr request) ?_
    rw [hb, ha]
    exact ih ht

/-- With built-in validators, and where no file that is read holds a zero, a publisher cannot tell
the variables of a process from a store in memory that is filled with those that are text: it gives
the same replies, changes the same files, and what the store in memory holds stays what can be read
as text among the variables. -/
theorem memory_simulates_process {vars : Variables}
    (hr : publisher.settings.registry = .standard) (hv : vars.Passable)
    (ht : NulFree (files.readText publisher.template))
    (he : NulFree (files.readText publisher.envFile))
    (hc : NulFree (files.readText publisher.cache.path)) (requests : List Request) :
    List.Forall₂ (fun left right => left.1 = right.1 ∧ left.2.files = right.2.files ∧
        left.2.store.IsSnapshot right.2.store)
      (publisher.trace ⟨.memory (Store.process vars).texts, files, []⟩ requests)
      (publisher.trace ⟨.process vars, files, []⟩ requests) := by
  have hs : publisher.Twins ⟨.memory (Store.process vars).texts, files, []⟩
      ⟨.process vars, files, []⟩ :=
    { store := ⟨rfl, rfl, fun _ => rfl⟩
      files := rfl
      journal := rfl
      values := hv.nulFree_texts
      template := ht
      envFile := he
      cache := hc }
  refine (hs.trace hr requests).imp fun left right h => ?_
  obtain ⟨reply, before, after, rfl, rfl, ht⟩ := h
  exact ⟨rfl, ht.files.symm, ht.store⟩

/-- The variable `A` is no text, so it is missing in memory and is given a value in both. -/
theorem memory_simulates_process_of_byte :
    let publisher : Publisher := ⟨Path.ofText ".", Settings.ofNames "" "" false []⟩
    let vars := Variables.ofBlock (⟨#[65, 61, 255, 0]⟩ ++ "B=old\x00".toUTF8)
    let files := (World.ofTemplate "A=fallback(1)\nB=fallback(2)").files
    let requests := [.run .production, .restore, .forget, .validate, .publish, .run .development]
    let memory := publisher.trace ⟨.memory (Store.process vars).texts, files, []⟩ requests
    let process := publisher.trace ⟨.process vars, files, []⟩ requests
    let verdicts : Verdicts := [⟨"A", "1", .ok⟩, ⟨"B", "old", .ok⟩]
    process.map Prod.fst = [.ran (.ok (.validated verdicts)), .restored true, .forgotten (.ok ()),
        .judged verdicts, .published (.ok verdicts), .ran (.ok (.validated verdicts))] ∧
      List.Forall₂ (fun left right => left.1 = right.1 ∧ left.2.files = right.2.files ∧
        left.2.store.IsSnapshot right.2.store) memory process := by
  intro publisher vars files requests memory process verdicts
  have ht : NulFree (files.readText publisher.template) := by decide +kernel
  have he : NulFree (files.readText publisher.envFile) := by decide +kernel
  have hc : NulFree (files.readText publisher.cache.path) := by decide +kernel
  exact ⟨by decide +kernel,
    memory_simulates_process rfl (Variables.passable_ofBlock _) ht he hc requests⟩

end Publisher

end EnvTemplate
