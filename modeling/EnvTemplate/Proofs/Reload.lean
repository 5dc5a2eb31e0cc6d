import EnvTemplate.Proofs.Run

namespace EnvTemplate.Publisher

variable {publisher : Publisher} {world after : World} {verdicts : Verdicts}

theorem Publishes.publish_other (h : publisher.Publishes world verdicts after) {other : Store}
    (ho : other.isProcess = world.store.isProcess) (overwrite : Bool) :
    other.publish overwrite verdicts = (.ok verdicts, other.setAll overwrite verdicts.pairs) := by
  refine Store.publish_of_screened ?_ overwrite
  rw [Store.screened_congr ho]
  exact h.screened

/-- After a run that had to validate there is a cache if and only if each value is one line
without blanks at its ends. That cache does to any store of the same kind what publishing the
verdicts does. -/
theorem load_eq_publish (h : publisher.run world .production = (.ok (.validated verdicts), after)) :
    (publisher.cache.isPresent after.files ↔ ∀ v ∈ verdicts,
      '\n' ∉ v.value.toList ∧ '\r' ∉ v.value.toList ∧
        Text.trim v.value.toList = v.value.toList) ∧
      (publisher.cache.isPresent after.files → ∀ (other : Store) (overwrite : Bool),
        other.isProcess = world.store.isProcess →
          ∃ published, other.publish overwrite verdicts = (.ok verdicts, published) ∧
            publisher.cache.load after.files overwrite other = (true, published)) := by
  simp only [← Cache.keeps_iff, Cache.isPresent_eq]
  have hr := cachedRun publisher world
  rw [h] at hr
  cases hr with
  | kept hn hp hw =>
    have hp := publish_ok hp
    obtain ⟨hk, place, location, hs⟩ := Cache.write_ok hw
    have hread := hs.read?
    rw [if_pos (hs.mayRead_of_read?_eq_none hn)] at hread
    have hv := hp.keeps_passed_iff.mp hk
    refine ⟨⟨fun _ => hv, fun _ => by rw [hread]; rfl⟩, fun _ other overwrite ho => ?_⟩
    refine ⟨_, hp.publish_other ho overwrite, ?_⟩
    rw [Cache.load, hread]
    simp only [hp.entries_cached hk]
  | unkept hn hp hw =>
    have hp := publish_ok hp
    have hread : publisher.cache.read? after.files = none := by rw [hp.files_eq, hn]
    simp only [hread, Option.isSome_none, Bool.false_eq_true]
    exact ⟨⟨False.elim, hp.exists_not_keeps hw⟩, False.elim⟩

theorem load_eq_publish_of_fallback :
    let run := usual.run (.ofTemplate "A=fallback(1)") .production
    run = (.ok (.validated [⟨"A", "1", .ok⟩]), run.2) ∧
      usual.cache.isPresent run.2.files ∧
      usual.cache.load run.2.files false (.memory ∅) =
        (true, .memory (OrderedMap.ofList [("A", "1")])) := by
  intro run
  have h : run = (.ok (.validated [⟨"A", "1", .ok⟩]), run.2) := by decide +kernel
  obtain ⟨hp, hl⟩ := load_eq_publish h
  have hv : usual.cache.isPresent run.2.files := hp.mpr (by decide)
  obtain ⟨published, he, hload⟩ := hl hv (.memory ∅) false rfl
  cases he
  exact ⟨h, hv, hload⟩

end EnvTemplate.Publisher
