import EnvTemplate.Proofs.Run

namespace EnvTemplate.Publisher

variable {publisher : Publisher} {world after : World} {mode : Mode} {error : PublishError}

/-- What a failed run leaves of the files. If a verdict is the reason nothing is written, and in
development the cache is gone; if the cache is, no more has been done to it than the failed operation
leaves. -/
def FailureLeaves (publisher : Publisher) (world : World) (mode : Mode) (files : FileTree) :
    PublishError → Prop
  | .cache error => publisher.cache.Residue
      (Cache.rendered (publisher.validate world).1) world.files files error
  | .validation _ => files = world.files ∨
      mode = .development ∧ world.files.unlink publisher.cache.path = .ok files
  | .configuration _ => False

/-- A failed run leaves the store alone in development and whenever a verdict is the reason. If the
cache is the reason in production, the values have been published before. -/
theorem failed_run_keeps_store_iff (h : publisher.run world mode = (.error error, after)) :
    publisher.FailureLeaves world mode after.files error ∧
      (after.store = world.store ↔
        mode = .development ∨ (∃ verdicts, error = .validation verdicts) ∨
          world.store.setAll publisher.settings.overwrite (publisher.validate world).1.pairs =
            world.store) := by
  cases mode with
  | production =>
    have hr := cachedRun publisher world
    rw [h] at hr
    cases hr with
    | refused _ hp =>
      obtain ⟨hs, hf⟩ := publish_error hp
      exact ⟨.inl hf, by simp [hs]⟩
    | broken _ hp hw =>
      have hp := publish_ok hp
      obtain rfl := hp.verdicts_eq
      exact ⟨Cache.write_error hw, by simp [hp.store_eq]⟩
  | development =>
    have hr := freshRun publisher world
    rw [h] at hr
    cases hr with
    | uncleared hu => exact ⟨Cache.clear_error hu _, by simp⟩
    | refused hu hp =>
      obtain ⟨hs, hf⟩ := publish_error hp
      have hc := Cache.clear_cases publisher.cache world.files
      rw [hu] at hc
      refine ⟨?_, by simp [hs]⟩
      rw [hf]
      exact hc.imp_right fun hc => ⟨rfl, hc⟩

theorem failed_run_keeps_store_of_required :
    let world := World.ofTemplate "A=required"
    let verdicts := [⟨"A", "", .failed "[required]: value for A cannot be empty"⟩]
    let run := usual.run world .production
    run = (.error (.validation verdicts), run.2) ∧ run.2.files = world.files ∧
      run.2.store = world.store := by
  intro world verdicts run
  have he : run = (.error (.validation verdicts), run.2) := by decide +kernel
  obtain ⟨hf, hs⟩ := failed_run_keeps_store_iff he
  obtain hf | ⟨hm, -⟩ := hf
  · exact ⟨he, hf, hs.mpr (.inr (.inl ⟨verdicts, rfl⟩))⟩
  · cases hm

/-- A directory in the place of the cache makes a run fail after its values have been
published. -/
theorem failed_run_with_published_value :
    let template := World.ofTemplate "A=fallback(1)"
    let world := { template with files := template.files.place Cache.fileName .directory }
    let run := usual.run world .production
    run = (.error (.cache (.cannotOpen usual.cache.path .isADirectory)), run.2) ∧
      run.2.store ≠ world.store := by
  decide +kernel

end EnvTemplate.Publisher
