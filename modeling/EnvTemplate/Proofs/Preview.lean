import EnvTemplate.CommandLine.Session
import EnvTemplate.Proofs.Simulation

namespace EnvTemplate

open Text

namespace Store

theorem not_allOk_screened_iff {vars : Variables} {verdicts : Verdicts}
    (hk : ∀ v ∈ verdicts, EnvFile.IsKey v.key) :
    ¬((process vars).screened verdicts).allOk ↔
      ¬verdicts.allOk ∨ ∃ v ∈ verdicts, v.isOk ∧ ¬(Text.NulFree v.key ∧ Text.NulFree v.value) := by
  rw [allOk_screened_iff]
  by_cases ho : verdicts.allOk
  · have hv : ∀ v ∈ verdicts, v.isOk := List.all_eq_true.mp ho
    constructor
    · intro h
      by_contra hc
      refine h ⟨ho, fun v hm => (accepts_process_iff (hk v hm)).mpr ?_⟩
      by_contra hz
      exact hc (.inr ⟨v, hm, hv v hm, hz⟩)
    · rintro (hf | ⟨v, hm, -, hz⟩) ⟨-, ha⟩
      · exact hf ho
      · exact hz ((accepts_process_iff (hk v hm)).mp (ha v hm))
  · exact iff_of_true (fun h => ho h.1) (.inl ho)

end Store

namespace Publisher

variable {publisher : Publisher} {world : World}

theorem run_development_stops_iff {files : FileTree}
    (hc : publisher.cache.clear world.files = (.ok (), files)) :
    (∃ verdicts, (publisher.run world .development).1 = .error (.validation verdicts)) ↔
      ¬(world.store.screened (publisher.validate { world with files := files }).1).allOk := by
  have hr := freshRun publisher world
  constructor
  · rintro ⟨verdicts, he⟩
    generalize publisher.run world .development = answer at hr he
    cases hr with
    | uncleared hf => cases he
    | refused hf hp =>
      rw [hc] at hf
      cases hf
      have hs := not_screened_of_publish hp
      exact hs
    | published hf hp => cases he
  · intro hs
    generalize publisher.run world .development = answer at hr ⊢
    cases hr with
    | uncleared hf =>
      rw [hc] at hf
      cases hf
    | refused hf hp => exact ⟨_, rfl⟩
    | published hf hp =>
      rw [hc] at hf
      cases hf
      have hp := publish_ok hp
      obtain rfl := hp.verdicts_eq
      exact absurd hp.screened hs

end Publisher

instance (answer : Except PublishError Provenance) :
    Decidable (∃ verdicts, answer = .error (.validation verdicts)) :=
  match answer with
  | .error (.validation verdicts) => isTrue ⟨verdicts, rfl⟩
  | .error (.configuration _) | .error (.cache _) | .ok _ => isFalse nofun

namespace CommandLine

variable {args : Arguments} {choice : ModeChoice} {program : String} {arguments : List String}
  {host : Host} {format : Report.Format}

def Arguments.publisher (args : Arguments) : Publisher := ⟨args.directory, settings args⟩

def Host.world (host : Host) : World := ⟨.process host.environment, host.files, []⟩

def Host.snapshot (host : Host) : World :=
  ⟨.memory (Store.process host.environment).texts, host.files, []⟩

theorem make_publisher (hd : args.directory.bytes ≠ []) :
    Publisher.make args.directory (settings args) = .ok args.publisher := if_neg hd

/-- A run ends with verdicts whatever programs would do, so it has not started one. -/
def FailsValidation (args : Arguments) (choice : ModeChoice) (program : String)
    (arguments : List String) (host : Host) : Prop :=
  ∃ verdicts files, ∀ behaviour,
    execute behaviour { args with command := .run choice program arguments } host =
      .failed ByteArray.empty (.of (.publish (.validation verdicts))) files

/-- A check passes a value that a process cannot be given under its name. -/
def PassesZero (args : Arguments) (host : Host) : Prop :=
  args.directory.bytes ≠ [] ∧ ∃ v ∈ (args.publisher.validate host.snapshot).1,
    v.isOk ∧ ¬(NulFree v.key ∧ NulFree v.value)

theorem failsValidation_iff : FailsValidation args choice program arguments host ↔
    ∃ verdicts, (Publisher.runIn args.directory (settings args)
      (choice.mode (.process host.environment)) host.world).1 = .error (.validation verdicts) := by
  have hx : ∀ behaviour,
      execute behaviour { args with command := .run choice program arguments } host =
        run behaviour args choice program arguments host := fun _ => rfl
  simp only [FailsValidation, hx, run, Host.world]
  generalize Publisher.runIn args.directory (settings args) _ _ = ending
  obtain ⟨answer, after⟩ := ending
  constructor
  · rintro ⟨_, _, h⟩
    -- if a program were started, one that cannot be would end the run with another exit code
    have he := congrArg Done.exit (h fun _ _ => .error .notFound)
    match answer with
    | .error (.validation verdicts) => exact ⟨verdicts, rfl⟩
    | .error (.configuration _) | .error (.cache _) =>
      simp [Done.failed, Failure.exitCode_publish] at he
    | .ok _ => cases he
  · rintro ⟨verdicts, rfl⟩
    exact ⟨verdicts, after.files, fun _ => rfl⟩

/-- Whether a run fails its validation is decided before a program matters. -/
instance : Decidable (FailsValidation args choice program arguments host) :=
  decidable_of_iff _ failsValidation_iff.symm

theorem not_failsValidation_of_nil (hd : args.directory.bytes = []) :
    ¬FailsValidation args choice program arguments host := by
  rw [failsValidation_iff, Publisher.runIn, Publisher.make, if_pos hd]
  rintro ⟨_, h⟩
  cases h

theorem exit_check_of_nil (hd : args.directory.bytes = []) : (check args host).exit = some 1 := by
  unfold check
  cases Report.Format.ofName? args.output with
  | none => rfl
  | some format =>
    rw [Publisher.make, if_pos hd]
    rfl

theorem exists_report
    (hw : format = .table →
      ∀ key ∈ (EnvFile.parse (host.files.readText args.publisher.template)).keys,
        key.utf8ByteSize ≤ Report.widest) :
    ∃ report, Report.render format args.reveal (args.publisher.validate host.snapshot).1 =
      .ok report := by
  have hk : ∀ v ∈ (args.publisher.validate host.snapshot).1,
      v.key ∈ (EnvFile.parse (host.snapshot.files.readText args.publisher.template)).keys :=
    fun v hv => Publisher.mem_keys_of_mem_validate hv
  exact (Report.exists_render_eq_ok_iff args.reveal).mpr fun hf v hv => hw hf _ (hk v hv)

theorem check_of_render {report : String} (hd : args.directory.bytes ≠ [])
    (hf : Report.Format.ofName? args.output = some format)
    (hr : Report.render format args.reveal (args.publisher.validate host.snapshot).1 =
      .ok report) :
    check args host =
      if (args.publisher.validate host.snapshot).1.allOk then .printed report host.files
      else .failed (line report)
        (.of (.checkFailed (args.publisher.validate host.snapshot).1.failures.length)) host.files := by
  unfold Host.snapshot at hr ⊢
  simp only [check, hf, make_publisher hd, hr]

theorem exit_check_iff (hd : args.directory.bytes ≠ [])
    (hf : Report.Format.ofName? args.output = some format)
    (hw : format = .table →
      ∀ key ∈ (EnvFile.parse (host.files.readText args.publisher.template)).keys,
        key.utf8ByteSize ≤ Report.widest) :
    (check args host).exit = some 5 ↔ ¬Verdicts.allOk (args.publisher.validate host.snapshot).1 := by
  obtain ⟨report, hr⟩ := exists_report hw
  rw [check_of_render hd hf hr]
  split
  · rename_i ho
    simp [ho, Done.printed]
  · rename_i ho
    simp [ho, Done.failed, Failure.exitCode, Failure.chain, Failure.exitCodeOf, Cause.isCheckFailed]

theorem validate_snapshot {files : FileTree} (henv : host.environment.Passable)
    (ht : files.readText args.publisher.template = host.files.readText args.publisher.template)
    (he : files.readText args.publisher.envFile = host.files.readText args.publisher.envFile) :
    (args.publisher.validate { host.world with files := files }).1 =
      (args.publisher.validate host.snapshot).1 := by
  have hj : args.publisher.judged { host.world with files := files } =
      args.publisher.judged host.snapshot :=
    Publisher.judged_congr ht he fun rule hm =>
      (henv.value?_texts (Publisher.isKey_of_mem_rules hm)).symm
  rw [Publisher.validate_eq, Publisher.validate_eq, hj]

theorem not_passesZero (henv : host.environment.Passable)
    (ht : NulFree (host.files.readText args.publisher.template))
    (he : NulFree (host.files.readText args.publisher.envFile)) : ¬PassesZero args host := by
  rintro ⟨-, v, hv, -, hz⟩
  have hr : args.publisher.settings.registry = .standard := rfl
  have hs : host.snapshot.store.NulFree := henv.nulFree_texts
  exact hz (Publisher.nulFree_of_mem_validate hr hs ht he hv)

theorem failsValidation_iff_of_cleared (hd : args.directory.bytes ≠ [])
    (henv : host.environment.Passable)
    (hmode : choice.mode (.process host.environment) = .development)
    (hclear : (args.publisher.cache.clear host.files).1 = .ok ())
    (ht : args.publisher.cache.Apart host.files args.publisher.template)
    (he : args.publisher.cache.Apart host.files args.publisher.envFile) :
    FailsValidation args choice program arguments host ↔
      ¬Verdicts.allOk (args.publisher.validate host.snapshot).1 ∨ PassesZero args host := by
  have hc : args.publisher.cache.clear host.world.files =
      (.ok (), (args.publisher.cache.clear host.files).2) := Prod.ext hclear rfl
  have hk : ∀ v ∈ (args.publisher.validate host.snapshot).1, EnvFile.IsKey v.key :=
    fun v hv => Publisher.isKey_of_mem_validate hv
  rw [failsValidation_iff, hmode, Publisher.runIn, make_publisher hd, PassesZero, and_iff_right hd,
    Publisher.run_development_stops_iff hc, validate_snapshot henv ht he]
  exact Store.not_allOk_screened_iff hk

/-- A run in development that can remove the cache fails its validation exactly if a check with the
same options exits with five, or passes what a process cannot be given. The latter needs a zero in
one of the two files, which are to be no part of the cache. -/
theorem check_predicts_run (behaviour : Behaviour) (program : String)
    (arguments : List String) (henv : host.environment.Passable)
    (hmode : choice.mode (.process host.environment) = .development)
    (hformat : Report.Format.ofName? args.output = some format)
    (hwide : format = .table →
      ∀ key ∈ (EnvFile.parse (host.files.readText args.publisher.template)).keys,
        key.utf8ByteSize ≤ Report.widest)
    (hclear : (args.publisher.cache.clear host.files).1 = .ok ())
    (ht : args.publisher.cache.Apart host.files args.publisher.template)
    (he : args.publisher.cache.Apart host.files args.publisher.envFile) :
    (FailsValidation args choice program arguments host ↔
        (execute behaviour { args with command := .check } host).exit = some 5 ∨ PassesZero args host) ∧
      (NulFree (host.files.readText args.publisher.template) →
        NulFree (host.files.readText args.publisher.envFile) →
        ((execute behaviour { args with command := .check } host).exit = some 5 ↔
          FailsValidation args choice program arguments host)) := by
  have hx : execute behaviour { args with command := .check } host = check args host := rfl
  rw [hx]
  have hiff : FailsValidation args choice program arguments host ↔
      (check args host).exit = some 5 ∨ PassesZero args host := by
    by_cases hd : args.directory.bytes = []
    · refine iff_of_false (not_failsValidation_of_nil hd) ?_
      rw [exit_check_of_nil hd]
      rintro (hf | ⟨hn, -⟩)
      · cases hf
      · exact hn hd
    · rw [failsValidation_iff_of_cleared hd henv hmode hclear ht he,
        exit_check_iff hd hformat hwide]
  refine ⟨hiff, fun hft hfe => ?_⟩
  rw [hiff, or_iff_left (not_passesZero henv hft hfe)]

def Host.ofTemplate (text : String) : Host := ⟨∅, [], (World.ofTemplate text).files⟩

def bare : Arguments := ⟨Path.ofText ".", none, none, true, "table", false, .check⟩

theorem check_predicts_run_of_required :
    let template := Host.ofTemplate "A=required"
    let host : Host :=
      ⟨Variables.ofBlock "B=x\x00".toUTF8, [], template.files.place Cache.fileName (.file "A=1".toUTF8)⟩
    Arguments.parse host.environment ["check"] = .ok bare ∧ ¬PassesZero bare host ∧
      ∀ behaviour, (execute behaviour bare host).exit = some 5 ∧
        FailsValidation bare .development "true" [] host := by
  intro template host
  have hclear : (bare.publisher.cache.clear host.files).1 = .ok () := by decide +kernel
  have hfile : host.files.look? bare.publisher.cache.path = some (.file "A=1".toUTF8) := by
    decide +kernel
  have hlink : ∀ target, host.files.look? bare.publisher.cache.path ≠ some (.link target) := by
    simp [hfile]
  have ht : bare.publisher.cache.Apart host.files bare.publisher.template :=
    Cache.apart_of_locate_ne hlink (by decide +kernel)
  have he : bare.publisher.cache.Apart host.files bare.publisher.envFile :=
    Cache.apart_of_locate_ne hlink (by decide +kernel)
  have hft : NulFree (host.files.readText bare.publisher.template) := by decide +kernel
  have hfe : NulFree (host.files.readText bare.publisher.envFile) := by decide +kernel
  have hp : host.environment.Passable := Variables.passable_ofBlock _
  have hmode : ModeChoice.development.mode (.process host.environment) = .development := rfl
  have hformat : Report.Format.ofName? bare.output = some .table := by decide +kernel
  refine ⟨by decide +kernel, not_passesZero hp hft hfe, fun behaviour => ?_⟩
  have hfive : (execute behaviour bare host).exit = some 5 := by
    show (check bare host).exit = some 5
    decide +kernel
  obtain ⟨-, hiff⟩ := check_predicts_run behaviour "true" [] hp hmode hformat (by decide +kernel)
    hclear ht he
  exact ⟨hfive, (hiff hft hfe).mp hfive⟩

/-- A zero in the template, an unknown format, and a template that is reached through the cache. -/
theorem check_and_run_disagree :
    let zero := Host.ofTemplate "A=fallback(x\x00y)"
    let host := Host.ofTemplate "A=required"
    let odd := { bare with output := "xml" }
    let linked : Host := { host with
      files := (FileTree.empty.place (Path.ofText "d/t") (.file "A=required".toUTF8)).place
        Cache.fileName (.link (Path.ofText "d")) }
    let within := { bare with template := some ".env.cache/t" }
    ((bare.publisher.cache.clear zero.files).1 = .ok () ∧ (check bare zero).exit = some 0 ∧
        FailsValidation bare .development "true" [] zero) ∧
      ((odd.publisher.cache.clear host.files).1 = .ok () ∧ (check odd host).exit = some 1 ∧
        FailsValidation odd .development "true" [] host) ∧
      ((within.publisher.cache.clear linked.files).1 = .ok () ∧ (check within linked).exit = some 5 ∧
        ¬FailsValidation within .development "true" [] linked) := by
  decide +kernel

end CommandLine

end EnvTemplate
