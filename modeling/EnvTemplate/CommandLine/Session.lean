import EnvTemplate.CommandLine.Arguments
import EnvTemplate.CommandLine.Behaviour
import EnvTemplate.CommandLine.Failure
import EnvTemplate.Publisher.Basic

namespace EnvTemplate.CommandLine

structure Host where
  environment : Variables
  others : List Bytes
  files : FileTree
  deriving DecidableEq

/-- What a command leaves, log output apart. One that breaks off has no exit code of its own. -/
structure Done where
  exit : Option Nat
  stdout : ByteArray
  stderr : ByteArray
  files : FileTree
  deriving DecidableEq

def line (s : String) : ByteArray := (s ++ "\n").toUTF8

def Done.printed (text : String) (files : FileTree) : Done :=
  ⟨some 0, line text, ByteArray.empty, files⟩

/-- A failure prints its messages after what was printed already. -/
def Done.failed (printed : ByteArray) (failure : Failure) (files : FileTree) : Done :=
  ⟨some failure.exitCode, printed, line failure.text, files⟩

def Done.broken (files : FileTree) : Done :=
  ⟨none, ByteArray.empty, line "Formatting argument out of range", files⟩

def settings (args : Arguments) : Settings :=
  Settings.ofNames (args.template.getD "") (args.envFile.getD "") args.overwrite []

/-- Validate against the variables that are text, and print the report. -/
def check (args : Arguments) (host : Host) : Done :=
  match Report.Format.ofName? args.output with
  | none => .failed ByteArray.empty (.of (.format args.output)) host.files
  | some format =>
    match Publisher.make args.directory (settings args) with
    | .error error =>
      .failed ByteArray.empty (.during "Failed to create loader" (.of (.setup error))) host.files
    | .ok publisher =>
      let store : Store := .memory (Store.process host.environment).texts
      let (verdicts, _) := publisher.validate ⟨store, host.files, []⟩
      match Report.render format args.reveal verdicts with
      | .error _ => .broken host.files
      | .ok report =>
        if verdicts.allOk then .printed report host.files
        else .failed (line report) (.of (.checkFailed verdicts.failures.length)) host.files

def ModeChoice.mode (store : Store) : ModeChoice → Mode
  | development => .development
  | production => .production
  | auto key value => Mode.ofVariable store key value

def variablesOf : Store → Variables
  | .process vars => vars
  | .memory vars => vars.filterMap fun _ value => some value.toUTF8

/-- Load the environment, then start the program with it; its exit code is the answer. -/
def run (behaviour : Behaviour) (args : Arguments) (choice : ModeChoice) (program : String)
    (arguments : List String) (host : Host) : Done :=
  let store : Store := .process host.environment
  let world : World := ⟨store, host.files, []⟩
  match Publisher.runIn args.directory (settings args) (choice.mode store) world with
  | (.error error, after) => .failed ByteArray.empty (.of (.publish error)) after.files
  | (.ok _, after) =>
    match behaviour after.files ⟨program, arguments, variablesOf after.store, host.others⟩ with
    | .error cause =>
      .failed ByteArray.empty (.during s!"Failed to run {program}" (.of (.file cause))) after.files
    | .ok ended => ⟨some ended.status.code, ended.stdout, ended.stderr, ended.files⟩

def cacheStatus (args : Arguments) (host : Host) : Done :=
  match Report.Format.ofName? args.output with
  | none => .failed ByteArray.empty (.of (.format args.output)) host.files
  | some format =>
    let cache := Cache.ofDirectory args.directory
    let found := cache.read? host.files
    let keys := toString ((found.map OrderedMap.size).getD 0)
    match format with
    | .json =>
      .printed (Text.Json.object "" [("path", Text.Json.string cache.path.text),
        ("present", if found.isSome then "true" else "false"), ("keys", keys)]) host.files
    | .table =>
      if found.isSome then .printed s!"Cache present at {cache.path.text} ({keys} keys)" host.files
      else .printed s!"No cache at {cache.path.text}" host.files

def cacheClear (args : Arguments) (host : Host) : Done :=
  match Report.Format.ofName? args.output with
  | none => .failed ByteArray.empty (.of (.format args.output)) host.files
  | some _ =>
    match (Cache.ofDirectory args.directory).clear host.files with
    | (.ok _, files) => .printed "Cache cleared" files
    | (.error error, files) =>
      .failed ByteArray.empty
        (.during s!"Failed to clear cache in {args.directory.text}" (.of (.cache error))) files

def execute (behaviour : Behaviour) (args : Arguments) (host : Host) : Done :=
  match args.command with
  | .check => check args host
  | .run choice program arguments => run behaviour args choice program arguments host
  | .cacheStatus => cacheStatus args host
  | .cacheClear => cacheClear args host

def versionText : String := "envgate 0.1.0\n"

def usageText : String :=
  "Usage: envgate [OPTIONS] check\n" ++
  "       envgate [OPTIONS] run [--production | --mode-key <KEY> --production-value <VALUE>]" ++
  " -- <PROGRAM> [ARGUMENTS]\n" ++
  "       envgate [OPTIONS] cache status|clear\n"

def Done.stopped (stop : Stop) (files : FileTree) : Done :=
  match stop with
  | .usage => ⟨some stop.exitCode, ByteArray.empty, usageText.toUTF8, files⟩
  | .help => ⟨some stop.exitCode, usageText.toUTF8, ByteArray.empty, files⟩
  | .version => ⟨some stop.exitCode, versionText.toUTF8, ByteArray.empty, files⟩

def invoke (behaviour : Behaviour) (args : List String) (host : Host) : Except Stop Done :=
  (Arguments.parse host.environment args).map fun args => execute behaviour args host

end EnvTemplate.CommandLine
