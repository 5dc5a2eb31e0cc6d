import EnvTemplate.Store.Publish
import EnvTemplate.Publisher.Error
import EnvTemplate.Publisher.Settings
import EnvTemplate.Rule

namespace EnvTemplate

/-- What a publisher acts on: a store, the files, and the custom validators called so far. -/
structure World where
  store : Store
  files : FileTree
  journal : List Invocation
  deriving DecidableEq

structure Publisher where
  directory : Path
  settings : Settings

inductive Provenance
  | cached
  | validated (verdicts : Verdicts)
  deriving DecidableEq, Repr

namespace Publisher

def make (directory : Path) (settings : Settings) : Except SetupError Publisher :=
  if directory.bytes = [] then .error .missingDirectory else .ok ⟨directory, settings⟩

def template (publisher : Publisher) : Path :=
  publisher.directory.join (Path.ofText publisher.settings.template)

def envFile (publisher : Publisher) : Path :=
  publisher.directory.join (Path.ofText publisher.settings.envFile)

def cache (publisher : Publisher) : Cache := Cache.ofDirectory publisher.directory

def rules (publisher : Publisher) (files : FileTree) : List Rule :=
  Rule.ofTemplate publisher.settings.registry (EnvFile.parse (files.readText publisher.template))

def validate (publisher : Publisher) (world : World) : Verdicts × World :=
  let file := EnvFile.parse (world.files.readText publisher.envFile)
  let (verdicts, made) := Rule.judgeAll publisher.settings.registry
    (fun key => world.store.value? key) file (publisher.rules world.files)
  (verdicts, { world with journal := world.journal ++ made })

def publish (publisher : Publisher) (world : World) : Except Verdicts Verdicts × World :=
  let (verdicts, judged) := publisher.validate world
  let (answer, store) := judged.store.publish publisher.settings.overwrite verdicts
  (answer, { judged with store := store })

def restore (publisher : Publisher) (world : World) : Bool × World :=
  let (found, store) := publisher.cache.load world.files publisher.settings.overwrite world.store
  (found, { world with store := store })

def keep (publisher : Publisher) (verdicts : Verdicts) (world : World) :
    Except Cache.Error Unit × World :=
  let (answer, files) := publisher.cache.write verdicts world.files
  (answer, { world with files := files })

def forget (publisher : Publisher) (world : World) : Except Cache.Error Unit × World :=
  let (answer, files) := publisher.cache.clear world.files
  (answer, { world with files := files })

/-- Use the cache if there is one; else validate, publish and write the cache. Values that the
cache cannot keep are published without being cached. -/
def runCached (publisher : Publisher) (world : World) : Except PublishError Provenance × World :=
  match publisher.restore world with
  | (true, loaded) => (.ok .cached, loaded)
  | (false, missed) =>
    match publisher.publish missed with
    | (.error verdicts, after) => (.error (.validation verdicts), after)
    | (.ok verdicts, published) =>
      match publisher.keep verdicts published with
      | (.ok _, written) => (.ok (.validated verdicts), written)
      | (.error (.unstorable _ _), unwritten) => (.ok (.validated verdicts), unwritten)
      | (.error error, after) => (.error (.cache error), after)

def runAfresh (publisher : Publisher) (world : World) : Except PublishError Provenance × World :=
  match publisher.forget world with
  | (.error error, after) => (.error (.cache error), after)
  | (.ok _, cleared) =>
    match publisher.publish cleared with
    | (.error verdicts, after) => (.error (.validation verdicts), after)
    | (.ok verdicts, published) => (.ok (.validated verdicts), published)

def run (publisher : Publisher) (world : World) : Mode → Except PublishError Provenance × World
  | .production => publisher.runCached world
  | .development => publisher.runAfresh world

def runIn (directory : Path) (settings : Settings) (mode : Mode) (world : World) :
    Except PublishError Provenance × World :=
  match make directory settings with
  | .error error => (.error (.configuration error), world)
  | .ok publisher => publisher.run world mode

end Publisher

end EnvTemplate
