import EnvTemplate.Store.Basic
import EnvTemplate.Validator.Registry

namespace EnvTemplate

/-- What a publisher is told: the names of its two files, whether values that are there may be
overwritten, and the custom validators. -/
structure Settings where
  template : String
  envFile : String
  overwrite : Bool
  custom : OrderedMap String CustomValidator

namespace Settings

def usualTemplate : String := ".env.example"

def usualEnvFile : String := ".env"

/-- Settings in which an empty name stands for the usual one, and of custom validators under one
name the last counts. -/
def ofNames (template envFile : String) (overwrite : Bool)
    (custom : List (String × CustomValidator)) : Settings where
  template := if template = "" then usualTemplate else template
  envFile := if envFile = "" then usualEnvFile else envFile
  overwrite := overwrite
  custom := OrderedMap.ofList custom

def registry (settings : Settings) : Registry := Registry.standard.insertAll settings.custom.entries

def customNames (settings : Settings) : List String :=
  settings.custom.keys.mergeSort fun a b => !decide (b < a)

def describe (settings : Settings) : String :=
  "LoaderOptions \x7b example: " ++ Text.quote settings.template ++ ", envfile: " ++
    Text.quote settings.envFile ++ ", allow_overwrite: " ++
    (if settings.overwrite then "true" else "false") ++ ", custom_validators: " ++
    Text.quoteList settings.customNames ++ " \x7d"

end Settings

/-- In production a cache is used and kept, in development it is removed. -/
inductive Mode
  | production
  | development
  deriving DecidableEq, Repr

def Mode.ofVariable (store : Store) (key value : String) : Mode :=
  if store.value? key = some value then production else development

end EnvTemplate
