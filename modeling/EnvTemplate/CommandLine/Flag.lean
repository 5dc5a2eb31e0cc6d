namespace EnvTemplate.CommandLine

inductive Flag
  | directory
  | template
  | envFile
  | noOverwrite
  | output
  | reveal
  | production
  | modeKey
  | productionValue
  | version
  | help
  deriving DecidableEq, Repr

namespace Flag

def long : Flag → String
  | directory => "dir"
  | template => "example"
  | envFile => "envfile"
  | noOverwrite => "no-overwrite"
  | output => "output"
  | reveal => "reveal"
  | production => "production"
  | modeKey => "mode-key"
  | productionValue => "production-value"
  | version => "version"
  | help => "help"

def short? : Flag → Option Char
  | directory => some 'd'
  | output => some 'o'
  | version => some 'V'
  | help => some 'h'
  | _ => none

def takesValue : Flag → Bool
  | directory | template | envFile | output | modeKey | productionValue => true
  | _ => false

/-- The environment variable that stands in for a flag that is not given. -/
def environmentKey? : Flag → Option String
  | directory => some "ENVGATE_DIR"
  | template => some "ENVGATE_EXAMPLE"
  | envFile => some "ENVGATE_ENVFILE"
  | noOverwrite => some "ENVGATE_NO_OVERWRITE"
  | _ => none

def common : List Flag := [directory, template, envFile, noOverwrite, output, reveal, help]

end Flag

inductive Level
  | top
  | check
  | run
  | cache
  | cacheStatus
  | cacheClear
  deriving DecidableEq, Repr

namespace Level

def command? : Level → String → Option Level
  | top, "check" => some check
  | top, "run" => some run
  | top, "cache" => some cache
  | cache, "status" => some cacheStatus
  | cache, "clear" => some cacheClear
  | _, _ => none

def flags : Level → List Flag
  | top => Flag.common ++ [.version]
  | run => Flag.common ++ [.production, .modeKey, .productionValue]
  | _ => Flag.common

def hasCommands : Level → Bool
  | top | cache => true
  | _ => false

def ofLong? (level : Level) (name : String) : Option Flag :=
  level.flags.find? fun flag => flag.long = name

def ofShort? (level : Level) (c : Char) : Option Flag :=
  level.flags.find? fun flag => flag.short? = some c

end Level

end EnvTemplate.CommandLine
