import EnvTemplate.FileTree.Edit

namespace EnvTemplate.FileTree

def programNames : List String :=
  ["cat", "dash", "env", "false", "printenv", "sleep", "touch", "true"]

/-- What else stands on any system, as far as it is known here. -/
def systemEntries : List (String × Entry) :=
  [("/bin", .link (Path.ofText "usr/bin")), ("/dev/full", .device .full),
    ("/dev/null", .device .null), ("/dev/random", .device .endless),
    ("/dev/stderr", .device (.descriptor 2)), ("/dev/stdin", .device (.descriptor 0)),
    ("/dev/stdout", .device (.descriptor 1)), ("/dev/urandom", .device .endless),
    ("/dev/zero", .device .endless), ("/etc", .directory), ("/home", .directory),
    ("/root", .directory), ("/tmp", .directory),
    ("/usr/bin/sh", .link (Path.ofText "dash")), ("/var", .directory)]

def descriptorEntries : List (String × Entry) :=
  (List.range 10).map fun number => (s!"/dev/fd/{number}", .device (.descriptor number))

def programEntries : List (String × Entry) :=
  programNames.map fun name => ("/usr/bin/" ++ name, .program name)

/-- The present, as far as it is known here, to which the system has been there for a while. -/
def present : Moment := Calendar.momentOf (Calendar.Date.mk 2026 1 1).number 0

def age : Int := 100 * Calendar.secondsOfDay * Calendar.second

def system (home : Location) : FileTree :=
  let entries := systemEntries ++ descriptorEntries ++ programEntries
  let tree := { empty with now := present - age }.placeAll
    (entries.map fun (path, entry) => (Path.ofText path, entry))
  { (tree.wait age).makeDirectoriesFrom [] home with home := home }

end EnvTemplate.FileTree
