import EnvTemplate.Child.Programs
import EnvTemplate.CommandLine.Session
import EnvTemplate.FileTree.Difference
import EnvTemplate.FileTree.System

namespace EnvTemplate.Disk

def path (location : Location) : String := "/" ++ (Path.ofNames location).text

/-- Read what stands below a location. What cannot be read, and a link to a directory, is left
out. -/
partial def readBelow (tree : FileTree) (here : Location) : IO FileTree := do
  let directory ← IO.FS.realPath (path here)
  let entries ← try directory.readDir catch _ => pure #[]
  entries.foldlM (fun tree entry => do
    let location := here ++ [Text.Utf8.encode entry.fileName]
    match (← entry.path.symlinkMetadata).type with
    | .dir => readBelow (tree.put location .directory) location
    | .other => pure tree
    | _ =>
      try
        let content ← IO.FS.readBinFile entry.path
        pure (tree.put location (.file content))
      catch _ => pure tree) tree

def write (location : Location) : Change → IO Unit
  | .remove => IO.FS.removeFile (path location)
  | .put (.file content) => IO.FS.writeBinFile (path location) content
  | .put .directory => IO.FS.createDirAll (path location)
  | .put _ => pure ()

end EnvTemplate.Disk

open EnvTemplate

def main (args : List String) : IO UInt32 := do
  let block ← try IO.FS.readBinFile "/proc/self/environ" catch _ => pure ByteArray.empty
  let home := (Path.ofText (← IO.currentDir).toString).names
  let files ← Disk.readBelow (FileTree.system home) home
  let done :=
    match CommandLine.invoke Child.launched args
        ⟨Variables.ofBlock block, Variables.othersOfBlock block, files⟩ with
    | .error stop => CommandLine.Done.stopped stop files
    | .ok done => done
  (files.changes done.files).forM fun (location, change) => Disk.write location change
  (← IO.getStdout).write done.stdout
  (← IO.getStderr).write done.stderr
  return (done.exit.getD 134).toUInt32
