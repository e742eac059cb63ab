import CrossReference.CommandLine.Run
import CrossReference.Json.Parses
import CrossReference.Watch

set_option autoImplicit false

/-!
# The program

Reads what a command line needs from the file system, leaves the work to `CommandLine`, and writes
back what has changed. Parse trees are looked up in a file that a parser has left.
-/
namespace CrossReference.CommandLine

def parsesPath : String := "refgraph.parses.json"

def readParses : IO ParseStore := do
  let known ← try pure (Json.parse? (← IO.FS.readFile parsesPath)) catch _ => pure none
  return (known.bind ParseStore.ofJson?).getD ⟨[]⟩

def lookAt (path : String) : IO (Option Folder.Content) := do
  try
    return some (.file (← IO.FS.readBinFile path))
  catch
    | .noFileOrDirectory .. => return none
    | _ => return some .directory

def observeParts (folder : Folder) (way : String) : List String → IO Folder
  | [] => return folder
  | part :: rest => do
    let path := way ++ part
    match folder.locate path with
    | .error _ => if path = "" then observeParts folder "/" rest else return folder
    | .ok place =>
      let content ← if (folder.at? place).isSome then pure none else lookAt path
      observeParts (content.elim folder (folder.put place)) (path ++ "/") rest

def observe (folder : Folder) (path : String) : IO Folder :=
  observeParts folder "" (Folder.partsOf path)

def Invocation.settingsFile (i : Invocation) : String := i.settingsPath.getD Settings.defaultPath

def surroundings (i : Invocation) : IO Surroundings := do
  let folder ← observe Folder.empty i.settingsFile
  let quiet := asksForQuiet (← IO.getEnv "REFGRAPH_QUIET")
  let parse := (← readParses).parse
  match i.command with
  | .analyze source _ =>
    if isStandardInput source then
      return { folder, input := ← (← IO.getStdin).readBinToEnd, quiet, parse }
    else return { folder := ← observe folder source, quiet, parse }
  | _ => return { folder, quiet, parse }

def writeBack (folder : Folder) (path : String) : IO Unit := do
  if let .ok bytes := folder.readBytes path then
    IO.FS.writeBinFile path bytes

def finish (r : Report) : IO UInt32 := do
  IO.print r.output
  IO.eprint r.complaint
  return UInt32.ofNat r.code

/-- Looks at a source once a second; `seen` is what was there before. -/
partial def keepWatching (quiet : Bool) (path : String) (format : Format) (watch : Watch)
    (seen : Option (Option String)) : IO UInt32 := do
  let content := (← observe Folder.empty path).readText path
  let (outcome, next) :=
    if seen = some content.toOption then (.unchanged, watch) else watch.process content
  match outcome with
  | .updated graph =>
    unless quiet do IO.println ("📝 " ++ path)
    IO.print (format.render quiet graph)
  | .unchanged => pure ()
  | .failed error => IO.eprintln ("⚠️ " ++ error.message ++ " (keeping previous graph)")
  IO.sleep 1000
  keepWatching quiet path format next (some content.toOption)

def perform (i : Invocation) : IO UInt32 := do
  let s ← surroundings i
  match s.run i with
  | .done output folder =>
    if let .init _ := i.command then writeBack folder i.settingsFile
    finish { code := 0, output, folder }
  | .failed failure folder => finish (failure.report folder)
  | .watch path format settings =>
    unless s.quiet do IO.println ("👀 Watching " ++ path)
    keepWatching s.quiet path format { analysis := Analysis.ofSettings s.parse settings } none
  | .serve _ _ =>
    finish { code := 1, complaint := "Error: no listener for requests\n", folder := s.folder }

end CrossReference.CommandLine

open CrossReference.CommandLine in
def main (words : List String) : IO UInt32 :=
  match Invocation.read words with
  | .error stop => finish (stop.report CrossReference.Folder.empty)
  | .ok invocation => perform invocation
