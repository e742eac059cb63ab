import CrossReference.Analysis
import CrossReference.CommandLine.Words
import CrossReference.Json.Forms
import CrossReference.Settings.Store
import CrossReference.Table.Graph

set_option autoImplicit false

/-!
# Running an invocation

What a command line prints and what it leaves behind. Settings are loaded before anything else is
done, so a command that needs none fails with the others if they cannot be read.
-/
namespace CrossReference.CommandLine

structure Surroundings where
  folder : Folder
  input : ByteArray := .empty
  quiet : Bool := false
  parse : String → ParseNode

def asksForQuiet (value : Option String) : Bool :=
  value.any fun v => v = "1" || v.toList.map Char.toLower = "true".toList

inductive Failure
  | source (fault : FileFault)
  | error (cause : Error)
deriving DecidableEq, Repr

def Failure.message : Failure → String
  | .source fault => fault.describe
  | .error cause => cause.message

inductive Outcome
  | done (output : String) (folder : Folder)
  | watch (source : String) (format : Format) (settings : Settings)
  | serve (port : UInt16) (settings : Settings)
  | failed (failure : Failure) (folder : Folder)

/-- A graph as it is shown. A line that only says how things stand is left out in quiet. -/
def Format.render (quiet : Bool) (graph : Graph) : Format → String
  | .json => graph.toData.render ++ "\n"
  | .table =>
    if graph.edges.isEmpty then if quiet then "" else "ℹ️ Edges: none\n"
    else graph.edgeTable .plain ++ "\n"
  | .stats => (if quiet then "" else "\n━Reference Graph━\n") ++ graph.stats.table ++ "\n"

/-- A dash stands for the standard input, as does a dash with slashes and dots after it. -/
def isStandardInput (path : String) : Bool :=
  match Folder.partsOf path with
  | "-" :: rest => rest.all Folder.staysHere
  | _ => false

namespace Surroundings

def readSource (s : Surroundings) (path : String) : Except FileFault String :=
  if isStandardInput path then
    match Text.ofBytes? s.input with
    | some source => .ok source
    | none => .error .notText
  else s.folder.readText path

def analyze (s : Surroundings) (settings : Settings) (path : String) (format : Format) : Outcome :=
  match s.readSource path with
  | .error fault => .failed (.source fault) s.folder
  | .ok source =>
    match (Analysis.ofSettings s.parse settings).run source with
    | .error error => .failed (.error error) s.folder
    | .ok graph => .done (format.render s.quiet graph) s.folder

def span (s : Surroundings) (id : String) : Outcome :=
  match ElementId.readSpan id with
  | .error error => .failed (.error error) s.folder
  | .ok span => .done (toString span.start ++ " " ++ toString span.stop ++ "\n") s.folder

def init (s : Surroundings) (settings : Settings) (path : String) (force : Bool) : Outcome :=
  match Settings.save s.folder path settings force with
  | (.error error, folder) => .failed (.error error) folder
  | (.ok _, folder) => .done (if s.quiet then "" else "✅ Wrote " ++ path ++ "\n") folder

def runCommand (s : Surroundings) (settings : Settings) (path : String) : Command → Outcome
  | .analyze source format => s.analyze settings source format
  | .watch source format => .watch source format settings
  | .serve port => .serve (port.getD settings.server.port) settings
  | .span id => s.span id
  | .init force => s.init settings path force

def run (s : Surroundings) (invocation : Invocation) : Outcome :=
  let path := invocation.settingsPath.getD Settings.defaultPath
  match Settings.load s.folder path with
  | .error error => .failed (.error error) s.folder
  | .ok settings => s.runCommand settings path invocation.command

end Surroundings

structure Report where
  code : Nat
  output : String := ""
  complaint : String := ""
  folder : Folder

def versionText : String := "refgraph 0.1.0\n"

def usage : String :=
  "Usage: refgraph [-v] [-c PATH] COMMAND\n\n"
    ++ "Commands:\n"
    ++ "  analyze INPUT [-f json|table|stats]  show the graph of a source\n"
    ++ "  watch PATH [-f json|table|stats]     show it each time the source changes\n"
    ++ "  serve [-p PORT]                      answer requests for graphs\n"
    ++ "  span ID                              show the span in an element id\n"
    ++ "  init [-f]                            store the settings\n"

def Stop.report (folder : Folder) : Stop → Report
  | .misuse => { code := 2, complaint := usage, folder }
  | .help => { code := 0, output := usage, folder }
  | .version => { code := 0, output := versionText, folder }

def Failure.report (folder : Folder) (f : Failure) : Report :=
  { code := 1, complaint := "Error: " ++ f.message ++ "\n", folder }

def Outcome.report? : Outcome → Option Report
  | .done output folder => some { code := 0, output, folder }
  | .failed failure folder => some (failure.report folder)
  | .watch .. | .serve .. => none

def Surroundings.answer? (s : Surroundings) (words : List String) : Option Report :=
  match Invocation.read words with
  | .error stop => some (stop.report s.folder)
  | .ok invocation => (s.run invocation).report?

end CrossReference.CommandLine
