import CrossReference.CommandLine.Run
import CrossReference.Proofs.Analysis.WireForm
import CrossReference.Proofs.Folder.Writing
import CrossReference.Proofs.Json.Graphs
import CrossReference.Proofs.Settings.History
import CrossReference.Service

set_option autoImplicit false

/-!
# Three ways to one graph

A command line, a request and a direct call each set up an analysis of their own and write the graph
in a layout of their own. Who reads what they hand out gets the same data, or learns of the same
fault: `frontEnds_agree`.
-/
namespace CrossReference

open CommandLine Json Service

namespace Analysis

variable {parse : String → ParseNode} {source : String} {fault : SyntaxFault}

theorem run_cases (a : Analysis) (source : String) :
    (∃ g, a.run source = .ok g) ∨
      ∃ fault, (a.parse source).fault? source = some fault ∧
        a.run source = .error (.parse fault) := by
  rw [run_eq, Program.read]
  cases (a.parse source).fault? source with
  | none => exact .inl ⟨_, rfl⟩
  | some fault =>
    cases a.strict with
    | true => exact .inr ⟨fault, rfl, rfl⟩
    | false => exact .inl ⟨_, rfl⟩

theorem quick_eq_error (found : (parse source).fault? source = some fault) :
    quick parse source = .error (.parse fault) := by
  rw [quick, run_eq, Program.read]
  simp only [found]
  rfl

end Analysis

namespace GraphData

theorem decode?_toCompact (d : GraphData) : decode? ofJson? d.toJson.toCompact = some d := by
  rw [decode?_written textual (.inl rfl), ofJson?_toJson]

theorem decode?_render_line (d : GraphData) : decode? ofJson? (d.render ++ "\n") = some d := by
  have blank : IsBlank ['\n'] := by simp [IsBlank, isSpace]
  have line : d.render ++ "\n" = String.ofList (d.toJson.pretty 0 ++ ['\n']) := by
    rw [render, toPretty, String.ofList_append]
  rw [decode?, line, parse?_of_reads_append (d.textual.reads_pretty 0) blank, Option.bind_some,
    ofJson?_toJson]

end GraphData

def Service.errorOf? (body : String) : Option String :=
  decode? (fun v => (v.fields? ["error"]).bind fun fields => required text? (fields.getD 0 none))
    body

theorem Service.errorOf?_toCompact (message : String) :
    errorOf? (Json.record [("error", .text message)]).toCompact = some message := by
  have names : FieldNames ["error"] := by decide
  have textual : (Json.record [("error", .text message)]).Textual :=
    textual_record names rfl (by simp [textual_text])
  have fields : (Json.record [("error", .text message)]).fields? ["error"] =
      some [some (.text message)] := fields?_record names rfl
  rw [errorOf?, decode?, parse?_of_written textual (.inl rfl), Option.bind_some, fields]
  exact text?_text message

namespace Service

/-- A request that posts a source for its graph, and no more than is taken. -/
structure Request.Posts (r : Request) (source : String) : Prop where
  method : r.method = "POST"
  route : route? r.target = some .graph
  body : r.body = source.toUTF8
  fits : source.utf8ByteSize ≤ bodyLimit

theorem Request.Posts.answer_eq {r : Request} {source : String} (h : r.Posts source)
    (analysis : Analysis) : answer analysis r = answerSource analysis source := by
  have asked : ¬r.method = "OPTIONS" := by
    rw [h.method]
    decide
  have taken : ¬bodyLimit < source.toUTF8.size := Nat.not_lt.mpr h.fits
  rw [answer, if_neg asked, h.route, h.method]
  simp only [answerGraph, h.body, if_neg taken, Text.ofBytes?_toUTF8]

end Service

namespace CommandLine.Surroundings

variable {s : Surroundings} {words : List String} {settings : Settings} {source : String}

/-- A command line that asks for the graph of a source as JSON, with settings that are loaded. -/
def Asks (s : Surroundings) (words : List String) (settings : Settings) (source : String) : Prop :=
  ∃ invocation path, Invocation.read words = .ok invocation ∧
    invocation.command = .analyze path .json ∧
    Settings.load s.folder (invocation.settingsPath.getD Settings.defaultPath) = .ok settings ∧
    s.readSource path = .ok source

theorem Asks.answer?_eq (h : s.Asks words settings source) : s.answer? words =
    match (Analysis.ofSettings s.parse settings).run source with
    | .ok g => some { code := 0, output := g.toData.render ++ "\n", folder := s.folder }
    | .error error => some (Failure.report s.folder (.error error)) := by
  obtain ⟨invocation, path, read, command, loaded, content⟩ := h
  simp only [answer?, read, run, loaded, command, runCommand, analyze, content]
  cases (Analysis.ofSettings s.parse settings).run source <;> rfl

def stocked (parse : String → ParseNode) (document source : String) : Surroundings where
  folder := Folder.empty.put [Settings.defaultPath] (.file document.toUTF8)
  input := source.toUTF8
  parse

/-- Whatever settings a file holds and whatever the source, a command line can ask for its graph. -/
theorem asks_stocked (parse : String → ParseNode) {document : String} (source : String)
    (read : Settings.parse? document = some settings) :
    (stocked parse document source).Asks ["analyze", "-"] settings source := by
  have invocation : Invocation.read ["analyze", "-"] =
      .ok { command := .analyze "-" .json } := by decide +kernel
  have empty : Folder.empty.TakesFile Settings.defaultPath [Settings.defaultPath] := ⟨rfl, nofun⟩
  refine ⟨_, "-", invocation, rfl, ?_, ?_⟩
  · exact Settings.load_of_file (empty.put _) (empty.at?_put_self _) read
  · have input : isStandardInput "-" := by decide +kernel
    rw [readSource, if_pos input]
    simp only [stocked, Text.ofBytes?_toUTF8]

end CommandLine.Surroundings

section
variable (s : Surroundings) (words : List String) (r : Request) (settings : Settings)
  (source : String)

/-- A request is answered with the data of a graph, a command line prints them, and a direct call,
    which knows only the settings by default, returns them. -/
structure AllGive (data : GraphData) : Prop where
  status : (answer (Analysis.ofSettings s.parse settings) r).status = 200
  body : decode? GraphData.ofJson? (answer (Analysis.ofSettings s.parse settings) r).body =
    some data
  printed : ∃ report, s.answer? words = some report ∧ report.code = 0 ∧
    decode? GraphData.ofJson? report.output = some data
  returned : settings = {} → Analysis.quick s.parse source = .ok data

/-- A request is answered with the text of an error, a command line fails and prints no graph, and a
    direct call returns the error. -/
structure AllRefuse (error : Error) : Prop where
  status : (answer (Analysis.ofSettings s.parse settings) r).status = 422
  body : errorOf? (answer (Analysis.ofSettings s.parse settings) r).body = some error.message
  printed : ∃ report, s.answer? words = some report ∧ report.code = 1 ∧ report.output = ""
  returned : Analysis.quick s.parse source = .error error

end

section
variable {s : Surroundings} {words : List String} {r : Request} {settings : Settings}
  {source : String}

theorem allGive (asks : s.Asks words settings source) (posts : r.Posts source) {g : Graph}
    (ran : (Analysis.ofSettings s.parse settings).run source = .ok g) :
    AllGive s words r settings source g.toData := by
  have answered := posts.answer_eq (Analysis.ofSettings s.parse settings)
  have reported := asks.answer?_eq
  rw [answerSource, ran] at answered
  rw [ran] at reported
  constructor
  case status => rw [answered]
  case body =>
    rw [answered]
    exact g.toData.decode?_toCompact
  case printed => exact ⟨_, reported, rfl, g.toData.decode?_render_line⟩
  case returned =>
    rintro rfl
    exact congrArg (Except.map Graph.toData) ran

theorem allRefuse (asks : s.Asks words settings source) (posts : r.Posts source)
    {fault : SyntaxFault} (found : (s.parse source).fault? source = some fault)
    (ran : (Analysis.ofSettings s.parse settings).run source = .error (.parse fault)) :
    AllRefuse s words r settings source (.parse fault) := by
  have answered := posts.answer_eq (Analysis.ofSettings s.parse settings)
  have reported := asks.answer?_eq
  rw [answerSource, ran] at answered
  rw [ran] at reported
  constructor
  case status => rw [answered]
  case body =>
    rw [answered]
    exact errorOf?_toCompact _
  case printed => exact ⟨_, reported, rfl, rfl⟩
  case returned => exact Analysis.quick_eq_error found

/-- Under any settings that can be loaded, a source that is asked for by a command line and posted
    in a request leads to the same data or to the same fault, and so does a direct call. -/
theorem frontEnds_agree (asks : s.Asks words settings source) (posts : r.Posts source) :
    (∃ g, (Analysis.ofSettings s.parse settings).run source = .ok g ∧
      AllGive s words r settings source g.toData) ∨
    ∃ fault, (Analysis.ofSettings s.parse settings).run source = .error (.parse fault) ∧
      AllRefuse s words r settings source (.parse fault) := by
  rcases (Analysis.ofSettings s.parse settings).run_cases source with ⟨g, ran⟩ | ⟨fault, found, ran⟩
  · exact .inl ⟨g, ran, allGive asks posts ran⟩
  · exact .inr ⟨fault, ran, allRefuse asks posts found ran⟩

def escapedColor : Settings := { palette := { reference := "\"red\\\n" } }

theorem frontEnds_agree_identityArrow :
    let parse := fun _ => ParseNode.identityArrow
    let s := Surroundings.stocked parse "[palette]\nreference = \"\\\"red\\\\\\n\"" "(x) => x"
    let r : Request := ⟨"POST", "/graph", "(x) => x".toUTF8⟩
    s.Asks ["analyze", "-"] escapedColor "(x) => x" ∧ r.Posts "(x) => x" ∧
      ∃ g, (Analysis.ofSettings parse escapedColor).run "(x) => x" = .ok g ∧
        AllGive s ["analyze", "-"] r escapedColor "(x) => x" g.toData := by
  intro parse s r
  have asks : s.Asks ["analyze", "-"] escapedColor "(x) => x" :=
    Surroundings.asks_stocked parse "(x) => x" (by decide +kernel)
  have posts : r.Posts "(x) => x" := ⟨rfl, by decide +kernel, rfl, by decide⟩
  refine ⟨asks, posts, ?_⟩
  rcases frontEnds_agree asks posts with given | ⟨fault, refused, _⟩
  · exact given
  · rw [Analysis.run_eq] at refused
    cases refused

end
end CrossReference
