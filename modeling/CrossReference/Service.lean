import CrossReference.Analysis
import CrossReference.Folder
import CrossReference.Json.Forms

set_option autoImplicit false

/-!
# The graph service

Answers requests over HTTP: the graph of a posted source, and a sign of life.
-/
namespace CrossReference.Service

structure Request where
  method : String
  target : String
  body : ByteArray

structure Response where
  status : Nat
  body : String
deriving DecidableEq, Repr

def bodyLimit : Nat := 2 * 1024 * 1024

inductive Route
  | graph
  | health
deriving DecidableEq, Repr

def endsPath (c : Char) : Bool := c = '?' || c = '#'

def behindScheme? : List Char → Option (List Char)
  | ':' :: '/' :: '/' :: rest => some rest
  | c :: rest =>
    if c.isAlphanum || c = '+' || c = '-' || c = '.' then behindScheme? rest else none
  | [] => none

/-- The path of a request's target. Where a scheme and a host stand in front, the path may be left
    out; a host alone has no path. -/
def pathOf (target : List Char) : List Char :=
  match target with
  | '/' :: _ => target.takeWhile fun c => !endsPath c
  | _ =>
    match behindScheme? target with
    | none => []
    | some rest =>
      match (rest.dropWhile fun c => c ≠ '/' && !endsPath c).takeWhile fun c => !endsPath c with
      | [] => ['/']
      | path => path

def route? (target : String) : Option Route :=
  match String.ofList (pathOf target.toList) with
  | "/graph" => some .graph
  | "/health" => some .health
  | _ => none

def answerSource (analysis : Analysis) (source : String) : Response :=
  match analysis.run source with
  | .ok graph => ⟨200, graph.toData.toJson.toCompact⟩
  | .error error =>
    let body := (Json.record [("error", .text error.message)]).toCompact
    match error with
    | .parse _ => ⟨422, body⟩
    | _ => ⟨500, body⟩

def answerGraph (analysis : Analysis) (body : ByteArray) : Response :=
  if bodyLimit < body.size then ⟨413, ""⟩
  else match Text.ofBytes? body with
    | none => ⟨400, ""⟩
    | some source => answerSource analysis source

def health : Response := ⟨200, (Json.record [("status", .text "ok")]).toCompact⟩

/-- Whoever asks for the options of a path may use it from anywhere, whatever the path. A request
    for the head of an answer gets the answer without its body. -/
def answer (analysis : Analysis) (r : Request) : Response :=
  if r.method = "OPTIONS" then ⟨200, ""⟩
  else match route? r.target, r.method with
    | some .graph, "POST" => answerGraph analysis r.body
    | some .health, "GET" => health
    | some .health, "HEAD" => { health with body := "" }
    | some _, _ => ⟨405, ""⟩
    | none, _ => ⟨404, ""⟩

end CrossReference.Service
