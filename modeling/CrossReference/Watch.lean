import CrossReference.Analysis

set_option autoImplicit false

/-!
# Watching a source

A watch keeps the fingerprint and the graph of the last content that could be analysed. The same
content is not analysed twice in a row, and a failure leaves everything as it was.
-/
namespace CrossReference

structure Watch where
  analysis : Analysis
  /-- Contents are told apart by their fingerprints; without any other, each is its own. -/
  fingerprint : ByteArray → ByteArray := id
  lastFingerprint : Option ByteArray := none
  lastGraph : Option Graph := none

namespace Watch

-- the comparison of the core library, also where another one is in scope
instance : DecidableEq ByteArray := ByteArray.instDecidableEq

inductive Outcome
  | updated (graph : Graph)
  | unchanged
  | failed (error : Error)

def current? (w : Watch) : Option Graph := w.lastGraph

def process (w : Watch) (content : Except FileFault String) : Outcome × Watch :=
  match content with
  | .error fault => (.failed (.file fault), w)
  | .ok source =>
    let fingerprint := w.fingerprint source.toUTF8
    if w.lastFingerprint = some fingerprint then (.unchanged, w)
    else match w.analysis.run source with
      | .ok graph =>
        (.updated graph, { w with lastFingerprint := some fingerprint, lastGraph := some graph })
      | .error error => (.failed error, w)

end Watch
end CrossReference
