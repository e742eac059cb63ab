import CrossReference.Graph.Build

set_option autoImplicit false

/-!
# Settings

What a user may choose, with a default for each choice.
-/
namespace CrossReference

structure AnalysisSettings where
  /-- Refuse a source that does not parse, instead of analysing what the parser made of it. -/
  strict : Bool := true
  label : LabelMode := .id
  excerptWidth : UInt64 := 24
deriving DecidableEq, Repr

structure ServerSettings where
  port : UInt16 := 7878
deriving DecidableEq, Repr

structure Settings where
  analysis : AnalysisSettings := {}
  palette : Palette := {}
  server : ServerSettings := {}
deriving DecidableEq, Repr

def Settings.graphOptions (s : Settings) : GraphOptions :=
  { labels := s.analysis.label, excerptWidth := s.analysis.excerptWidth, palette := s.palette }

end CrossReference
