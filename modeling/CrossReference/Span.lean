set_option autoImplicit false

/-!
# Spans

A span is a half-open range of byte offsets. Nothing keeps the end from standing before the start:
such a span is empty.
-/
namespace CrossReference

structure Span where
  start : UInt64
  stop : UInt64
deriving DecidableEq, Repr, Inhabited

namespace Span

def length (s : Span) : UInt64 := if s.start ≤ s.stop then s.stop - s.start else 0

def isEmpty (s : Span) : Bool := s.length = 0

end Span
end CrossReference
