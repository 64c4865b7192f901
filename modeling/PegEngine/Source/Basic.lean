/-! Input texts. A text is indexed by code points, and a span of it is a pair of offsets. -/
namespace PegEngine

/-- An input text as its code points, so that a position in it is an index. -/
abbrev Source := Array Char

/-- The code points from `start`, included, to `stop`, excluded. -/
structure Span where
  start : Nat
  stop : Nat
  deriving DecidableEq, Repr

namespace Span

def length (span : Span) : Nat :=
  span.stop - span.start

end Span

namespace Source

def ofString (text : String) : Source :=
  text.toList.toArray

/-- The text of a span, cut off at the end of the source. -/
def text (source : Source) (span : Span) : String :=
  String.ofList (source.extract span.start span.stop).toList

end Source

end PegEngine
