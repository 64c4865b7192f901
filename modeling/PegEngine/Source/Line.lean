import PegEngine.Source.Cursor

/-! Cuts of a source at cursors: the line that a cursor stands on, and the text between two
cursors. A cursor of another source is clamped, so that every line is a slice of this source. -/
namespace PegEngine

namespace Source

/-- A line ends in front of a line feed or a carriage return. -/
def isLineEnd (c : Char) : Bool :=
  c = '\n' || c = '\r'

/-- The first line end at or after the offset, or else the end of the source. -/
def lineEndFrom (source : Source) (offset : Nat) : Nat :=
  offset + ((source.toList.drop offset).takeWhile (!isLineEnd ·)).length

/-- The line that a cursor stands on: from its start to the first line end not before the cursor. -/
def lineSpan (source : Source) (cursor : Cursor) : Span :=
  ⟨min cursor.lineStart source.size, source.lineEndFrom (min cursor.position source.size)⟩

/-- The text of the line that a cursor stands on. -/
def lineAt (source : Source) (cursor : Cursor) : String :=
  source.text (source.lineSpan cursor)

/-- The span between two cursors of the source, unless they stand in the wrong order. -/
def spanBetween? (source : Source) (start stop : Cursor) : Option Span :=
  if start.position ≤ stop.position ∧ stop.position ≤ source.size then
    some ⟨start.position, stop.position⟩
  else none

end Source

end PegEngine
