import PegEngine.Failure.Message

/-! Diagnostic reports. A report marks spans of the source: the one character at which a mismatch
stopped, and in front of it what had been read by then. How a report is drawn is left to whoever
shows it. -/
namespace PegEngine

/-- A remark on a span of the source. -/
structure Label where
  span : Span
  text : String
  deriving DecidableEq, Repr

/-- A diagnostic about one offset of a source, with remarks on spans of it. -/
structure Report where
  title : String
  /-- A name for the source, chosen by whoever asks for the report. -/
  source : String
  /-- The offset that the report is about. -/
  offset : Nat
  labels : List Label
  deriving DecidableEq, Repr

namespace Mismatch

/-- The character at which the attempt stopped; nothing at or beyond the end of the source. -/
def failedSpan (source : Source) (mismatch : Mismatch) : Span :=
  let offset := mismatch.stop.position
  ⟨offset, max offset (min (offset + 1) source.size)⟩

/-- What was read before the attempt stopped, if it was anything. -/
def matchedSpan? (mismatch : Mismatch) : Option Span :=
  if mismatch.start.position < mismatch.stop.position then
    some ⟨mismatch.start.position, mismatch.stop.position⟩
  else none

def report (source : Source) (name : String) (mismatch : Mismatch) : Report where
  title := "Error: " ++ mismatch.summary
  source := name
  offset := mismatch.stop.position
  labels :=
    ⟨mismatch.failedSpan source, "expected " ++ mismatch.pattern.render ++ " here"⟩ ::
      (mismatch.matchedSpan?.map (⟨·, "matched this far"⟩)).toList

end Mismatch

end PegEngine
