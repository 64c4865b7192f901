import PegEngine.Expr.Printer
import PegEngine.Failure.Basic
import PegEngine.Source.Line

/-! The wording of failures. A mismatch names the places of its attempt, the character it stopped at
and the pattern, and points a caret at that character under its line. -/
namespace PegEngine

/-- The complaint about the bounds of an expression. -/
def Expr.BoundsFault.message : Expr.BoundsFault → String
  | .emptyRange => "the range is empty"
  | .maximumBelowMinimum => "the maximum is smaller than the minimum"

namespace Mismatch

/-- What the failed attempt was about. -/
def summary (mismatch : Mismatch) : String :=
  "no match: " ++ mismatch.pattern.render

/-- The line on which the attempt stopped. -/
def line (source : Source) (mismatch : Mismatch) : String :=
  source.lineAt mismatch.stop

/-- A caret below the character at which the attempt stopped. -/
def caret (mismatch : Mismatch) : String :=
  String.ofList (List.replicate mismatch.stop.column ' ') ++ "^"

def message (source : Source) (mismatch : Mismatch) : String :=
  "[" ++ mismatch.start.renderPlace ++ "/" ++ mismatch.stop.renderPlace ++ "] " ++
    mismatch.stop.renderCharacter ++ " | " ++ mismatch.summary ++ "\n" ++
    mismatch.line source ++ "\n" ++ mismatch.caret

end Mismatch

namespace Trail

/-- The messages of several mismatches, numbered from `first` on. -/
def numbered (source : Source) : Nat → List Mismatch → List String
  | _, [] => []
  | first, mismatch :: rest =>
    (toString first ++ ". " ++ mismatch.message source) :: numbered source (first + 1) rest

/-- A lone mismatch speaks for itself; several are numbered, the innermost first. -/
def message (source : Source) : Trail → String
  | single mismatch => mismatch.message source
  | within inner context =>
    "\n".intercalate (numbered source 1 (within inner context).entries)

end Trail

namespace Fault

def message : Fault → String
  | undefined name => "no rule named " ++ Text.quote name ++ " has been defined"
  | bounds e why => "invalid rule " ++ e.render ++ ": " ++ why.message
  | emptyInput => "input is empty"

end Fault

namespace Failure

def message (source : Source) : Failure → String
  | mismatch trail => trail.message source
  | fault broken => broken.message

end Failure

end PegEngine
