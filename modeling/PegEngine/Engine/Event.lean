import PegEngine.Expr.Printer
import PegEngine.Source.Cursor

/-! Events. A run notes what it skips and which names it looks up. -/
namespace PegEngine

/-- Something that a run notes as it happens. -/
inductive Event where
  /-- An ignorable expression was skipped. -/
  | skipped (e : Expr) (start : Cursor)
  /-- A name was found among the definitions. -/
  | resolved (name : String) (start : Cursor)
  /-- A name was not found among the definitions. -/
  | undefined (name : String)
  deriving Repr

namespace Event

/-- Only a missing definition is more than a trace of the run. -/
def level : Event → String
  | skipped _ _ | resolved _ _ => "TRACE"
  | undefined _ => "DEBUG"

def message : Event → String
  | skipped e start => "skipped " ++ e.render ++ " at " ++ start.render
  | resolved name start => "resolved " ++ name ++ " at " ++ start.render
  | undefined name => "reference to undefined rule " ++ Text.quote name

/-- The event as a line of a log. -/
def render (event : Event) : String :=
  event.level ++ " " ++ event.message

end Event

end PegEngine
