import PegEngine.Engine.Compound
import PegEngine.Grammar.Definitions

/-! The ground of the engines. There are two of them, one that recognizes and one that parses. Either
runs an expression by skipping what is ignorable and then doing what the expression says, and puts
the cursor back if any of it fails. Names are resolved when they are met, so a run may not end; it is
given a budget, which bounds both how deep it nests and how often it repeats. -/
namespace PegEngine

/-- What stays fixed while an expression runs. -/
structure Env where
  source : Source
  definitions : Definitions

/-- An engine runs an expression within a budget. -/
abbrev Engine (α : Type) :=
  Nat → Env → Expr → State → Run α

namespace Run

/-- The definition of a name. -/
def resolve (definitions : Definitions) (name : String) (s : State) : Run Expr :=
  match definitions.find? name with
  | some target => done target (s.note (.resolved name s.cursor))
  | none => failed (.fault (.undefined name)) (s.note (.undefined name))

/-- Skip what is ignorable here. It is itself matched with skipping suspended. -/
def skip (rounds : Nat) (recognize : Expr → State → Run Cursor) (s : State) : Run Unit :=
  if s.skipping.active then
    (skipAll recognize s.skipping.ignore rounds (s.withSkipping .suspended)).afterwards
      fun t => t.withSkipping s.skipping
  else done () s

end Run

end PegEngine
