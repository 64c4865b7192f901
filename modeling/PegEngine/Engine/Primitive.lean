import PegEngine.Engine.Run

/-! Primitive expressions, which look at characters only. Each names the pattern on whose behalf it
reads, moves the cursor on success and answers it, and leaves it alone on failure. -/
namespace PegEngine

namespace State

variable {α : Type}

/-- A match ends where the cursor stands. -/
def arrive (s : State) : Run Cursor :=
  .done s.cursor s

/-- `pattern` does not match where the cursor stands. -/
def mismatch (pattern : Expr) (s : State) : Run α :=
  .failed (.ofMismatch ⟨pattern, s.cursor, s.cursor⟩) s

end State

namespace Run

/-- The bounds of the expression make sense, or the run is at fault. -/
def checkBounds (e : Expr) (s : State) : Run Unit :=
  match e.checkBounds with
  | .ok _ => done () s
  | .error fault => failed (.fault fault) s

/-- One character of a class. -/
def oneOf (source : Source) (pattern : Expr) (accepts : Char → Bool) (s : State) : Run Cursor :=
  match s.cursor.character with
  | some c => if accepts c then (s.next source).arrive else s.mismatch pattern
  | none => s.mismatch pattern

/-- The given characters in a row. A mismatch tells how far the row was followed. -/
def allOf (source : Source) (pattern : Expr) (start : Cursor) : List Char → State → Run Cursor
  | [], s => s.arrive
  | c :: rest, s =>
    if s.cursor.character = some c then allOf source pattern start rest (s.next source)
    else failed (.ofMismatch ⟨pattern, start, s.cursor⟩) (s.moveTo start)

/-- The end of the text. -/
def atEnd (pattern : Expr) (s : State) : Run Cursor :=
  if s.cursor.isDone then s.arrive else s.mismatch pattern

/-- One line break. A carriage return takes along the line feed behind it. -/
def lineBreak (source : Source) (pattern : Expr) (s : State) : Run Cursor :=
  if s.cursor.character = some '\n' then (s.next source).arrive
  else if s.cursor.character = some '\r' then
    if (s.next source).cursor.character = some '\n' then ((s.next source).next source).arrive
    else (s.next source).arrive
  else s.mismatch pattern

/-- A space, a tab or one line break. -/
def blank (source : Source) (pattern : Expr) (s : State) : Run Cursor :=
  if s.cursor.character = some ' ' ∨ s.cursor.character = some '\t' then (s.next source).arrive
  else lineBreak source pattern s

end Run

end PegEngine
