import PegEngine.Engine.Primitive
import PegEngine.Tree.Basic

/-! Compound expressions, over runs of their parts. A part that fails leaves the cursor where it
began; where that is not yet where the compound began, the compound goes back there. A mismatch of a
part gets the compound as its context. What stands here is the same whether a match is recognized
only or a tree is built of it. -/
namespace PegEngine

namespace Run

variable {α : Type}

/-- The failure of a choice: the trail of its last alternative, if it has alternatives. -/
def noAlternative (pattern : Expr) (start : Cursor) : Option Trail → Failure
  | some last => .mismatch (last.within ⟨pattern, start, start⟩)
  | none => .ofMismatch ⟨pattern, start, start⟩

/-- The body over and over, after `count` times that gave `trees`, the latest first. The repetition
ends at the maximum, at a body that reads nothing, which could go on forever, and at a mismatch once
the minimum is reached. -/
def iterate (body : State → Run (Option Tree)) (pattern : Expr) (min max : Nat) (start : Cursor) :
    Nat → Nat → List Tree → State → Run (List Tree)
  | 0, _, _, _ => exhausted
  | rounds + 1, count, trees, s =>
    if 0 < max ∧ max ≤ count then done trees.reverse s
    else
      match body s with
      | done result t =>
        if t.cursor.position = s.cursor.position then done (Tree.collect trees result).reverse t
        else iterate body pattern min max start rounds (count + 1) (Tree.collect trees result) t
      | failed failure t =>
        if failure.isMismatch ∧ min ≤ count then done trees.reverse t
        else failed (failure.within ⟨pattern, start, s.cursor⟩) (t.moveTo start)
      | exhausted => exhausted

/-- The body over and over from here on, if the bounds make sense, and the trees it gave. -/
def iterations (rounds : Nat) (body : State → Run (Option Tree)) (pattern : Expr) (min max : Nat)
    (s : State) : Run (List Tree) :=
  (checkBounds pattern s).andThen fun _ t => iterate body pattern min max t.cursor rounds 0 [] t

/-- Nothing, where the body does not match. -/
def notAhead (body : State → Run Cursor) (pattern : Expr) (s : State) : Run Cursor :=
  match body s with
  | done stop t => failed (.ofMismatch ⟨pattern, s.cursor, stop⟩) (t.moveTo s.cursor)
  | failed (.mismatch _) t => (t.moveTo s.cursor).arrive
  | failed (.fault fault) t => failed (.fault fault) (t.moveTo s.cursor)
  | exhausted => exhausted

/-- Nothing, where the body matches. -/
def ahead (body : State → Run Cursor) (pattern : Expr) (s : State) : Run Cursor :=
  match body s with
  | done _ t => (t.moveTo s.cursor).arrive
  | failed failure t =>
    failed (failure.within ⟨pattern, s.cursor, s.cursor⟩) (t.moveTo s.cursor)
  | exhausted => exhausted

/-- One character, where the body does not match. -/
def oneBut (source : Source) (body : State → Run Cursor) (pattern : Expr) (s : State) :
    Run Cursor :=
  match body s with
  | done _ t => (t.moveTo s.cursor).mismatch pattern
  | failed (.mismatch _) t => oneOf source pattern (fun _ => true) t
  | failed (.fault fault) t => failed (.fault fault) t
  | exhausted => exhausted

/-! ## Skipping -/

/-- Try ignorable expressions in order until one reads something, and tell whether one did. -/
def skipOne (ignorable : Expr → State → Run Cursor) : List Expr → State → Run Bool
  | [], s => done false s
  | e :: rest, s =>
    match ignorable e s with
    | done stop t =>
      if s.cursor.position < stop.position then done true (t.note (.skipped e s.cursor))
      else skipOne ignorable rest t
    | failed (.mismatch _) t => skipOne ignorable rest t
    | failed (.fault fault) t => failed (.fault fault) t
    | exhausted => exhausted

/-- Skip ignorable text until no ignorable expression reads anything more. -/
def skipAll (ignorable : Expr → State → Run Cursor) (ignore : List Expr) : Nat → State → Run Unit
  | 0, _ => exhausted
  | rounds + 1, s =>
    (skipOne ignorable ignore s).andThen fun more t =>
      if more then skipAll ignorable ignore rounds t else done () t

end Run

end PegEngine
