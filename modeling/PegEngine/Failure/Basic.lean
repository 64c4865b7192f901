import PegEngine.Expr.Equality
import PegEngine.Source.Cursor

/-! Failures. An expression that does not match leaves a trail: the innermost mismatch and one more
for each enclosing expression that gave up because of it. A fault says that the grammar, or the
request, is broken; no alternative recovers from it, and it gathers no context. -/
namespace PegEngine

/-- An expression that did not match: the attempt began at `start` and got as far as `stop`. -/
structure Mismatch where
  pattern : Expr
  start : Cursor
  stop : Cursor
  deriving DecidableEq, Repr

/-- The mismatches of one failed attempt, from the innermost outwards. -/
inductive Trail where
  | single (mismatch : Mismatch)
  | within (inner : Trail) (context : Mismatch)
  deriving DecidableEq, Repr

namespace Trail

/-- The mismatch that the attempt failed with in the end. -/
def outermost : Trail → Mismatch
  | single mismatch => mismatch
  | within _ context => context

/-- The mismatch that started it. -/
def innermost : Trail → Mismatch
  | single mismatch => mismatch
  | within inner _ => inner.innermost

/-- The mismatches after `rest` has been put behind the outermost one. -/
def entriesOnto : Trail → List Mismatch → List Mismatch
  | single mismatch, rest => mismatch :: rest
  | within inner context, rest => inner.entriesOnto (context :: rest)

/-- The mismatches, the innermost first. -/
def entries (trail : Trail) : List Mismatch :=
  trail.entriesOnto []

theorem entriesOnto_eq (trail : Trail) (rest : List Mismatch) :
    trail.entriesOnto rest = trail.entries ++ rest := by
  induction trail generalizing rest with
  | single mismatch => rfl
  | within inner context ih =>
    rw [entriesOnto, ih, show (within inner context).entries = inner.entriesOnto [context] from rfl,
      ih, List.append_assoc, List.singleton_append]

@[simp] theorem entries_single (mismatch : Mismatch) : (single mismatch).entries = [mismatch] :=
  rfl

@[simp] theorem entries_within (inner : Trail) (context : Mismatch) :
    (within inner context).entries = inner.entries ++ [context] :=
  entriesOnto_eq inner [context]

end Trail

/-- What no alternative can mend. -/
inductive Fault where
  /-- A reference to a name without a definition. -/
  | undefined (name : String)
  /-- An expression whose bounds no text can meet. -/
  | bounds (e : Expr) (why : Expr.BoundsFault)
  /-- A text without characters. -/
  | emptyInput
  deriving DecidableEq, Repr

/-- Why a run failed. -/
inductive Failure where
  | mismatch (trail : Trail)
  | fault (fault : Fault)
  deriving DecidableEq, Repr

namespace Failure

/-- A mismatch on its own. -/
def ofMismatch (mismatch : Mismatch) : Failure :=
  .mismatch (.single mismatch)

def isMismatch : Failure → Bool
  | mismatch _ => true
  | fault _ => false

/-- Add the context of an enclosing expression; faults pass unchanged. -/
def within : Failure → Mismatch → Failure
  | mismatch trail, context => mismatch (trail.within context)
  | fault broken, _ => fault broken

/-- The mismatches from the innermost outwards; a fault has none. -/
def entries : Failure → List Mismatch
  | mismatch trail => trail.entries
  | fault _ => []

/-- The outermost mismatch, if the failure is one. -/
def outermost? : Failure → Option Mismatch
  | mismatch trail => some trail.outermost
  | fault _ => none

/-- How far the attempt got in the end. -/
def stop? (failure : Failure) : Option Cursor :=
  failure.outermost?.map (·.stop)

end Failure

/-- The check of an expression's own bounds. -/
def Expr.checkBounds (e : Expr) : Except Fault Unit :=
  match e.boundsFault? with
  | some why => .error (.bounds e why)
  | none => .ok ()

end PegEngine
