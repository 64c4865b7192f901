import PegEngine.Expr.Walk
import PegEngine.Failure.Basic
import PegEngine.Grammar.Definitions

/-! Grammars: definitions of names, and what may be skipped in front of every expression. A grammar
can be checked without any input: every bound must make sense and every reference must lead
somewhere. -/
namespace PegEngine

/-- Named definitions and what may be skipped. -/
structure Grammar where
  definitions : Definitions
  /-- What may be skipped, in the order in which it is tried. -/
  ignore : List Expr

namespace Grammar

def empty : Grammar :=
  ⟨.empty, []⟩

instance : Inhabited Grammar := ⟨empty⟩

def define (grammar : Grammar) (name : String) (e : Expr) : Grammar :=
  { grammar with definitions := grammar.definitions.insert name e }

/-- The expressions that a grammar owns: the definitions by name, then what may be skipped. -/
def exprs (grammar : Grammar) : List Expr :=
  grammar.definitions.exprs ++ grammar.ignore

/-- The check of one expression, its parts left aside. -/
def inspect (grammar : Grammar) (e : Expr) : Except Fault Unit := do
  e.checkBounds
  match e with
  | .ref name => if grammar.definitions.contains name then pure () else .error (.undefined name)
  | _ => pure ()

/-- The first fault that inspection meets anywhere in the grammar, if there is one. -/
def check (grammar : Grammar) : Except Fault Unit :=
  Expr.walkAll grammar.inspect grammar.exprs

end Grammar

end PegEngine
