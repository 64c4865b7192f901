import PegEngine.Engine.Parsing
import PegEngine.Grammar.Basic

/-! Sessions. A session reads one text with a cursor of its own, and may change its definitions, what
it skips and where it stands between two matches. A match moves the cursor or leaves the session as
it was. -/
namespace PegEngine

/-- A text being read, with the definitions, the setting of skipping and the cursor in use. -/
structure Session extends Env where
  skipping : Skipping
  cursor : Cursor

/-- What a match answers: its outcome, the session after it, and the events noted meanwhile. -/
structure Reply (α : Type) where
  outcome : Except Failure α
  session : Session
  log : List Event

namespace Session

variable {α : Type}

/-- A session at the start of a text, which must not be empty. -/
def start (source : Source) (grammar : Grammar) : Except Fault Session :=
  if source.isEmpty then .error .emptyInput
  else .ok
    { source
      definitions := grammar.definitions
      skipping := ⟨grammar.ignore, false⟩
      cursor := .start source }

/-! ## Between matches -/

/-- Define a name from now on. -/
def define (session : Session) (name : String) (e : Expr) : Session :=
  { session with definitions := session.definitions.insert name e }

/-- The present definition of a name. -/
def definition? (session : Session) (name : String) : Option Expr :=
  session.definitions.find? name

/-- Skip these from now on, and no others. -/
def setIgnore (session : Session) (ignore : List Expr) : Session :=
  { session with skipping := { session.skipping with ignore := ignore } }

/-- Whether skipping is switched off. -/
def verbatim (session : Session) : Bool :=
  session.skipping.verbatim

/-- Switch skipping off, or on again. -/
def setVerbatim (session : Session) (verbatim : Bool) : Session :=
  { session with skipping := session.skipping.toggle verbatim }

/-- Move up to `count` characters further. -/
def advance (session : Session) (count : Nat) : Session :=
  { session with cursor := session.cursor.advance session.source count }

/-- Go to a cursor met before. -/
def jump (session : Session) (cursor : Cursor) : Session :=
  { session with cursor := cursor }

/-- Go back to the start of the text. -/
def reset (session : Session) : Session :=
  session.jump (.start session.source)

/-! ## Matches within a budget -/

/-- The state in which a match begins. -/
def state (session : Session) : State :=
  ⟨session.cursor, session.skipping, []⟩

/-- The session as a run leaves it. -/
def leave (session : Session) (s : State) : Session :=
  { session with cursor := s.cursor, skipping := s.skipping }

/-- The answer that a run gives to its session, unless its budget was exhausted. -/
def reply? (session : Session) : Run α → Option (Reply α)
  | .done a s => some ⟨.ok a, session.leave s, s.log.reverse⟩
  | .failed failure s => some ⟨.error failure, session.leave s, s.log.reverse⟩
  | .exhausted => none

/-- Match an expression here and answer the cursor behind it. -/
def recognizeWithin (budget : Nat) (session : Session) (e : Expr) : Option (Reply Cursor) :=
  session.reply? (Recognition.run budget session.toEnv e session.state)

/-- Match an expression that only ignorable text may follow, and answer the cursor behind it. -/
def recognizeAllWithin (budget : Nat) (session : Session) (e : Expr) : Option (Reply Cursor) :=
  session.reply? (Recognition.runToEnd budget session.toEnv e session.state)

/-- Match an expression here and answer the tree of its captures, if there are any. -/
def parseWithin (budget : Nat) (session : Session) (e : Expr) : Option (Reply (Option Tree)) :=
  session.reply? (Parsing.run budget session.toEnv e session.state)

/-- Match an expression that only ignorable text may follow, and answer its tree. -/
def parseAllWithin (budget : Nat) (session : Session) (e : Expr) : Option (Reply (Option Tree)) :=
  session.reply? (Parsing.runToEnd budget session.toEnv e session.state)

/-! ## Matches

A run that meets the same expression twice at the same place, without and with skipping, while the
first meeting still lasts, will meet it forever. So a budget for every expression at every place,
and for repeating at most once for each character left, is exhausted only by endless runs. -/

/-- The expressions that a session owns: the definitions by name, then what may be skipped. -/
def exprs (session : Session) : List Expr :=
  session.definitions.exprs ++ session.skipping.ignore

/-- A budget for every run that ends. -/
def budget (session : Session) (e : Expr) : Nat :=
  2 * (e.size + Expr.sizeAll session.exprs) * (session.source.size + 1) +
    session.source.size + 3

/-- Match an expression here and answer the cursor behind it, or nothing if the run is endless. -/
def recognize (session : Session) (e : Expr) : Option (Reply Cursor) :=
  session.recognizeWithin (session.budget e) e

/-- Match an expression that only ignorable text may follow, and answer the cursor behind it, or
nothing if the run is endless. -/
def recognizeAll (session : Session) (e : Expr) : Option (Reply Cursor) :=
  session.recognizeAllWithin (session.budget e) e

/-- Match an expression here and answer its tree, or nothing if the run is endless. -/
def parse (session : Session) (e : Expr) : Option (Reply (Option Tree)) :=
  session.parseWithin (session.budget e) e

/-- Match an expression that only ignorable text may follow, and answer its tree, or nothing if the
run is endless. -/
def parseAll (session : Session) (e : Expr) : Option (Reply (Option Tree)) :=
  session.parseAllWithin (session.budget e) e

end Session

end PegEngine
