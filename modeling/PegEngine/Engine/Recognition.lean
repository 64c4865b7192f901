import PegEngine.Engine.Basic

/-! Recognition. A run only finds out how far the text matches, and answers the cursor there. Captures
mean nothing to it. -/
namespace PegEngine.Recognition

open Run

/-- All items in order. A match ends where the last of them does. -/
def sequence (recognize : Expr → State → Run Cursor) (pattern : Expr) (start : Cursor) :
    List Expr → State → Run Cursor
  | [], s => s.arrive
  | e :: rest, s =>
    match recognize e s with
    | done _ t => sequence recognize pattern start rest t
    | failed failure t => failed (failure.within ⟨pattern, start, s.cursor⟩) (t.moveTo start)
    | exhausted => exhausted

/-- The first alternative that does not mismatch, after those the last of which left `last`. -/
def firstOf (recognize : Expr → State → Run Cursor) (pattern : Expr) (start : Cursor) :
    List Expr → Option Trail → State → Run Cursor
  | [], last, s => failed (noAlternative pattern start last) (s.moveTo start)
  | e :: rest, _, s =>
    match recognize e s with
    | done stop t => done stop t
    | failed (.mismatch trail) t => firstOf recognize pattern start rest (some trail) t
    | failed (.fault fault) t => failed (.fault fault) t
    | exhausted => exhausted

/-- The body, or nothing where it mismatches. -/
def optional (body : State → Run Cursor) (s : State) : Run Cursor :=
  match body s with
  | done stop t => done stop t
  | failed (.mismatch _) t => t.arrive
  | failed (.fault fault) t => failed (.fault fault) t
  | exhausted => exhausted

/-- The body over and over. There are no trees to collect. -/
def repetition (rounds : Nat) (body : State → Run Cursor) (pattern : Expr) (min max : Nat)
    (s : State) : Run Cursor :=
  (iterations rounds (fun t => (body t).map fun _ => none) pattern min max s).andThen
    fun _ t => t.arrive

/-- What a name stands for. -/
def reference (recognize : Expr → State → Run Cursor) (definitions : Definitions) (name : String)
    (s : State) : Run Cursor :=
  (resolve definitions name s).andThen recognize

/-- The body with skipping switched off; afterwards the switch is where it was. -/
def unskipped (body : State → Run Cursor) (s : State) : Run Cursor :=
  (body (s.withSkipping (s.skipping.toggle true))).afterwards
    fun t => t.withSkipping (t.skipping.toggle s.skipping.verbatim)

/-- What the expression says, with runs of other expressions given. -/
def dispatch (rounds : Nat) (recognize : Expr → State → Run Cursor) (env : Env) (e : Expr)
    (s : State) : Run Cursor :=
  match e with
  | .char c => oneOf env.source e (· == c) s
  | .literal text => allOf env.source e s.cursor text.toList s
  | .seq items => sequence recognize e s.cursor items s
  | .choice alternatives => firstOf recognize e s.cursor alternatives none s
  | .optional body => optional (recognize body) s
  | .rep min max body => repetition rounds (recognize body) e min max s
  | .not body => notAhead (recognize body) e s
  | .peek body => ahead (recognize body) e s
  | .capture _ body => recognize body s
  | .any => oneOf env.source e (fun _ => true) s
  | .anyBut body => oneBut env.source (recognize body) e s
  | .range low high =>
    (checkBounds e s).andThen fun _ t =>
      oneOf env.source e (fun c => decide (low ≤ c ∧ c ≤ high)) t
  | .eof => atEnd e s
  | .eol => lineBreak env.source e s
  | .space => blank env.source e s
  | .ref name => reference recognize env.definitions name s
  | .verbatim body => unskipped (recognize body) s

/-- Skip, then do what the expression says; on failure the cursor goes back to where it was. -/
def step (rounds : Nat) (recognize : Expr → State → Run Cursor) (env : Env) (e : Expr) (s : State) :
    Run Cursor :=
  ((skip rounds recognize s).andThen fun _ t => dispatch rounds recognize env e t).orReturnTo
    s.cursor

/-- The run of an expression within a budget. -/
def run : Engine Cursor
  | 0, _, _, _ => .exhausted
  | budget + 1, env, e, s => step budget (run budget env) env e s

/-- Nothing but ignorable text up to the end. -/
def runEnd (budget : Nat) (env : Env) (s : State) : Run Cursor :=
  (skip budget (run budget env) s).andThen fun _ t => atEnd .eof t

/-- The run of an expression behind which only ignorable text may follow. -/
def runToEnd : Engine Cursor := fun budget env e s =>
  (run budget env e s).andThen fun stop t =>
    ((runEnd budget env t).orReturnTo s.cursor).map fun _ => stop

end PegEngine.Recognition
