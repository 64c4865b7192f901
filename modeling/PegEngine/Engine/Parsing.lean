import PegEngine.Engine.Recognition

/-! Parsing. A run builds the tree of the captures on its way and answers it, or nothing where it
captured nothing. Expressions that cannot hold a capture are recognized only, and so is what is
skipped. -/
namespace PegEngine.Parsing

open Run

/-- All items in order, after those that gave `trees`, the latest first. -/
def sequence (parse : Expr → State → Run (Option Tree)) (pattern : Expr) (start : Cursor) :
    List Expr → List Tree → State → Run (Option Tree)
  | [], trees, s => done (Tree.ofForest trees.reverse) s
  | e :: rest, trees, s =>
    match parse e s with
    | done result t => sequence parse pattern start rest (Tree.collect trees result) t
    | failed failure t => failed (failure.within ⟨pattern, start, s.cursor⟩) (t.moveTo start)
    | exhausted => exhausted

/-- The first alternative that does not mismatch, after those the last of which left `last`. -/
def firstOf (parse : Expr → State → Run (Option Tree)) (pattern : Expr) (start : Cursor) :
    List Expr → Option Trail → State → Run (Option Tree)
  | [], last, s => failed (noAlternative pattern start last) (s.moveTo start)
  | e :: rest, _, s =>
    match parse e s with
    | done result t => done result t
    | failed (.mismatch trail) t => firstOf parse pattern start rest (some trail) t
    | failed (.fault fault) t => failed (.fault fault) t
    | exhausted => exhausted

/-- The body, or no tree where it mismatches. -/
def optional (body : State → Run (Option Tree)) (s : State) : Run (Option Tree) :=
  match body s with
  | done result t => done result t
  | failed (.mismatch _) t => done none t
  | failed (.fault fault) t => failed (.fault fault) t
  | exhausted => exhausted

/-- The body over and over, and one result for all its trees. -/
def repetition (rounds : Nat) (body : State → Run (Option Tree)) (pattern : Expr) (min max : Nat)
    (s : State) : Run (Option Tree) :=
  (iterations rounds body pattern min max s).map Tree.ofForest

/-- The body under a name. Where nothing is captured inside, the name takes the text. -/
def capture (source : Source) (name : String) (body : State → Run (Option Tree)) (s : State) :
    Run Tree :=
  (body s).andThen fun result t =>
    match result with
    | none => done (.leaf name (source.text ⟨s.cursor.position, t.cursor.position⟩)) t
    | some inner => done (inner.captured name) t

/-- What a name stands for. -/
def reference (parse : Expr → State → Run (Option Tree)) (definitions : Definitions)
    (name : String) (s : State) : Run (Option Tree) :=
  (resolve definitions name s).andThen parse

/-- The body with skipping switched off; afterwards the switch is where it was. -/
def unskipped (body : State → Run (Option Tree)) (s : State) : Run (Option Tree) :=
  (body (s.withSkipping (s.skipping.toggle true))).afterwards
    fun t => t.withSkipping (t.skipping.toggle s.skipping.verbatim)

/-- What the expression says, with runs of other expressions given: `parse` where there may be
captures inside, `recognize` where only the extent of a match counts. -/
def dispatch (rounds : Nat) (recognize : Expr → State → Run Cursor)
    (parse : Expr → State → Run (Option Tree)) (env : Env) (e : Expr) (s : State) :
    Run (Option Tree) :=
  match e with
  | .seq items => sequence parse e s.cursor items [] s
  | .choice alternatives => firstOf parse e s.cursor alternatives none s
  | .optional body => optional (parse body) s
  | .rep min max body => repetition rounds (parse body) e min max s
  | .capture name body => (capture env.source name (parse body) s).map some
  | .ref name => reference parse env.definitions name s
  | .verbatim body => unskipped (parse body) s
  | _ => (Recognition.dispatch rounds recognize env e s).map fun _ => none

/-- Skip, then do what the expression says; on failure the cursor goes back to where it was. -/
def step (rounds : Nat) (recognize : Expr → State → Run Cursor)
    (parse : Expr → State → Run (Option Tree)) (env : Env) (e : Expr) (s : State) :
    Run (Option Tree) :=
  ((skip rounds recognize s).andThen fun _ t => dispatch rounds recognize parse env e t).orReturnTo
    s.cursor

/-- The run of an expression within a budget. -/
def run : Engine (Option Tree)
  | 0, _, _, _ => .exhausted
  | budget + 1, env, e, s => step budget (Recognition.run budget env) (run budget env) env e s

/-- The run of an expression behind which only ignorable text may follow. -/
def runToEnd : Engine (Option Tree) := fun budget env e s =>
  (run budget env e s).andThen fun result t =>
    ((Recognition.runEnd budget env t).orReturnTo s.cursor).map fun _ => result

end PegEngine.Parsing
