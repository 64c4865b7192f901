import PegEngine.Engine.Parsing

/-! One engine for both. Recognizing and parsing follow the text in the same way and differ in what
they make of a match. Here that is up to a builder, so that what holds of every run need not be shown
twice; the two engines are this one with one builder each, as the next module shows. -/
namespace PegEngine

namespace Tree

/-- The result of a group from the results of its members. -/
def gather (results : List (Option Tree)) : Option Tree :=
  ofForest (results.flatMap contribution)

end Tree

/-- How values are made: of groups from their members, and of captures from what is inside them. -/
structure Builder (α : Type) where
  /-- The value of a group that ends at a cursor, from the values of its members. -/
  gather : List α → Cursor → α
  /-- The value of a capture of a name and a span, from the value inside it. -/
  capture : String → Source → Span → α → α

namespace Builder

variable {α : Type}

/-- A group of these members ends where the cursor stands. -/
def close (builder : Builder α) (members : List α) (s : State) : Run α :=
  .done (builder.gather members s.cursor) s

/-- The value of a match that cannot capture anything and ends at a cursor. -/
def nothing (builder : Builder α) (stop : Cursor) : α :=
  builder.gather [] stop

/-- Builds nothing: the value of a match is the cursor where it ends. -/
def recognizer : Builder Cursor where
  gather _ stop := stop
  capture _ _ _ stop := stop

/-- Builds the tree of the captures; a capture without captures inside it takes the text. -/
def tree : Builder (Option Tree) where
  gather members _ := Tree.gather members
  capture name source span
    | none => some (.leaf name (source.text span))
    | some inner => some (inner.captured name)

end Builder

namespace Run

variable {α : Type}

/-- All items in order, after those whose values are in `values`, the latest first. -/
def sequence (item : Expr → State → Run α) (pattern : Expr) (start : Cursor) :
    List Expr → List α → State → Run (List α)
  | [], values, s => done values.reverse s
  | e :: rest, values, s =>
    match item e s with
    | done a t => sequence item pattern start rest (a :: values) t
    | failed failure t => failed (failure.within ⟨pattern, start, s.cursor⟩) (t.moveTo start)
    | exhausted => exhausted

/-- The first alternative that does not mismatch, after those the last of which left `last`. -/
def firstOf (alternative : Expr → State → Run α) (pattern : Expr) (start : Cursor) :
    List Expr → Option Trail → State → Run α
  | [], last, s => failed (noAlternative pattern start last) (s.moveTo start)
  | e :: rest, _, s =>
    match alternative e s with
    | done a t => done a t
    | failed (.mismatch trail) t => firstOf alternative pattern start rest (some trail) t
    | failed (.fault fault) t => failed (.fault fault) t
    | exhausted => exhausted

/-- The body, or `fallback` where it mismatches. -/
def optional (body : State → Run α) (fallback : State → Run α) (s : State) : Run α :=
  match body s with
  | failed (.mismatch _) t => fallback t
  | other => other

/-- The body over and over, after `count` times with `values`, the latest first. -/
def repetition (body : State → Run α) (pattern : Expr) (min max : Nat) (start : Cursor) :
    Nat → Nat → List α → State → Run (List α)
  | 0, _, _, _ => exhausted
  | rounds + 1, count, values, s =>
    if 0 < max ∧ max ≤ count then done values.reverse s
    else
      match body s with
      | done a t =>
        if t.cursor.position = s.cursor.position then done (a :: values).reverse t
        else repetition body pattern min max start rounds (count + 1) (a :: values) t
      | failed failure t =>
        if failure.isMismatch ∧ min ≤ count then done values.reverse t
        else failed (failure.within ⟨pattern, start, s.cursor⟩) (t.moveTo start)
      | exhausted => exhausted

/-- The body with skipping switched off; afterwards the switch is where it was. -/
def unskipped (body : State → Run α) (s : State) : Run α :=
  (body (s.withSkipping (s.skipping.toggle true))).afterwards
    fun t => t.withSkipping (t.skipping.toggle s.skipping.verbatim)

/-- What the expression says, with runs of other expressions given: `recognize` where only the
extent of a match counts, `build` where its value does. -/
def dispatch (builder : Builder α) (rounds : Nat) (recognize : Expr → State → Run Cursor)
    (build : Expr → State → Run α) (env : Env) (e : Expr) (s : State) : Run α :=
  match e with
  | .char c => (oneOf env.source e (· == c) s).map builder.nothing
  | .literal text => (allOf env.source e s.cursor text.toList s).map builder.nothing
  | .seq items => (sequence build e s.cursor items [] s).andThen builder.close
  | .choice alternatives => firstOf build e s.cursor alternatives none s
  | .optional body => optional (build body) (builder.close []) s
  | .rep min max body =>
    (checkBounds e s).andThen fun _ t =>
      (repetition (build body) e min max t.cursor rounds 0 [] t).andThen builder.close
  | .not body => (notAhead (recognize body) e s).map builder.nothing
  | .peek body => (ahead (recognize body) e s).map builder.nothing
  | .capture name body =>
    (build body s).andThen fun a t =>
      done (builder.capture name env.source ⟨s.cursor.position, t.cursor.position⟩ a) t
  | .any => (oneOf env.source e (fun _ => true) s).map builder.nothing
  | .anyBut body => (oneBut env.source (recognize body) e s).map builder.nothing
  | .range low high =>
    (checkBounds e s).andThen fun _ t =>
      (oneOf env.source e (fun c => decide (low ≤ c ∧ c ≤ high)) t).map builder.nothing
  | .eof => (atEnd e s).map builder.nothing
  | .eol => (lineBreak env.source e s).map builder.nothing
  | .space => (blank env.source e s).map builder.nothing
  | .ref name => (resolve env.definitions name s).andThen build
  | .verbatim body => unskipped (build body) s

/-- Skip, then do what the expression says; on failure the cursor goes back to where it was. -/
def step (builder : Builder α) (rounds : Nat) (recognize : Expr → State → Run Cursor)
    (build : Expr → State → Run α) (env : Env) (e : Expr) (s : State) : Run α :=
  ((skip rounds recognize s).andThen fun _ t =>
    dispatch builder rounds recognize build env e t).orReturnTo s.cursor

end Run

/-- The run of an expression within a budget, for a builder. -/
def run : Nat → {α : Type} → Builder α → Env → Expr → State → Run α
  | 0, _, _, _, _, _ => .exhausted
  | budget + 1, _, builder, env, e, s =>
    Run.step builder budget (run budget .recognizer env) (run budget builder env) env e s

/-- Nothing but ignorable text up to the end. -/
def runEnd (budget : Nat) (env : Env) (s : State) : Run Cursor :=
  (Run.skip budget (run budget .recognizer env) s).andThen fun _ t => Run.atEnd .eof t

/-- The run of an expression behind which only ignorable text may follow, for a builder. -/
def runToEnd {α : Type} (budget : Nat) (builder : Builder α) (env : Env) (e : Expr) (s : State) :
    Run α :=
  (run budget builder env e s).andThen fun a t =>
    ((runEnd budget env t).orReturnTo s.cursor).map fun _ => a

/-- The engine that a builder makes. -/
abbrev Builder.engine {α : Type} (builder : Builder α) : Engine α :=
  fun budget => run budget builder

end PegEngine
