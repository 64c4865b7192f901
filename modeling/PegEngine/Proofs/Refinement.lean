import PegEngine.Proofs.Uniform
import PegEngine.Session

/-! The two engines are the uniform one with a builder each. Recognition forgets the values that the
uniform engine hands around, since it finds them where the cursor stands; parsing collects as it goes
what the uniform engine gathers in the end. -/
namespace PegEngine

namespace Recognition

/-- The value of a match without captures is the cursor that was answered. -/
theorem map_nothing (r : Run Cursor) : r.map Builder.recognizer.nothing = r := by
  cases r with
  | done stop t => rfl
  | failed failure t => rfl
  | exhausted => rfl

section Operators

variable (recognize : Expr → State → Run Cursor) (body : State → Run Cursor) (pattern : Expr)

/-- The values that the uniform engine keeps are of no account. -/
theorem sequence_eq (start : Cursor) (items : List Expr) (values : List Cursor) (s : State) :
    sequence recognize pattern start items s =
      (Run.sequence recognize pattern start items values s).andThen Builder.recognizer.close := by
  induction items generalizing values s with
  | nil => rfl
  | cons e rest ih =>
    rw [sequence, Run.sequence]
    cases recognize e s with
    | done stop t => exact ih (stop :: values) t
    | failed failure t => rfl
    | exhausted => rfl

theorem firstOf_eq (start : Cursor) (alternatives : List Expr) (last : Option Trail) (s : State) :
    firstOf recognize pattern start alternatives last s =
      Run.firstOf recognize pattern start alternatives last s := by
  induction alternatives generalizing last s with
  | nil => rfl
  | cons e rest ih =>
    rw [firstOf, Run.firstOf]
    cases recognize e s with
    | done stop t => rfl
    | failed failure t =>
      cases failure with
      | mismatch trail => exact ih (some trail) t
      | fault fault => rfl
    | exhausted => rfl

theorem optional_eq (s : State) :
    optional body s = Run.optional body (Builder.recognizer.close []) s := by
  rw [optional, Run.optional]
  cases body s with
  | done stop t => rfl
  | failed failure t =>
    cases failure with
    | mismatch trail => rfl
    | fault fault => rfl
  | exhausted => rfl

/-- A loop that collects no trees ends where the uniform one does, whatever either has in hand. -/
theorem iterate_eq (min max : Nat) (start : Cursor) (rounds count : Nat) (trees : List Tree)
    (values : List Cursor) (s : State) :
    (Run.iterate (fun t => (body t).map fun _ => none) pattern min max start rounds count trees
        s).andThen (fun _ t => t.arrive) =
      (Run.repetition body pattern min max start rounds count values s).andThen
        Builder.recognizer.close := by
  induction rounds generalizing count trees values s with
  | zero => rfl
  | succ rounds ih =>
    rw [Run.iterate, Run.repetition]
    split
    · rfl
    · cases body s with
      | done stop t =>
        simp only [Run.map_done]
        split
        · rfl
        · exact ih (count + 1) _ (stop :: values) t
      | failed failure t =>
        simp only [Run.map_failed]
        split
        · rfl
        · rfl
      | exhausted => rfl

theorem repetition_eq (rounds min max : Nat) (s : State) :
    repetition rounds body pattern min max s =
      (Run.checkBounds pattern s).andThen fun _ t =>
        (Run.repetition body pattern min max t.cursor rounds 0 [] t).andThen
          Builder.recognizer.close := by
  rw [repetition, Run.iterations]
  cases Run.checkBounds pattern s with
  | done _ t => exact iterate_eq body pattern min max t.cursor rounds 0 [] [] t
  | failed failure t => rfl
  | exhausted => rfl

end Operators

variable (rounds : Nat) (recognize : Expr → State → Run Cursor) (env : Env) (e : Expr) (s : State)

theorem dispatch_eq :
    dispatch rounds recognize env e s =
      Run.dispatch .recognizer rounds recognize recognize env e s := by
  cases e with
  | seq items => exact sequence_eq recognize (.seq items) s.cursor items [] s
  | choice alternatives =>
    exact firstOf_eq recognize (.choice alternatives) s.cursor alternatives none s
  | optional body => exact optional_eq (recognize body) s
  | rep min max body => exact repetition_eq (recognize body) (.rep min max body) rounds min max s
  | capture name body =>
    -- The uniform engine answers the cursor once more, under the name.
    rw [dispatch, Run.dispatch]
    cases recognize body s with
    | done stop t => rfl
    | failed failure t => rfl
    | exhausted => rfl
  | ref name => rfl
  | verbatim body => rfl
  | char _ | literal _ | not _ | peek _ | any | anyBut _ | range _ _ | eof | eol | space =>
    simp only [dispatch, Run.dispatch, map_nothing]

theorem step_eq :
    step rounds recognize env e s = Run.step .recognizer rounds recognize recognize env e s := by
  simp only [step, Run.step, dispatch_eq]

/-- Recognition is the uniform engine that builds nothing. -/
theorem run_eq (budget : Nat) : run budget = PegEngine.run budget .recognizer := by
  induction budget with
  | zero => rfl
  | succ budget ih =>
    funext env e s
    rw [run, PegEngine.run, step_eq, ih]

theorem runEnd_eq (budget : Nat) : runEnd budget env s = PegEngine.runEnd budget env s := by
  rw [runEnd, PegEngine.runEnd, run_eq]

theorem runToEnd_eq (budget : Nat) :
    runToEnd budget env e s = PegEngine.runToEnd budget .recognizer env e s := by
  simp only [runToEnd, PegEngine.runToEnd, run_eq, runEnd_eq]

theorem run_eq_engine : run = Builder.recognizer.engine :=
  funext run_eq

end Recognition

namespace Parsing

/-- The trees in hand are those that the values in hand add to their group. -/
def Collects (trees : List Tree) (values : List (Option Tree)) : Prop :=
  trees.reverse = values.reverse.flatMap Tree.contribution

theorem Collects.cons {trees : List Tree} {values : List (Option Tree)}
    (collects : Collects trees values) (result : Option Tree) :
    Collects (Tree.collect trees result) (result :: values) := by
  rw [Collects, Tree.collect, List.reverse_append, List.reverse_reverse, collects, List.reverse_cons,
    List.flatMap_append, List.flatMap_singleton]

theorem Collects.nil : Collects [] [] := rfl

theorem Collects.ofForest_eq {trees : List Tree} {values : List (Option Tree)}
    (collects : Collects trees values) : Tree.ofForest trees.reverse = Tree.gather values.reverse := by
  rw [collects, Tree.gather]

section Operators

variable (parse : Expr → State → Run (Option Tree)) (body : State → Run (Option Tree))
  (pattern : Expr) {trees : List Tree} {values : List (Option Tree)}

theorem sequence_eq (collects : Collects trees values) (start : Cursor) (items : List Expr)
    (s : State) :
    sequence parse pattern start items trees s =
      (Run.sequence parse pattern start items values s).andThen Builder.tree.close := by
  induction items generalizing trees values s with
  | nil =>
    rw [sequence, collects.ofForest_eq]
    rfl
  | cons e rest ih =>
    rw [sequence, Run.sequence]
    cases parse e s with
    | done result t => exact ih (collects.cons result) t
    | failed failure t => rfl
    | exhausted => rfl

theorem firstOf_eq (start : Cursor) (alternatives : List Expr) (last : Option Trail) (s : State) :
    firstOf parse pattern start alternatives last s =
      Run.firstOf parse pattern start alternatives last s := by
  induction alternatives generalizing last s with
  | nil => rfl
  | cons e rest ih =>
    rw [firstOf, Run.firstOf]
    cases parse e s with
    | done result t => rfl
    | failed failure t =>
      cases failure with
      | mismatch trail => exact ih (some trail) t
      | fault fault => rfl
    | exhausted => rfl

theorem optional_eq (s : State) :
    optional body s = Run.optional body (Builder.tree.close []) s := by
  rw [optional, Run.optional]
  cases body s with
  | done result t => rfl
  | failed failure t =>
    cases failure with
    | mismatch trail => rfl
    | fault fault => rfl
  | exhausted => rfl

theorem iterate_eq (collects : Collects trees values) (min max : Nat) (start : Cursor)
    (rounds count : Nat) (s : State) :
    (Run.iterate body pattern min max start rounds count trees s).map Tree.ofForest =
      (Run.repetition body pattern min max start rounds count values s).andThen
        Builder.tree.close := by
  induction rounds generalizing count trees values s with
  | zero => rfl
  | succ rounds ih =>
    have ends {trees : List Tree} {values : List (Option Tree)} (collects : Collects trees values)
        (t : State) : Run.done (Tree.ofForest trees.reverse) t =
          Builder.tree.close values.reverse t := by
      rw [collects.ofForest_eq]
      rfl
    rw [Run.iterate, Run.repetition]
    split
    · exact ends collects s
    · cases body s with
      | done result t =>
        dsimp only
        split
        · exact ends (collects.cons result) t
        · exact ih (collects.cons result) (count + 1) t
      | failed failure t =>
        dsimp only
        split
        · exact ends collects t
        · rfl
      | exhausted => rfl

theorem repetition_eq (rounds min max : Nat) (s : State) :
    repetition rounds body pattern min max s =
      (Run.checkBounds pattern s).andThen fun _ t =>
        (Run.repetition body pattern min max t.cursor rounds 0 [] t).andThen
          Builder.tree.close := by
  rw [repetition, Run.iterations]
  cases Run.checkBounds pattern s with
  | done _ t => exact iterate_eq body pattern .nil min max t.cursor rounds 0 t
  | failed failure t => rfl
  | exhausted => rfl

theorem capture_eq (source : Source) (name : String) (s : State) :
    (capture source name body s).map some =
      (body s).andThen fun inside t =>
        .done (Builder.tree.capture name source ⟨s.cursor.position, t.cursor.position⟩ inside) t := by
  rw [capture]
  cases body s with
  | done inside t =>
    cases inside with
    | none => rfl
    | some inner => rfl
  | failed failure t => rfl
  | exhausted => rfl

end Operators

variable (rounds : Nat) (recognize : Expr → State → Run Cursor)
  (parse : Expr → State → Run (Option Tree)) (env : Env) (e : Expr) (s : State)

theorem dispatch_eq :
    dispatch rounds recognize parse env e s =
      Run.dispatch .tree rounds recognize parse env e s := by
  cases e with
  | seq items => exact sequence_eq parse (.seq items) .nil s.cursor items s
  | choice alternatives =>
    exact firstOf_eq parse (.choice alternatives) s.cursor alternatives none s
  | optional body => exact optional_eq (parse body) s
  | rep min max body => exact repetition_eq (parse body) (.rep min max body) rounds min max s
  | capture name body => exact capture_eq (parse body) env.source name s
  | ref name => rfl
  | verbatim body => rfl
  | range low high =>
    -- Whether the bounds make sense is found out before there is a value to be dropped.
    simp only [dispatch, Run.dispatch, Recognition.dispatch]
    cases Run.checkBounds (.range low high) s with
    | done _ t => rfl
    | failed failure t => rfl
    | exhausted => rfl
  | char _ | literal _ | not _ | peek _ | any | anyBut _ | eof | eol | space => rfl

theorem step_eq :
    step rounds recognize parse env e s = Run.step .tree rounds recognize parse env e s := by
  simp only [step, Run.step, dispatch_eq]

/-- Parsing is the uniform engine that builds trees. -/
theorem run_eq (budget : Nat) : run budget = PegEngine.run budget .tree := by
  induction budget with
  | zero => rfl
  | succ budget ih =>
    funext env e s
    rw [run, PegEngine.run, step_eq, ih, Recognition.run_eq]

theorem runToEnd_eq (budget : Nat) :
    runToEnd budget env e s = PegEngine.runToEnd budget .tree env e s := by
  simp only [runToEnd, PegEngine.runToEnd, run_eq, Recognition.runEnd_eq]

theorem run_eq_engine : run = Builder.tree.engine :=
  funext run_eq

end Parsing

/-! ## Sessions -/

namespace Session

variable (session : Session) (budget : Nat) (e : Expr)

theorem recognizeWithin_eq :
    session.recognizeWithin budget e =
      session.reply? (run budget .recognizer session.toEnv e session.state) := by
  rw [recognizeWithin, Recognition.run_eq]

theorem recognizeAllWithin_eq :
    session.recognizeAllWithin budget e =
      session.reply? (runToEnd budget .recognizer session.toEnv e session.state) := by
  rw [recognizeAllWithin, Recognition.runToEnd_eq]

theorem parseWithin_eq :
    session.parseWithin budget e =
      session.reply? (run budget .tree session.toEnv e session.state) := by
  rw [parseWithin, Parsing.run_eq]

theorem parseAllWithin_eq :
    session.parseAllWithin budget e =
      session.reply? (runToEnd budget .tree session.toEnv e session.state) := by
  rw [parseAllWithin, Parsing.runToEnd_eq]

theorem recognize_eq :
    session.recognize e =
      session.reply? (run (session.budget e) .recognizer session.toEnv e session.state) :=
  session.recognizeWithin_eq _ e

theorem recognizeAll_eq :
    session.recognizeAll e =
      session.reply? (runToEnd (session.budget e) .recognizer session.toEnv e session.state) :=
  session.recognizeAllWithin_eq _ e

theorem parse_eq :
    session.parse e = session.reply? (run (session.budget e) .tree session.toEnv e session.state) :=
  session.parseWithin_eq _ e

theorem parseAll_eq :
    session.parseAll e =
      session.reply? (runToEnd (session.budget e) .tree session.toEnv e session.state) :=
  session.parseAllWithin_eq _ e

/-- What every reply to the uniform engine has, whatever is built, every reply has. -/
theorem forall_replies {P : ∀ {α : Type}, Reply α → Prop}
    (whole : ∀ {α : Type} (builder : Builder α) {reply : Reply α},
      session.reply? (run budget builder session.toEnv e session.state) = some reply → P reply)
    (toEnd : ∀ {α : Type} (builder : Builder α) {reply : Reply α},
      session.reply? (runToEnd budget builder session.toEnv e session.state) = some reply →
        P reply) :
    (∀ reply, session.recognizeWithin budget e = some reply → P reply) ∧
    (∀ reply, session.recognizeAllWithin budget e = some reply → P reply) ∧
    (∀ reply, session.parseWithin budget e = some reply → P reply) ∧
    ∀ reply, session.parseAllWithin budget e = some reply → P reply := by
  rw [recognizeWithin_eq, recognizeAllWithin_eq, parseWithin_eq, parseAllWithin_eq]
  exact ⟨fun _ => whole .recognizer, fun _ => toEnd .recognizer, fun _ => whole .tree,
    fun _ => toEnd .tree⟩

end Session

end PegEngine
