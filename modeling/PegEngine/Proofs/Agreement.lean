import PegEngine.Proofs.Simulation

/-! Engines side by side. Given more budget, a run that was not exhausted ends the same. Given
another builder, a run of the uniform engine ends in the same state, with the same failure if it
fails. The two engines are that one with a builder each, so recognizing and parsing differ in nothing
but the values of their successes. -/
namespace PegEngine

namespace Likeness

/-- An engine is like itself. -/
def same (env : Env) : Likeness env env where
  covers _ := True
  cursor := Eq
  skipping := Eq
  log := Eq
  fault := Eq
  excuse _ := False
  covers_part _ _ := trivial
  character_eq cursors := congrArg Cursor.character cursors
  cursor_next cursors := congrArg (Cursor.next env.source) cursors
  position_lt_iff := by
    rintro c _ d _ rfl rfl
    exact Iff.rfl
  active_eq skippings := congrArg Skipping.active skippings
  ignore_eq skippings _ := ⟨congrArg Skipping.ignore skippings, fun _ _ => trivial⟩
  suspended := rfl
  toggle skippings := congrArg (Skipping.toggle · true) skippings
  skipped := by
    rintro l _ c _ e rfl rfl
    rfl
  resolved := by
    rintro l _ c _ name rfl rfl
    rfl
  found _ sought := ⟨sought, trivial⟩
  missing _ sought := Or.inr ⟨sought, rfl, fun logs => congrArg _ logs⟩
  bounds _ _ := Or.inr rfl

/-! ## Correspondence as equality -/

/-- Whatever corresponds is equal. -/
structure Exact {env env' : Env} (alike : Likeness env env') : Prop where
  cursor : ∀ {c c'}, alike.cursor c c' → c = c'
  skipping : ∀ {k k'}, alike.skipping k k' → k = k'
  log : ∀ {l l'}, alike.log l l' → l = l'
  fault : ∀ {f f'}, alike.fault f f' → f = f'

section Exact

variable {env env' : Env} {alike : Likeness env env'}

theorem States.eq (exact : alike.Exact) {s s' : State} (states : alike.States s s') : s = s' := by
  cases s
  cases s'
  obtain ⟨cursors, skippings, logs⟩ := states
  cases exact.cursor cursors
  cases exact.skipping skippings
  cases exact.log logs
  rfl

/-- Trails mention nothing but cursors, so they are equal where cursors are. -/
theorem Trails.eq (same : ∀ {c c'}, alike.cursor c c' → c = c') {t t' : Trail}
    (trails : alike.Trails t t') : t = t' := by
  have mismatches_eq {m m' : Mismatch} (mismatches : alike.Mismatches m m') : m = m' := by
    cases m
    cases m'
    obtain ⟨patterns, starts, stops⟩ := mismatches
    cases patterns
    cases same starts
    cases same stops
    rfl
  induction trails with
  | single mismatches => rw [mismatches_eq mismatches]
  | within _ mismatches ih => rw [ih, mismatches_eq mismatches]

theorem Failures.eq (exact : alike.Exact) {f f' : Failure} (failures : alike.Failures f f') :
    f = f' := by
  cases failures with
  | mismatch trails => rw [trails.eq exact.cursor]
  | fault faults => rw [exact.fault faults]

variable {α β : Type} {value : α → β → Prop} {r : Run α} {r' : Run β}

/-- What follows a run exactly succeeds where it does and fails as it does, unless it is excused. -/
theorem Follows.exact (exact : alike.Exact) (follows : alike.Follows value r r') :
    (∀ f s, r = .failed f s → alike.Excused f ∨ r' = .failed f s) ∧
    ∀ a s, r = .done a s → ∃ b, r' = .done b s ∧ value a b := by
  constructor
  · rintro f s rfl
    rcases follows with excused | ⟨f', s', ran', failures, states⟩
    · exact Or.inl excused
    · rw [failures.eq exact, states.eq exact]
      exact Or.inr ran'
  · rintro a s rfl
    obtain ⟨b, s', ran', valued, states⟩ := follows
    rw [states.eq exact]
    exact ⟨b, ran', valued⟩

end Exact

variable {env : Env}

theorem states_same (s : State) : (same env).States s s :=
  ⟨rfl, rfl, rfl⟩

theorem exact_same : (same env).Exact :=
  ⟨id, id, id, id⟩

variable {α β : Type} {value : α → β → Prop} {r : Run α} {r' : Run β}

/-- What follows a run of the same engine fails as it does, and succeeds where it does. -/
theorem Follows.same (follows : (same env).Follows value r r') :
    (∀ f s, r = .failed f s → r' = .failed f s) ∧
    ∀ a s, r = .done a s → ∃ b, r' = .done b s ∧ value a b := by
  obtain ⟨fails, succeeds⟩ := follows.exact exact_same
  refine ⟨fun f s ran => (fails f s ran).resolve_left fun excused => ?_, succeeds⟩
  cases f with
  | mismatch trail => exact excused
  | fault broken => exact excused

theorem builds_same (builder : Builder α) : (same env).Builds builder builder Eq where
  gather := by
    rintro members members' c _ memberwise rfl
    rw [List.forall₂_eq_eq_eq] at memberwise
    rw [memberwise]
  capture := by
    rintro name a _ c _ d _ rfl rfl rfl
    rfl

end Likeness

open Likeness

variable {α β : Type} {env : Env}

/-! ## More budget -/

theorem Run.eq_of_follows {r r' : Run α} (follows : (same env).Follows Eq r r')
    (ended : r ≠ .exhausted) : r' = r := by
  obtain ⟨fails, succeeds⟩ := follows.same
  cases r with
  | done a s =>
    obtain ⟨b, ran', valued⟩ := succeeds a s rfl
    rw [ran', valued]
  | failed f s => exact fails f s rfl
  | exhausted => exact absurd rfl ended

/-- More budget changes nothing for a run that has ended. -/
theorem run_mono {budget budget' : Nat} (enough : budget ≤ budget') {builder : Builder α} {e : Expr}
    {s : State} (ended : run budget builder env e s ≠ .exhausted) :
    run budget' builder env e s = run budget builder env e s :=
  Run.eq_of_follows (run_follows (builds_same builder) enough trivial (states_same s)) ended

/-- All budgets with which a run ends agree on how. -/
theorem run_unique {budget budget' : Nat} {builder : Builder α} {e : Expr} {s : State}
    {r r' : Run α} (ran : run budget builder env e s = r)
    (ran' : run budget' builder env e s = r') (ended : r ≠ .exhausted) (ended' : r' ≠ .exhausted) :
    r = r' := by
  rw [← ran] at ended
  rw [← ran'] at ended'
  have larger := run_mono (Nat.le_max_left budget budget') ended
  have larger' := run_mono (Nat.le_max_right budget budget') ended'
  rw [← ran, ← ran', ← larger, larger']

theorem runToEnd_mono {budget budget' : Nat} (enough : budget ≤ budget') {builder : Builder α}
    {e : Expr} {s : State} (ended : runToEnd budget builder env e s ≠ .exhausted) :
    runToEnd budget' builder env e s = runToEnd budget builder env e s :=
  Run.eq_of_follows (runToEnd_follows (builds_same builder) enough trivial (states_same s)) ended

/-! ## Another builder -/

/-- Runs that follow each other differ in nothing but the value of a success. -/
theorem Run.map_eq_of_follows {r : Run α} {r' : Run β}
    (forth : (same env).Follows (fun _ _ => True) r r')
    (back : (same env).Follows (fun _ _ => True) r' r) :
    r.map (fun _ => ()) = r'.map fun _ => () := by
  cases r with
  | done a s =>
    obtain ⟨b, ran', _⟩ := forth.same.2 a s rfl
    rw [ran']
    rfl
  | failed f s =>
    rw [forth.same.1 f s rfl]
    rfl
  | exhausted =>
    cases r' with
    | done b s =>
      obtain ⟨a, ran, _⟩ := back.same.2 b s rfl
      cases ran
    | failed f s => cases back.same.1 f s rfl
    | exhausted => rfl

theorem run_forget (budget : Nat) (builder : Builder α) (builder' : Builder β) (e : Expr)
    (s : State) :
    (run budget builder env e s).map (fun _ => ()) =
      (run budget builder' env e s).map fun _ => () :=
  Run.map_eq_of_follows
    (run_follows (builds_any builder builder') (Nat.le_refl _) trivial (states_same s))
    (run_follows (builds_any builder' builder) (Nat.le_refl _) trivial (states_same s))

theorem runToEnd_forget (budget : Nat) (builder : Builder α) (builder' : Builder β) (e : Expr)
    (s : State) :
    (runToEnd budget builder env e s).map (fun _ => ()) =
      (runToEnd budget builder' env e s).map fun _ => () :=
  Run.map_eq_of_follows
    (runToEnd_follows (builds_any builder builder') (Nat.le_refl _) trivial (states_same s))
    (runToEnd_follows (builds_any builder' builder) (Nat.le_refl _) trivial (states_same s))

/-! ## The other engine -/

/-- Parsing ends as recognizing does, but for the value. Each of the two refines the uniform engine,
and there the builder does not matter. -/
theorem Parsing.run_forget (budget : Nat) (e : Expr) (s : State) :
    (Parsing.run budget env e s).map (fun _ => ()) =
      (Recognition.run budget env e s).map fun _ => () := by
  rw [Parsing.run_eq, Recognition.run_eq]
  exact PegEngine.run_forget budget .tree .recognizer e s

theorem Parsing.runToEnd_forget (budget : Nat) (e : Expr) (s : State) :
    (Parsing.runToEnd budget env e s).map (fun _ => ()) =
      (Recognition.runToEnd budget env e s).map fun _ => () := by
  rw [Parsing.runToEnd_eq, Recognition.runToEnd_eq]
  exact PegEngine.runToEnd_forget budget .tree .recognizer e s

/-! ## Sessions -/

namespace Reply

/-- The same reply with another value of its success. -/
def map (f : α → β) (reply : Reply α) : Reply β :=
  ⟨reply.outcome.map f, reply.session, reply.log⟩

/-- The reply without the value of its success. -/
def forget (reply : Reply α) : Reply Unit :=
  reply.map fun _ => ()

/-- The reply with the cursor that the session is left with as the value of its success. -/
def reached (reply : Reply α) : Reply Cursor :=
  reply.map fun _ => reply.session.cursor

/-- Where the session is left does not depend on the value. -/
theorem reached_comp_forget : reached ∘ forget = (reached : Reply α → Reply Cursor) := by
  funext reply
  obtain ⟨outcome, session, log⟩ := reply
  cases outcome with
  | error failure => rfl
  | ok a => rfl

end Reply

namespace Session

variable (session : Session)

theorem reply?_map (f : α → β) (r : Run α) :
    session.reply? (r.map f) = (session.reply? r).map (Reply.map f) := by
  cases r with
  | done a s => rfl
  | failed failure s => rfl
  | exhausted => rfl

theorem reply?_forget {r : Run α} {r' : Run β}
    (alike : r.map (fun _ => ()) = r'.map fun _ => ()) :
    (session.reply? r).map Reply.forget = (session.reply? r').map Reply.forget := by
  have replies := congrArg session.reply? alike
  rw [reply?_map, reply?_map] at replies
  exact replies

/-- A recognizer answers the cursor that the session is left with. -/
theorem recognizeWithin_reached (budget : Nat) (e : Expr) :
    (session.recognizeWithin budget e).map Reply.reached = session.recognizeWithin budget e := by
  have settles := run_settles budget Run.rightFor_recognizer session.toEnv e session.state
  rw [recognizeWithin_eq]
  cases ran : run budget .recognizer session.toEnv e session.state with
  | done stop s =>
    rw [ran] at settles
    have here : stop = s.cursor := settles.2
    rw [here]
    rfl
  | failed failure s => rfl
  | exhausted => rfl

end Session

/-- Parsing and recognizing never disagree, for all that each has operators of its own: a parse is a
match whose success has the tree in place of the cursor, and otherwise ends with the same failure,
session and log. The same holds where only ignorable text may follow. -/
theorem parse_agrees_with_recognize (budget : Nat) (session : Session) (e : Expr) :
    (session.parseWithin budget e).map Reply.reached = session.recognizeWithin budget e ∧
    (session.parseAllWithin budget e).map Reply.forget =
      (session.recognizeAllWithin budget e).map Reply.forget := by
  constructor
  · have forgotten : (session.parseWithin budget e).map Reply.forget =
        (session.recognizeWithin budget e).map Reply.forget :=
      session.reply?_forget (Parsing.run_forget budget e session.state)
    have reached := congrArg (Option.map Reply.reached) forgotten
    rw [Option.map_map, Option.map_map, Reply.reached_comp_forget, Reply.reached_comp_forget,
      session.recognizeWithin_reached] at reached
    exact reached
  · exact session.reply?_forget (Parsing.runToEnd_forget budget e session.state)

end PegEngine
