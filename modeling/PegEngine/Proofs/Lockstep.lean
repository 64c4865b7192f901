import PegEngine.Proofs.Agreement

/-! Lockstep. A likeness that excuses nothing, between engines with the same definitions, can be turned
round. Then runs with the same budget end alike, or neither ends. What was noted before a run is one
thing that may differ: it stays in front of what the run notes, and changes nothing else. -/
namespace PegEngine

open List (Forall₂)

namespace Likeness

variable {α β : Type} {env env' : Env}

/-! ## Likenesses from others -/

/-- Nothing is excused, and names mean the same to both engines. -/
structure Reversible (alike : Likeness env env') : Prop where
  definitions : env'.definitions = env.definitions
  candid : ∀ broken, ¬alike.excuse broken

/-- The likeness as the second engine sees it. -/
def flip (alike : Likeness env env') (reversible : alike.Reversible) : Likeness env' env where
  covers := alike.covers
  cursor c c' := alike.cursor c' c
  skipping k k' := alike.skipping k' k
  log l l' := alike.log l' l
  fault f f' := alike.fault f' f
  excuse := alike.excuse
  covers_part := alike.covers_part
  character_eq cursors := (alike.character_eq cursors).symm
  cursor_next := alike.cursor_next
  position_lt_iff first second := (alike.position_lt_iff first second).symm
  active_eq skippings := (alike.active_eq skippings).symm
  ignore_eq skippings active := by
    obtain ⟨same, covered⟩ :=
      alike.ignore_eq skippings ((alike.active_eq skippings).trans active)
    exact ⟨same.symm, same ▸ covered⟩
  suspended := alike.suspended
  toggle := alike.toggle
  skipped := alike.skipped
  resolved := alike.resolved
  found covered sought := by
    rw [reversible.definitions] at sought
    exact ⟨sought, (alike.found covered sought).2⟩
  missing covered sought := by
    rw [reversible.definitions] at sought
    refine (alike.missing covered sought).imp_right ?_
    rintro ⟨_, faults, logs⟩
    exact ⟨sought, faults, logs⟩
  bounds := alike.bounds

/-- The likeness with another correspondence of logs. -/
def relog (alike : Likeness env env') (log : List Event → List Event → Prop)
    (skipped : ∀ {l l' c c'} e, log l l' → alike.cursor c c' →
      log (.skipped e c :: l) (.skipped e c' :: l'))
    (resolved : ∀ {l l' c c'} name, log l l' → alike.cursor c c' →
      log (.resolved name c :: l) (.resolved name c' :: l'))
    (undefined : ∀ {l l'} name, log l l' → log (.undefined name :: l) (.undefined name :: l')) :
    Likeness env env' where
  covers := alike.covers
  cursor := alike.cursor
  skipping := alike.skipping
  log := log
  fault := alike.fault
  excuse := alike.excuse
  covers_part := alike.covers_part
  character_eq := alike.character_eq
  cursor_next := alike.cursor_next
  position_lt_iff := alike.position_lt_iff
  active_eq := alike.active_eq
  ignore_eq := alike.ignore_eq
  suspended := alike.suspended
  toggle := alike.toggle
  skipped := skipped
  resolved := resolved
  found := alike.found
  missing covered sought := (alike.missing covered sought).imp_right fun missing =>
    ⟨missing.1, missing.2.1, undefined _⟩
  bounds := alike.bounds

/-- The likeness with another correspondence of settings of skipping. -/
def reskip (alike : Likeness env env') (skipping : Skipping → Skipping → Prop)
    (active_eq : ∀ {k k'}, skipping k k' → k.active = k'.active)
    (ignore_eq : ∀ {k k'}, skipping k k' → k.active = true →
      k.ignore = k'.ignore ∧ ∀ e ∈ k.ignore, alike.covers e)
    (suspended : skipping .suspended .suspended)
    (toggle : ∀ {k k'}, skipping k k' → skipping (k.toggle true) (k'.toggle true)) :
    Likeness env env' where
  covers := alike.covers
  cursor := alike.cursor
  skipping := skipping
  log := alike.log
  fault := alike.fault
  excuse := alike.excuse
  covers_part := alike.covers_part
  character_eq := alike.character_eq
  cursor_next := alike.cursor_next
  position_lt_iff := alike.position_lt_iff
  active_eq := active_eq
  ignore_eq := ignore_eq
  suspended := suspended
  toggle := toggle
  skipped := alike.skipped
  resolved := alike.resolved
  found := alike.found
  missing := alike.missing
  bounds := alike.bounds

/-! ## Runs that agree -/

variable {alike : Likeness env env'}

/-- Both runs end alike, or neither ends. -/
inductive Agrees (alike : Likeness env env') (value : α → β → Prop) : Run α → Run β → Prop where
  | done {a b s s'} : value a b → alike.States s s' → Agrees alike value (.done a s) (.done b s')
  | failed {f f' s s'} : alike.Failures f f' → alike.States s s' →
      Agrees alike value (.failed f s) (.failed f' s')
  | exhausted : Agrees alike value .exhausted .exhausted

theorem Reversible.not_excused (reversible : alike.Reversible) (failure : Failure) :
    ¬alike.Excused failure := by
  intro excused
  cases failure with
  | mismatch trail => exact excused
  | fault broken => exact reversible.candid broken excused

/-- Runs agree that follow each other. -/
theorem agrees_of_follows (reversible : alike.Reversible) {value : α → β → Prop}
    {value' : β → α → Prop} {r : Run α} {r' : Run β} (forth : alike.Follows value r r')
    (back : (alike.flip reversible).Follows value' r' r) : alike.Agrees value r r' := by
  cases r with
  | done a s =>
    obtain ⟨b, s', rfl, valued, states⟩ := forth
    exact .done valued states
  | failed failure s =>
    rcases forth with excused | ⟨failure', s', rfl, failures, states⟩
    · exact (reversible.not_excused failure excused).elim
    · exact .failed failures states
  | exhausted =>
    cases r' with
    | done b s' =>
      obtain ⟨_, _, ran, _, _⟩ := back
      cases ran
    | failed failure s' =>
      rcases back with excused | ⟨_, _, ran, _, _⟩
      · exact (reversible.not_excused failure excused).elim
      · cases ran
    | exhausted => exact .exhausted

theorem States.flip (reversible : alike.Reversible) {s s' : State} (states : alike.States s s') :
    (alike.flip reversible).States s' s :=
  ⟨states.cursor, states.skipping, states.log⟩

section Runs

variable (reversible : alike.Reversible) {value : α → β → Prop} {builder : Builder α}
  {builder' : Builder β} (builds : alike.Builds builder builder' value) (budget : Nat) {e : Expr}
  (covered : alike.covers e) {s s' : State} (states : alike.States s s')
include reversible states

theorem skip_agrees (rounds : Nat) :
    alike.Agrees Eq (Run.skip rounds (run budget .recognizer env) s)
      (Run.skip rounds (run budget .recognizer env') s') := by
  have back := states.flip reversible
  exact agrees_of_follows reversible
    (skip_follows (fun _ covered _ _ here =>
      run_follows builds_recognizer (Nat.le_refl budget) covered here) states (Nat.le_refl rounds))
    (skip_follows (fun _ covered _ _ here =>
      run_follows builds_recognizer (Nat.le_refl budget) covered here) back (Nat.le_refl rounds))

include builds covered

theorem run_agrees :
    alike.Agrees value (run budget builder env e s) (run budget builder' env' e s') := by
  have back := states.flip reversible
  have covered' : (alike.flip reversible).covers e := covered
  exact agrees_of_follows reversible (run_follows builds (Nat.le_refl budget) covered states)
    (run_follows (builds_any builder' builder) (Nat.le_refl budget) covered' back)

theorem runToEnd_agrees :
    alike.Agrees value (runToEnd budget builder env e s) (runToEnd budget builder' env' e s') := by
  have back := states.flip reversible
  have covered' : (alike.flip reversible).covers e := covered
  exact agrees_of_follows reversible (runToEnd_follows builds (Nat.le_refl budget) covered states)
    (runToEnd_follows (builds_any builder' builder) (Nat.le_refl budget) covered' back)

end Runs

/-- Failures are equal where cursors and faults are. -/
theorem Failures.eq_of (cursors : ∀ {c c'}, alike.cursor c c' → c = c')
    (faults : ∀ {f f'}, alike.fault f f' → f = f') {failure failure' : Failure}
    (failures : alike.Failures failure failure') : failure = failure' := by
  cases failures with
  | mismatch trails => rw [trails.eq cursors]
  | fault alikeFaults => rw [faults alikeFaults]

/-- A builder makes the same values where cursors are the same. -/
theorem builds_of_eq {alike : Likeness env env} (cursors : ∀ {c c'}, alike.cursor c c' → c = c')
    (builder : Builder α) : alike.Builds builder builder Eq where
  gather memberwise stops := by
    rw [List.forall₂_eq_eq_eq] at memberwise
    rw [memberwise, cursors stops]
  capture values starts stops := by
    rw [values, cursors starts, cursors stops]

end Likeness

/-! ## Earlier events -/

namespace State

/-- The state with these events noted before its own. -/
def after (s : State) (earlier : List Event) : State :=
  { s with log := s.log ++ earlier }

end State

namespace Likeness

variable {α : Type} {env : Env} {earlier : List Event}

/-- An engine is like itself after other events. -/
def noted (env : Env) (earlier : List Event) : Likeness env env :=
  (same env).relog (fun l l' => l' = l ++ earlier)
    (by
      rintro l _ c _ e rfl rfl
      rfl)
    (by
      rintro l _ c _ name rfl rfl
      rfl)
    (by
      rintro l _ name rfl
      rfl)

theorem reversible_noted : (noted env earlier).Reversible :=
  ⟨rfl, fun _ => id⟩

theorem states_noted (s : State) : (noted env earlier).States s (s.after earlier) :=
  ⟨rfl, rfl, rfl⟩

theorem builds_noted (builder : Builder α) : (noted env earlier).Builds builder builder Eq :=
  builds_of_eq id builder

theorem States.eq_after {s s' : State} (states : (noted env earlier).States s s') :
    s' = s.after earlier := by
  cases s
  cases s'
  obtain ⟨cursors, skippings, logs⟩ := states
  cases cursors
  cases skippings
  cases logs
  rfl

theorem Agrees.eq_after {r r' : Run α} (agrees : (noted env earlier).Agrees Eq r r') :
    r' = r.afterwards fun t => t.after earlier := by
  cases agrees with
  | done valued states =>
    rw [valued, states.eq_after]
    rfl
  | failed failures states =>
    rw [failures.eq_of id id, states.eq_after]
    rfl
  | exhausted => rfl

end Likeness

open Likeness

section Earlier

variable {α : Type} (budget : Nat) (builder : Builder α) (env : Env) (e : Expr) (s : State)
  (earlier : List Event)

/-- What was noted earlier stays noted, and makes no other difference. -/
theorem run_after :
    run budget builder env e (s.after earlier) =
      (run budget builder env e s).afterwards fun t => t.after earlier :=
  (run_agrees reversible_noted (builds_noted builder) budget trivial (states_noted s)).eq_after

theorem skip_after (rounds : Nat) :
    Run.skip rounds (run budget .recognizer env) (s.after earlier) =
      (Run.skip rounds (run budget .recognizer env) s).afterwards fun t => t.after earlier :=
  (skip_agrees reversible_noted budget (states_noted s) rounds).eq_after

end Earlier

end PegEngine
