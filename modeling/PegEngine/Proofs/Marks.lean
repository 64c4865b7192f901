import PegEngine.Proofs.Simulation

/-! Cursors that mark places of the source. Such a cursor holds the character at its position, and
reading on keeps it so. What a run does depends on the place where it begins and on what it may skip,
not on how lines were counted or on what was noted before. -/
namespace PegEngine

namespace Source

/-- The characters from a position on. -/
def ahead (source : Source) (position : Nat) : List Char :=
  source.toList.drop position

theorem ahead_eq_nil {source : Source} {position : Nat} (none : source[position]? = none) :
    source.ahead position = [] := by
  rw [Array.getElem?_eq_none_iff] at none
  exact List.drop_eq_nil_of_le none

theorem ahead_eq_cons {source : Source} {position : Nat} {c : Char}
    (some : source[position]? = some c) :
    source.ahead position = c :: source.ahead (position + 1) := by
  obtain ⟨within, rfl⟩ := Array.getElem?_eq_some_iff.mp some
  exact List.drop_eq_getElem_cons within

end Source

namespace Cursor

/-- The cursor stands at a position of the source and holds the character there. -/
structure Marks (source : Source) (cursor : Cursor) : Prop where
  within : cursor.position ≤ source.size
  character_eq : cursor.character = source[cursor.position]?

variable {source : Source} {cursor : Cursor}

theorem start_marks (source : Source) : (start source).Marks source :=
  ⟨Nat.zero_le _, rfl⟩

theorem next_eq_self (none : cursor.character = none) : cursor.next source = cursor := by
  rw [next, none]

theorem next_position {c : Char} (some : cursor.character = some c) :
    (cursor.next source).position = cursor.position + 1 := by
  rw [next, some]
  dsimp only
  split
  · rfl
  · rfl

theorem next_character {c : Char} (some : cursor.character = some c) :
    (cursor.next source).character = source[cursor.position + 1]? := by
  rw [next, some]
  dsimp only
  split
  · rfl
  · rfl

namespace Marks

theorem position_lt (marks : cursor.Marks source) {c : Char} (here : cursor.character = some c) :
    cursor.position < source.size := by
  rw [marks.character_eq] at here
  exact (Array.getElem?_eq_some_iff.mp here).1

theorem next (marks : cursor.Marks source) : (cursor.next source).Marks source := by
  cases here : cursor.character with
  | none =>
    rw [next_eq_self here]
    exact marks
  | some c =>
    refine ⟨?_, ?_⟩
    · rw [next_position here]
      exact marks.position_lt here
    · rw [next_position here, next_character here]

/-- At the end of the source nothing lies ahead. -/
theorem ahead_eq_nil (marks : cursor.Marks source) (here : cursor.character = none) :
    source.ahead cursor.position = [] :=
  Source.ahead_eq_nil (marks.character_eq.symm.trans here)

/-- The character of the cursor lies ahead first, and behind it what lies ahead of the next. -/
theorem ahead_eq_cons (marks : cursor.Marks source) {c : Char} (here : cursor.character = some c) :
    source.ahead cursor.position = c :: source.ahead (cursor.next source).position := by
  rw [next_position here]
  exact Source.ahead_eq_cons (marks.character_eq.symm.trans here)

theorem character_eq_head? (marks : cursor.Marks source) :
    cursor.character = (source.ahead cursor.position).head? := by
  cases here : cursor.character with
  | none => rw [marks.ahead_eq_nil here, List.head?_nil]
  | some c => rw [marks.ahead_eq_cons here, List.head?_cons]

end Marks

end Cursor

/-! ## States -/

/-- The state is one that a run may meet: its cursor marks a place, and it skips what the run began
with, unless skipping is off. -/
structure State.Fits (env : Env) (ignore : List Expr) (verbatim : Bool) (s : State) : Prop where
  marks : s.cursor.Marks env.source
  verbatim_eq : s.skipping.verbatim = verbatim
  ignore_eq : verbatim = false → s.skipping.ignore = ignore

namespace State.Fits

variable {env : Env} {ignore : List Expr} {verbatim : Bool} {s t : State}

theorem kept (fits : s.Fits env ignore verbatim) (marks : t.cursor.Marks env.source)
    (same : t.skipping = s.skipping) : t.Fits env ignore verbatim where
  marks := marks
  verbatim_eq := by rw [same, fits.verbatim_eq]
  ignore_eq on := by rw [same, fits.ignore_eq on]

theorem back (fits : s.Fits env ignore verbatim)
    (ends : t.skipping = s.skipping ∧ t.cursor = s.cursor) : t.Fits env ignore verbatim :=
  fits.kept (ends.2 ▸ fits.marks) ends.1

theorem next (fits : s.Fits env ignore verbatim) : (s.next env.source).Fits env ignore verbatim :=
  fits.kept fits.marks.next rfl

/-- With skipping off it does not matter what might be skipped. -/
theorem off (fits : s.Fits env ignore verbatim) {skipping : Skipping}
    (isOff : skipping.verbatim = true) : (s.withSkipping skipping).Fits env ignore true where
  marks := fits.marks
  verbatim_eq := isOff
  ignore_eq on := by cases on

end State.Fits

/-! ## Runs from the same place -/

/-- The expressions are closed under everything that a run may turn to. -/
structure Closed (env : Env) (ignore : List Expr) (covers : Expr → Prop) : Prop where
  part : ∀ {e part}, covers e → part ∈ e.parts → covers part
  definition : ∀ {name target}, env.definitions.find? name = some target → covers target
  ignorable : ∀ e ∈ ignore, covers e

theorem closed_all (env : Env) (ignore : List Expr) : Closed env ignore fun _ => True where
  part _ _ := trivial
  definition _ := trivial
  ignorable _ _ := trivial

namespace Likeness

variable {env : Env} {ignore : List Expr} {covers : Expr → Prop}

/-- An engine is like itself at another state of the same place. -/
def placed (closed : Closed env ignore covers) : Likeness env env where
  covers := covers
  cursor c c' := c.Marks env.source ∧ c'.Marks env.source ∧ c.position = c'.position
  skipping k k' :=
    k.verbatim = k'.verbatim ∧ (k.verbatim = false → k.ignore = ignore ∧ k'.ignore = ignore)
  log _ _ := True
  fault := Eq
  excuse _ := False
  covers_part := closed.part
  character_eq := by
    rintro c c' ⟨marks, marks', same⟩
    rw [marks.character_eq, marks'.character_eq, same]
  cursor_next := by
    rintro c c' ⟨marks, marks', same⟩
    refine ⟨marks.next, marks'.next, ?_⟩
    have characters : c.character = c'.character := by
      rw [marks.character_eq, marks'.character_eq, same]
    cases here : c.character with
    | none =>
      rw [Cursor.next_eq_self here, Cursor.next_eq_self (characters ▸ here), same]
    | some a =>
      rw [Cursor.next_position here, Cursor.next_position (characters ▸ here), same]
  position_lt_iff := by
    rintro c c' d d' ⟨_, _, first⟩ ⟨_, _, second⟩
    rw [first, second]
  active_eq := by
    rintro k k' ⟨switches, lists⟩
    rw [Skipping.active, Skipping.active, ← switches]
    cases on : k.verbatim with
    | true => rfl
    | false => rw [(lists on).1, (lists on).2]
  ignore_eq := by
    rintro k k' ⟨_, lists⟩ active
    rw [Skipping.active, Bool.and_eq_true, Bool.not_eq_true'] at active
    obtain ⟨list, list'⟩ := lists active.1
    refine ⟨list.trans list'.symm, ?_⟩
    rw [list]
    exact closed.ignorable
  suspended := ⟨rfl, fun on => by cases on⟩
  toggle _ := ⟨rfl, fun on => by cases on⟩
  skipped _ _ _ := trivial
  resolved _ _ _ := trivial
  found _ sought := ⟨sought, closed.definition sought⟩
  missing _ sought := Or.inr ⟨sought, rfl, fun _ => trivial⟩
  bounds _ _ := Or.inr rfl

variable {verbatim : Bool} {s s' : State}

theorem states_placed (closed : Closed env ignore covers) (fits : s.Fits env ignore verbatim)
    (fits' : s'.Fits env ignore verbatim) (same : s.cursor.position = s'.cursor.position) :
    (placed closed).States s s' where
  cursor := ⟨fits.marks, fits'.marks, same⟩
  skipping := by
    refine ⟨fits.verbatim_eq.trans fits'.verbatim_eq.symm, fun on => ?_⟩
    have isOn : verbatim = false := fits.verbatim_eq.symm.trans on
    exact ⟨fits.ignore_eq isOn, fits'.ignore_eq isOn⟩
  log := trivial

/-- Both of two states of one place are states that a run may meet. -/
theorem States.fits {closed : Closed env ignore covers} (states : (placed closed).States s s') :
    s.Fits env ignore s.skipping.verbatim ∧ s'.Fits env ignore s.skipping.verbatim := by
  obtain ⟨⟨marks, marks', _⟩, ⟨switches, lists⟩, _⟩ := states
  constructor
  · exact ⟨marks, rfl, fun on => (lists on).1⟩
  · exact ⟨marks', switches.symm, fun on => (lists on).2⟩

end Likeness

open Likeness

section Fits

variable {α : Type} {env : Env} {ignore : List Expr} {verbatim : Bool} {s : State}

/-- The run goes on from `s` to a state that a run may meet, and is back where it began if it
fails. -/
def Run.Goes (env : Env) (ignore : List Expr) (verbatim : Bool) (s : State) (r : Run α) : Prop :=
  r.Ends (fun _ t => t.Fits env ignore verbatim ∧ s.cursor.position ≤ t.cursor.position)
    fun _ t => t.Fits env ignore verbatim ∧ t.cursor = s.cursor

variable (fits : s.Fits env ignore verbatim)
include fits

theorem states_self : (placed (closed_all env ignore)).States s s :=
  states_placed _ fits fits rfl

/-- A run that follows from its own place ends in a state that a run may meet. -/
theorem State.Fits.reached {β : Type} {value : α → β → Prop} {r : Run α} {r' : Run β} {a : α}
    {t : State} (follows : (placed (closed_all env ignore)).Follows value r r')
    (ended : r = .done a t) (kept : t.skipping = s.skipping) : t.Fits env ignore verbatim := by
  rw [ended] at follows
  obtain ⟨_, _, _, _, states⟩ := follows
  exact fits.kept states.cursor.1 kept

theorem run_goes (budget : Nat) (builder : Builder α) (e : Expr) :
    (run budget builder env e s).Goes env ignore verbatim s := by
  have settles := run_settles budget (Run.rightFor_any builder) env e s
  have follows := run_follows (builds_any builder builder) (Nat.le_refl budget) (e := e) trivial
    (states_self fits)
  cases ran : run budget builder env e s with
  | done a t =>
    rw [ran] at settles
    exact ⟨fits.reached follows ran settles.1.1, settles.1.2⟩
  | failed failure t =>
    rw [ran] at settles
    exact ⟨fits.back settles, settles.2⟩
  | exhausted => trivial

/-- An attempt at skipping goes on to such a state, too, and tells whether it is another place. -/
theorem skipOne_goes (budget : Nat) (es : List Expr) :
    (Run.skipOne (run budget .recognizer env) es s).Ends
      (fun more t => t.Fits env ignore verbatim ∧
        (more = true → s.cursor.position < t.cursor.position)) fun _ _ => True := by
  have ends := Run.skipOne_ends (fun e t => run_settles budget Run.rightFor_recognizer env e t) es s
  have follows := skipOne_follows
    (fun _ covered _ _ here => run_follows builds_recognizer (Nat.le_refl budget) covered here)
    (states_self fits) (fun (_ : Expr) (_ : _ ∈ es) => trivial)
  cases ran : Run.skipOne (run budget .recognizer env) es s with
  | done more t =>
    rw [ran] at ends
    exact ⟨fits.reached follows ran ends.1.1, ends.2⟩
  | failed failure t => trivial
  | exhausted => trivial

/-- And so does all of skipping. -/
theorem skip_fits (rounds budget : Nat) :
    (Run.skip rounds (run budget .recognizer env) s).Ends
      (fun _ t => t.Fits env ignore verbatim) fun _ _ => True := by
  have skips := Run.skip_skips (fun e t => run_settles budget Run.rightFor_recognizer env e t)
    rounds s
  have follows := skip_follows
    (fun _ covered _ _ here => run_follows builds_recognizer (Nat.le_refl budget) covered here)
    (states_self fits) (Nat.le_refl rounds)
  cases ran : Run.skip rounds (run budget .recognizer env) s with
  | done _ t =>
    rw [ran] at skips
    exact fits.reached follows ran skips.1
  | failed failure t => trivial
  | exhausted => trivial

end Fits

end PegEngine
