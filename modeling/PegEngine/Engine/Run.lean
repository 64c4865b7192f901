import PegEngine.Engine.Event
import PegEngine.Failure.Basic

/-! Runs. A run starts in a state and ends in one, with a value or with a failure, unless its budget
is exhausted first. The state is the cursor, the setting of skipping, and the events noted so far. -/
namespace PegEngine

/-- What is skipped in front of an expression. A run changes this setting, and puts it back. -/
structure Skipping where
  /-- What may be skipped, in the order in which it is tried. -/
  ignore : List Expr
  /-- Whether skipping is switched off. -/
  verbatim : Bool

namespace Skipping

/-- Whether there is anything to skip. -/
def active (skipping : Skipping) : Bool :=
  !skipping.verbatim && !skipping.ignore.isEmpty

/-- The setting while ignorable expressions are matched themselves. -/
def suspended : Skipping :=
  ⟨[], true⟩

/-- The same list with skipping switched off, or on. -/
def toggle (skipping : Skipping) (verbatim : Bool) : Skipping :=
  { skipping with verbatim := verbatim }

@[simp] theorem toggle_ignore (skipping : Skipping) (verbatim : Bool) :
    (skipping.toggle verbatim).ignore = skipping.ignore := rfl

@[simp] theorem toggle_verbatim (skipping : Skipping) (verbatim : Bool) :
    (skipping.toggle verbatim).verbatim = verbatim := rfl

@[simp] theorem toggle_toggle (skipping : Skipping) (a b : Bool) :
    (skipping.toggle a).toggle b = skipping.toggle b := rfl

@[simp] theorem toggle_self (skipping : Skipping) :
    skipping.toggle skipping.verbatim = skipping := rfl

end Skipping

/-- What a run changes. -/
structure State where
  cursor : Cursor
  skipping : Skipping
  /-- The events noted so far, the latest first. -/
  log : List Event

namespace State

/-- One character further. -/
def next (source : Source) (s : State) : State :=
  { s with cursor := s.cursor.next source }

/-- The same state at another cursor. -/
def moveTo (s : State) (cursor : Cursor) : State :=
  { s with cursor := cursor }

/-- The same state with another setting of skipping. -/
def withSkipping (s : State) (skipping : Skipping) : State :=
  { s with skipping := skipping }

/-- The same state with one more event noted. -/
def note (s : State) (event : Event) : State :=
  { s with log := event :: s.log }

@[simp] theorem next_cursor (source : Source) (s : State) :
    (s.next source).cursor = s.cursor.next source := rfl

@[simp] theorem next_skipping (source : Source) (s : State) :
    (s.next source).skipping = s.skipping := rfl

@[simp] theorem next_log (source : Source) (s : State) : (s.next source).log = s.log := rfl

@[simp] theorem moveTo_cursor (s : State) (cursor : Cursor) : (s.moveTo cursor).cursor = cursor :=
  rfl

@[simp] theorem moveTo_skipping (s : State) (cursor : Cursor) :
    (s.moveTo cursor).skipping = s.skipping := rfl

@[simp] theorem moveTo_log (s : State) (cursor : Cursor) : (s.moveTo cursor).log = s.log := rfl

@[simp] theorem moveTo_self (s : State) : s.moveTo s.cursor = s := rfl

@[simp] theorem withSkipping_cursor (s : State) (skipping : Skipping) :
    (s.withSkipping skipping).cursor = s.cursor := rfl

@[simp] theorem withSkipping_skipping (s : State) (skipping : Skipping) :
    (s.withSkipping skipping).skipping = skipping := rfl

@[simp] theorem withSkipping_log (s : State) (skipping : Skipping) :
    (s.withSkipping skipping).log = s.log := rfl

@[simp] theorem note_cursor (s : State) (event : Event) : (s.note event).cursor = s.cursor := rfl

@[simp] theorem note_skipping (s : State) (event : Event) :
    (s.note event).skipping = s.skipping := rfl

@[simp] theorem note_log (s : State) (event : Event) : (s.note event).log = event :: s.log := rfl

end State

/-- How a run ended. -/
inductive Run (α : Type) where
  | done (value : α) (state : State)
  | failed (failure : Failure) (state : State)
  /-- The budget did not suffice to tell. -/
  | exhausted

namespace Run

variable {α β : Type}

/-- Go on from where a run ended, if it ended with a value. -/
@[inline] def andThen (run : Run α) (rest : α → State → Run β) : Run β :=
  match run with
  | done a s => rest a s
  | failed failure s => failed failure s
  | exhausted => exhausted

/-- The same run with another value. -/
@[inline] def map (f : α → β) : Run α → Run β
  | done a s => done (f a) s
  | failed failure s => failed failure s
  | exhausted => exhausted

/-- Give up an attempt that failed: the cursor goes back to where the attempt began. -/
@[inline] def orReturnTo (start : Cursor) : Run α → Run α
  | done a s => done a s
  | failed failure s => failed failure (s.moveTo start)
  | exhausted => exhausted

/-- Put something back however a run ended. -/
@[inline] def afterwards (mend : State → State) : Run α → Run α
  | done a s => done a (mend s)
  | failed failure s => failed failure (mend s)
  | exhausted => exhausted

@[simp] theorem andThen_done (a : α) (s : State) (rest : α → State → Run β) :
    (done a s).andThen rest = rest a s := rfl

@[simp] theorem andThen_failed (failure : Failure) (s : State) (rest : α → State → Run β) :
    (failed failure s).andThen rest = failed failure s := rfl

@[simp] theorem andThen_exhausted (rest : α → State → Run β) :
    (exhausted : Run α).andThen rest = exhausted := rfl

@[simp] theorem map_done (f : α → β) (a : α) (s : State) : (done a s).map f = done (f a) s := rfl

@[simp] theorem map_failed (f : α → β) (failure : Failure) (s : State) :
    (failed failure s).map f = failed failure s := rfl

@[simp] theorem map_exhausted (f : α → β) : (exhausted : Run α).map f = exhausted := rfl

@[simp] theorem orReturnTo_done (start : Cursor) (a : α) (s : State) :
    (done a s).orReturnTo start = done a s := rfl

@[simp] theorem orReturnTo_failed (start : Cursor) (failure : Failure) (s : State) :
    (failed failure s : Run α).orReturnTo start = failed failure (s.moveTo start) := rfl

@[simp] theorem orReturnTo_exhausted (start : Cursor) :
    (exhausted : Run α).orReturnTo start = exhausted := rfl

@[simp] theorem afterwards_done (mend : State → State) (a : α) (s : State) :
    (done a s).afterwards mend = done a (mend s) := rfl

@[simp] theorem afterwards_failed (mend : State → State) (failure : Failure) (s : State) :
    (failed failure s : Run α).afterwards mend = failed failure (mend s) := rfl

@[simp] theorem afterwards_exhausted (mend : State → State) :
    (exhausted : Run α).afterwards mend = exhausted := rfl

end Run

end PegEngine
