import PegEngine.Proofs.ReadingSound

/-! Runs find all there is to read: whatever the relation says of a place, every run from there comes
out with, once its budget is large enough. Each rule of the relation is followed by the run, and the
induction is on how the reading was derived. -/
namespace PegEngine

open Run

/-- The state is one that a run may meet, at a position. -/
structure State.At (env : Env) (ignore : List Expr) (v : Bool) (p : Nat) (s : State) : Prop extends
    s.Fits env ignore v where
  position_eq : s.cursor.position = p

namespace State.At

variable {env : Env} {ignore : List Expr} {v : Bool} {p : Nat} {s t : State}

theorem back (here : s.At env ignore v p) (ends : t.Fits env ignore v ∧ t.cursor = s.cursor) :
    t.At env ignore v p :=
  ⟨ends.1, by rw [ends.2, here.position_eq]⟩

theorem off (here : s.At env ignore v p) {skipping : Skipping} (isOff : skipping.verbatim = true) :
    (s.withSkipping skipping).At env ignore true p :=
  ⟨here.toFits.off isOff, here.position_eq⟩

end State.At

namespace Run

variable {α : Type} {r : Run α} {q : Nat} {broken : Fault}

theorem eq_done_of_outcome? (came : r.outcome? = some (.upTo q)) :
    ∃ a t, r = .done a t ∧ t.cursor.position = q := by
  cases r with
  | done a t =>
    cases came
    exact ⟨a, t, rfl, rfl⟩
  | failed failure t =>
    cases failure with
    | mismatch trail => cases came
    | fault broken => cases came
  | exhausted => cases came

theorem eq_mismatch_of_outcome? (came : r.outcome? = some .mismatch) :
    ∃ trail t, r = .failed (.mismatch trail) t := by
  cases r with
  | done a t => cases came
  | failed failure t =>
    cases failure with
    | mismatch trail => exact ⟨trail, t, rfl⟩
    | fault broken => cases came
  | exhausted => cases came

theorem eq_fault_of_outcome? (came : r.outcome? = some (.fault broken)) :
    ∃ t, r = .failed (.fault broken) t := by
  cases r with
  | done a t => cases came
  | failed failure t =>
    cases failure with
    | mismatch trail => cases came
    | fault broken =>
      cases came
      exact ⟨t, rfl⟩
  | exhausted => cases came

/-- How an attempt at skipping came out: one that read nothing is a mismatch. -/
def skipOutcome? : Run Bool → Option Outcome
  | done true t => some (.upTo t.cursor.position)
  | done false _ => some .mismatch
  | failed (.fault broken) _ => some (.fault broken)
  | failed (.mismatch _) _ => none
  | exhausted => none

theorem eq_true_of_skipOutcome? {r : Run Bool} (came : r.skipOutcome? = some (.upTo q)) :
    ∃ t, r = .done true t ∧ t.cursor.position = q := by
  unfold skipOutcome? at came
  split at came
  · cases came
    exact ⟨_, rfl, rfl⟩
  all_goals cases came

theorem eq_false_of_skipOutcome? {r : Run Bool} (came : r.skipOutcome? = some .mismatch) :
    ∃ t, r = .done false t := by
  unfold skipOutcome? at came
  split at came
  case h_2 t => exact ⟨t, rfl⟩
  all_goals cases came

theorem eq_fault_of_skipOutcome? {r : Run Bool} (came : r.skipOutcome? = some (.fault broken)) :
    ∃ t, r = .failed (.fault broken) t := by
  unfold skipOutcome? at came
  split at came
  case h_3 t =>
    cases came
    exact ⟨t, rfl⟩
  all_goals cases came

end Run

/-- Every run of the task from the position comes out like this, given this budget, and so many
rounds for what is done over and over. -/
def Attains (env : Env) (ignore : List Expr) (v : Bool) (task : Task) (p : Nat) (o : Outcome)
    (budget rounds : Nat) : Prop :=
  match task with
  | .whole e => ∀ (α : Type) (builder : Builder α) (s : State), s.At env ignore v p →
      (run budget builder env e s).outcome? = some o
  | .bare e => ∀ (α : Type) (builder : Builder α) (s : State), s.At env ignore v p →
      (dispatch builder rounds (run budget .recognizer env) (run budget builder env) env e
        s).outcome? = some o
  | .items es => ∀ (α : Type) (builder : Builder α) (pattern : Expr) (start : Cursor)
      (values : List α) (s : State), s.At env ignore v p →
      (sequence (run budget builder env) pattern start es values s).outcome? = some o
  | .alternatives es => ∀ (α : Type) (builder : Builder α) (pattern : Expr) (start : Cursor)
      (last : Option Trail) (s : State), s.At env ignore v p →
      (firstOf (run budget builder env) pattern start es last s).outcome? = some o
  | .repeats min max body count => ∀ (α : Type) (builder : Builder α) (pattern : Expr)
      (start : Cursor) (values : List α) (s : State), s.At env ignore v p →
      (repetition (run budget builder env body) pattern min max start rounds count values
        s).outcome? = some o
  | .skips => ∀ s : State, s.At env ignore true p →
      (skipAll (run budget .recognizer env) ignore rounds s).outcome? = some o
  | .skipsOne es => ∀ s : State, s.At env ignore true p →
      (skipOne (run budget .recognizer env) es s).skipOutcome? = some o

namespace Attains

variable {env : Env} {ignore : List Expr} {v : Bool} {p q budget rounds : Nat} {o : Outcome}
  {broken : Fault} {e body : Expr} {rest : List Expr} {α : Type} {s : State}

/-! ## Whole expressions -/

theorem done (attains : Attains env ignore v (.whole e) p (.upTo q) budget rounds)
    (builder : Builder α) (here : s.At env ignore v p) :
    ∃ a t, run budget builder env e s = .done a t ∧ t.At env ignore v q := by
  obtain ⟨a, t, ran, there⟩ := eq_done_of_outcome? (attains α builder s here)
  have goes := run_goes here.toFits budget builder e
  rw [ran] at goes
  exact ⟨a, t, ran, goes.1, there⟩

theorem mismatched (attains : Attains env ignore v (.whole e) p .mismatch budget rounds)
    (builder : Builder α) (here : s.At env ignore v p) :
    ∃ trail t, run budget builder env e s = .failed (.mismatch trail) t ∧ t.At env ignore v p := by
  obtain ⟨trail, t, ran⟩ := eq_mismatch_of_outcome? (attains α builder s here)
  have goes := run_goes here.toFits budget builder e
  rw [ran] at goes
  exact ⟨trail, t, ran, here.back goes⟩

theorem faulted (attains : Attains env ignore v (.whole e) p (.fault broken) budget rounds)
    (builder : Builder α) (here : s.At env ignore v p) :
    ∃ t, run budget builder env e s = .failed (.fault broken) t :=
  eq_fault_of_outcome? (attains α builder s here)

theorem whole_verbatim (bare : Attains env ignore true (.bare e) p o budget budget) :
    Attains env ignore true (.whole e) p o (budget + 1) rounds := by
  intro α builder s here
  rw [run, step, outcome?_orReturnTo, skip_off here.toFits, andThen_done]
  exact bare α builder s here

/-- With nothing to skip, skipping at once comes to an end. -/
theorem skip (skips : Attains env ignore false .skips p o budget rounds)
    (here : s.At env ignore false p) :
    (Run.skip rounds (run budget .recognizer env) s).outcome? = some o := by
  have list : s.skipping.ignore = ignore := here.ignore_eq rfl
  have off : Skipping.suspended.verbatim = true := rfl
  have came := skips (s.withSkipping .suspended) (here.off off)
  rw [Run.skip]
  cases active : s.skipping.active with
  | true =>
    rw [if_pos rfl, outcome?_afterwards, list]
    exact came
  | false =>
    rw [Skipping.active, here.verbatim_eq, list, Bool.not_false, Bool.true_and,
      Bool.not_eq_false', List.isEmpty_iff] at active
    rw [active] at came
    cases rounds with
    | zero => cases came
    | succ rounds => exact came

theorem whole (skips : Attains env ignore false .skips p (.upTo q) budget budget)
    (bare : Attains env ignore false (.bare e) q o budget budget) :
    Attains env ignore false (.whole e) p o (budget + 1) rounds := by
  intro α builder s here
  obtain ⟨_, t, skipped, there⟩ := eq_done_of_outcome? (skips.skip here)
  have fits := skip_fits here.toFits budget budget
  rw [skipped] at fits
  rw [run, step, outcome?_orReturnTo, skipped, andThen_done]
  exact bare α builder t ⟨fits, there⟩

theorem whole_fault (skips : Attains env ignore false .skips p (.fault broken) budget budget) :
    Attains env ignore false (.whole e) p (.fault broken) (budget + 1) rounds := by
  intro α builder s here
  obtain ⟨t, skipped⟩ := eq_fault_of_outcome? (skips.skip here)
  rw [run, step, outcome?_orReturnTo, skipped]
  rfl

/-! ## Skipping -/

theorem skipOne_run_finds (budget : Nat) (es : List Expr) (here : s.At env ignore true p) :
    (skipOne (run budget .recognizer env) es s).FindsOne env ignore es s :=
  skipOne_finds (fun _ _ fits => run_finds budget .recognizer _ fits)
    (fun f t => run_settles budget rightFor_recognizer env f t) es here.toFits

/-- An attempt at skipping that read something ends behind it. -/
theorem skipped {es : List Expr}
    (attains : Attains env ignore false (.skipsOne es) p (.upTo q) budget rounds)
    (here : s.At env ignore true p) :
    ∃ t, skipOne (run budget .recognizer env) es s = .done true t ∧ t.At env ignore true q := by
  obtain ⟨t, ran, there⟩ := eq_true_of_skipOutcome? (attains s here)
  have finds := skipOne_run_finds budget es here
  rw [ran] at finds
  exact ⟨t, ran, finds.1, there⟩

/-- An attempt at skipping that read nothing ends where it began. -/
theorem skipped_nothing {es : List Expr}
    (attains : Attains env ignore false (.skipsOne es) p .mismatch budget rounds)
    (here : s.At env ignore true p) :
    ∃ t, skipOne (run budget .recognizer env) es s = .done false t ∧
      t.cursor.position = p := by
  obtain ⟨t, ran⟩ := eq_false_of_skipOutcome? (attains s here)
  have finds := skipOne_run_finds budget es here
  rw [ran] at finds
  exact ⟨t, ran, (finds.2.2 rfl).trans here.position_eq⟩

theorem skips_more (one : Attains env ignore false (.skipsOne ignore) p (.upTo q) budget rounds)
    (more : Attains env ignore false .skips q o budget rounds) :
    Attains env ignore false .skips p o budget (rounds + 1) := by
  intro s here
  obtain ⟨t, ran, there⟩ := one.skipped here
  rw [skipAll, ran, andThen_done, if_pos rfl]
  exact more t there

theorem skips_end (one : Attains env ignore false (.skipsOne ignore) p .mismatch budget rounds) :
    Attains env ignore false .skips p (.upTo p) budget (rounds + 1) := by
  intro s here
  obtain ⟨t, ran, still⟩ := one.skipped_nothing here
  rw [skipAll, ran, andThen_done, if_neg Bool.false_ne_true, outcome?, still]

theorem skips_fault
    (one : Attains env ignore false (.skipsOne ignore) p (.fault broken) budget rounds) :
    Attains env ignore false .skips p (.fault broken) budget (rounds + 1) := by
  intro s here
  obtain ⟨t, ran⟩ := eq_fault_of_skipOutcome? (one s here)
  rw [skipAll, ran]
  rfl

theorem skipsOne_nil : Attains env ignore false (.skipsOne []) p .mismatch budget rounds := by
  intro s here
  rfl

theorem skipsOne_here (attains : Attains env ignore true (.whole e) p (.upTo q) budget rounds)
    (further : p < q) :
    Attains env ignore false (.skipsOne (e :: rest)) p (.upTo q) budget rounds := by
  intro s here
  obtain ⟨stop, t, ran, there⟩ := attains.done .recognizer here
  have settles := run_settles budget rightFor_recognizer env e s
  rw [ran] at settles
  obtain rfl : stop = t.cursor := settles.2
  rw [skipOne, ran]
  dsimp only
  rw [here.position_eq, there.position_eq, if_pos further, skipOutcome?, State.note_cursor,
    there.position_eq]

theorem skipsOne_empty (attains : Attains env ignore true (.whole e) p (.upTo p) budget rounds)
    (others : Attains env ignore false (.skipsOne rest) p o budget rounds) :
    Attains env ignore false (.skipsOne (e :: rest)) p o budget rounds := by
  intro s here
  obtain ⟨stop, t, ran, there⟩ := attains.done .recognizer here
  have settles := run_settles budget rightFor_recognizer env e s
  rw [ran] at settles
  obtain rfl : stop = t.cursor := settles.2
  rw [skipOne, ran]
  dsimp only
  rw [here.position_eq, there.position_eq, if_neg (Nat.lt_irrefl p)]
  exact others t there

theorem skipsOne_next (attains : Attains env ignore true (.whole e) p .mismatch budget rounds)
    (others : Attains env ignore false (.skipsOne rest) p o budget rounds) :
    Attains env ignore false (.skipsOne (e :: rest)) p o budget rounds := by
  intro s here
  obtain ⟨trail, t, ran, there⟩ := attains.mismatched .recognizer here
  rw [skipOne, ran]
  exact others t there

theorem skipsOne_fault
    (attains : Attains env ignore true (.whole e) p (.fault broken) budget rounds) :
    Attains env ignore false (.skipsOne (e :: rest)) p (.fault broken) budget rounds := by
  intro s here
  obtain ⟨t, ran⟩ := attains.faulted .recognizer here
  rw [skipOne, ran]
  rfl

/-! ## Primitives -/

theorem primitive (primitive : e.isPrimitive = true) (bounded : e.boundsFault? = none)
    (extent : Outcome.ofExtent? p (e.extent? (env.source.ahead p)) = o) :
    Attains env ignore v (.bare e) p o budget rounds := by
  intro α builder s here
  rw [outcome?_primitive here.marks builder rounds _ _ primitive bounded, here.position_eq, extent]

theorem illBounded {why : Expr.BoundsFault} (bounds : e.boundsFault? = some why) :
    Attains env ignore v (.bare e) p (.fault (.bounds e why)) budget rounds := by
  intro α builder s here
  have checked : e.checkBounds = .error (.bounds e why) := by rw [Expr.checkBounds, bounds]
  unfold Expr.boundsFault? at bounds
  split at bounds
  · rw [dispatch, Run.checkBounds, checked]
    rfl
  · rw [dispatch, Run.checkBounds, checked]
    rfl
  · cases bounds

/-! ## Sequences and choices -/

theorem items_nil : Attains env ignore v (.items []) p (.upTo p) budget rounds := by
  intro α builder pattern start values s here
  rw [Run.sequence, outcome?, here.position_eq]

theorem items_cons (head : Attains env ignore v (.whole e) p (.upTo q) budget rounds)
    (tail : Attains env ignore v (.items rest) q o budget rounds) :
    Attains env ignore v (.items (e :: rest)) p o budget rounds := by
  intro α builder pattern start values s here
  obtain ⟨a, t, ran, there⟩ := head.done builder here
  rw [Run.sequence, ran]
  exact tail α builder pattern start (a :: values) t there

theorem items_mismatch (head : Attains env ignore v (.whole e) p .mismatch budget rounds) :
    Attains env ignore v (.items (e :: rest)) p .mismatch budget rounds := by
  intro α builder pattern start values s here
  obtain ⟨trail, t, ran, _⟩ := head.mismatched builder here
  rw [Run.sequence, ran]
  rfl

theorem items_fault (head : Attains env ignore v (.whole e) p (.fault broken) budget rounds) :
    Attains env ignore v (.items (e :: rest)) p (.fault broken) budget rounds := by
  intro α builder pattern start values s here
  obtain ⟨t, ran⟩ := head.faulted builder here
  rw [Run.sequence, ran]
  rfl

theorem seq (items : Attains env ignore v (.items rest) p o budget rounds) :
    Attains env ignore v (.bare (.seq rest)) p o budget rounds := by
  intro α builder s here
  rw [dispatch, outcome?_close]
  exact items α builder _ s.cursor [] s here

theorem alternatives_nil : Attains env ignore v (.alternatives []) p .mismatch budget rounds := by
  intro α builder pattern start last s here
  cases last with
  | none => rfl
  | some trail => rfl

theorem alternatives_here (head : Attains env ignore v (.whole e) p (.upTo q) budget rounds) :
    Attains env ignore v (.alternatives (e :: rest)) p (.upTo q) budget rounds := by
  intro α builder pattern start last s here
  obtain ⟨a, t, ran, there⟩ := head.done builder here
  rw [firstOf, ran, ← there.position_eq]
  rfl

theorem alternatives_next (head : Attains env ignore v (.whole e) p .mismatch budget rounds)
    (tail : Attains env ignore v (.alternatives rest) p o budget rounds) :
    Attains env ignore v (.alternatives (e :: rest)) p o budget rounds := by
  intro α builder pattern start last s here
  obtain ⟨trail, t, ran, there⟩ := head.mismatched builder here
  rw [firstOf, ran]
  exact tail α builder pattern start (some trail) t there

theorem alternatives_fault
    (head : Attains env ignore v (.whole e) p (.fault broken) budget rounds) :
    Attains env ignore v (.alternatives (e :: rest)) p (.fault broken) budget rounds := by
  intro α builder pattern start last s here
  obtain ⟨t, ran⟩ := head.faulted builder here
  rw [firstOf, ran]
  rfl

theorem choice (alternatives : Attains env ignore v (.alternatives rest) p o budget rounds) :
    Attains env ignore v (.bare (.choice rest)) p o budget rounds := by
  intro α builder s here
  rw [dispatch]
  exact alternatives α builder _ s.cursor none s here

/-! ## Options and repetitions -/

theorem optional_here (inner : Attains env ignore v (.whole body) p (.upTo q) budget rounds) :
    Attains env ignore v (.bare (.optional body)) p (.upTo q) budget rounds := by
  intro α builder s here
  obtain ⟨a, t, ran, there⟩ := inner.done builder here
  rw [dispatch, Run.optional, ran, ← there.position_eq]
  rfl

theorem optional_none (inner : Attains env ignore v (.whole body) p .mismatch budget rounds) :
    Attains env ignore v (.bare (.optional body)) p (.upTo p) budget rounds := by
  intro α builder s here
  obtain ⟨trail, t, ran, there⟩ := inner.mismatched builder here
  rw [dispatch, Run.optional, ran, ← there.position_eq]
  rfl

theorem optional_fault
    (inner : Attains env ignore v (.whole body) p (.fault broken) budget rounds) :
    Attains env ignore v (.bare (.optional body)) p (.fault broken) budget rounds := by
  intro α builder s here
  obtain ⟨t, ran⟩ := inner.faulted builder here
  rw [dispatch, Run.optional, ran]
  rfl

section Repeats

variable {min max count : Nat}

theorem rep (bounded : (Expr.rep min max body).boundsFault? = none)
    (repeats : Attains env ignore v (.repeats min max body 0) p o budget rounds) :
    Attains env ignore v (.bare (.rep min max body)) p o budget rounds := by
  intro α builder s here
  rw [dispatch, Run.checkBounds, Expr.checkBounds, bounded]
  dsimp only
  rw [andThen_done, outcome?_close]
  exact repeats α builder _ s.cursor [] s here

theorem repeats_full (full : 0 < max ∧ max ≤ count) :
    Attains env ignore v (.repeats min max body count) p (.upTo p) budget (rounds + 1) := by
  intro α builder pattern start values s here
  rw [repetition, if_pos full, outcome?, here.position_eq]

variable (notFull : ¬(0 < max ∧ max ≤ count))
include notFull

theorem repeats_still (inner : Attains env ignore v (.whole body) p (.upTo p) budget rounds) :
    Attains env ignore v (.repeats min max body count) p (.upTo p) budget (rounds + 1) := by
  intro α builder pattern start values s here
  obtain ⟨a, t, ran, there⟩ := inner.done builder here
  rw [repetition, if_neg notFull, ran]
  dsimp only
  rw [if_pos (there.position_eq.trans here.position_eq.symm), outcome?, there.position_eq]

theorem repeats_more (inner : Attains env ignore v (.whole body) p (.upTo q) budget rounds)
    (further : q ≠ p)
    (more : Attains env ignore v (.repeats min max body (count + 1)) q o budget rounds) :
    Attains env ignore v (.repeats min max body count) p o budget (rounds + 1) := by
  intro α builder pattern start values s here
  obtain ⟨a, t, ran, there⟩ := inner.done builder here
  rw [repetition, if_neg notFull, ran]
  dsimp only
  rw [here.position_eq, there.position_eq, if_neg further]
  exact more α builder pattern start (a :: values) t there

theorem repeats_enough (inner : Attains env ignore v (.whole body) p .mismatch budget rounds)
    (enough : min ≤ count) :
    Attains env ignore v (.repeats min max body count) p (.upTo p) budget (rounds + 1) := by
  intro α builder pattern start values s here
  obtain ⟨trail, t, ran, there⟩ := inner.mismatched builder here
  rw [repetition, if_neg notFull, ran]
  dsimp only
  rw [if_pos ⟨rfl, enough⟩, outcome?, there.position_eq]

theorem repeats_short (inner : Attains env ignore v (.whole body) p .mismatch budget rounds)
    (short : count < min) :
    Attains env ignore v (.repeats min max body count) p .mismatch budget (rounds + 1) := by
  intro α builder pattern start values s here
  obtain ⟨trail, t, ran, there⟩ := inner.mismatched builder here
  rw [repetition, if_neg notFull, ran]
  dsimp only
  rw [if_neg fun both => Nat.not_le_of_lt short both.2]
  rfl

theorem repeats_fault
    (inner : Attains env ignore v (.whole body) p (.fault broken) budget rounds) :
    Attains env ignore v (.repeats min max body count) p (.fault broken) budget (rounds + 1) := by
  intro α builder pattern start values s here
  obtain ⟨t, ran⟩ := inner.faulted builder here
  rw [repetition, if_neg notFull, ran]
  dsimp only
  rw [if_neg fun both => Bool.false_ne_true both.1]
  rfl

end Repeats

/-! ## Looking ahead -/

theorem not_here (inner : Attains env ignore v (.whole body) p (.upTo q) budget rounds) :
    Attains env ignore v (.bare (.not body)) p .mismatch budget rounds := by
  intro α builder s here
  obtain ⟨stop, t, ran, _⟩ := inner.done .recognizer here
  rw [dispatch, outcome?_map, notAhead, ran]
  rfl

theorem not_none (inner : Attains env ignore v (.whole body) p .mismatch budget rounds) :
    Attains env ignore v (.bare (.not body)) p (.upTo p) budget rounds := by
  intro α builder s here
  obtain ⟨trail, t, ran, _⟩ := inner.mismatched .recognizer here
  rw [dispatch, outcome?_map, notAhead, ran, ← here.position_eq]
  rfl

theorem not_fault (inner : Attains env ignore v (.whole body) p (.fault broken) budget rounds) :
    Attains env ignore v (.bare (.not body)) p (.fault broken) budget rounds := by
  intro α builder s here
  obtain ⟨t, ran⟩ := inner.faulted .recognizer here
  rw [dispatch, outcome?_map, notAhead, ran]
  rfl

theorem peek_here (inner : Attains env ignore v (.whole body) p (.upTo q) budget rounds) :
    Attains env ignore v (.bare (.peek body)) p (.upTo p) budget rounds := by
  intro α builder s here
  obtain ⟨stop, t, ran, _⟩ := inner.done .recognizer here
  rw [dispatch, outcome?_map, ahead, ran, ← here.position_eq]
  rfl

theorem peek_none (inner : Attains env ignore v (.whole body) p .mismatch budget rounds) :
    Attains env ignore v (.bare (.peek body)) p .mismatch budget rounds := by
  intro α builder s here
  obtain ⟨trail, t, ran, _⟩ := inner.mismatched .recognizer here
  rw [dispatch, outcome?_map, ahead, ran]
  rfl

theorem peek_fault (inner : Attains env ignore v (.whole body) p (.fault broken) budget rounds) :
    Attains env ignore v (.bare (.peek body)) p (.fault broken) budget rounds := by
  intro α builder s here
  obtain ⟨t, ran⟩ := inner.faulted .recognizer here
  rw [dispatch, outcome?_map, ahead, ran]
  rfl

theorem anyBut_here (inner : Attains env ignore v (.whole body) p (.upTo q) budget rounds) :
    Attains env ignore v (.bare (.anyBut body)) p .mismatch budget rounds := by
  intro α builder s here
  obtain ⟨stop, t, ran, _⟩ := inner.done .recognizer here
  rw [dispatch, outcome?_map, oneBut, ran]
  rfl

theorem anyBut_none (inner : Attains env ignore v (.whole body) p .mismatch budget rounds)
    (any : Attains env ignore v (.bare .any) p o budget rounds) :
    Attains env ignore v (.bare (.anyBut body)) p o budget rounds := by
  intro α builder s here
  obtain ⟨trail, t, ran, there⟩ := inner.mismatched .recognizer here
  have came := any α builder t there
  rw [dispatch, outcome?_map, outcome?_oneOf_any there.marks] at came
  rw [dispatch, outcome?_map, oneBut, ran]
  dsimp only
  rw [outcome?_oneOf_any there.marks, came]

theorem anyBut_fault
    (inner : Attains env ignore v (.whole body) p (.fault broken) budget rounds) :
    Attains env ignore v (.bare (.anyBut body)) p (.fault broken) budget rounds := by
  intro α builder s here
  obtain ⟨t, ran⟩ := inner.faulted .recognizer here
  rw [dispatch, outcome?_map, oneBut, ran]
  rfl

/-! ## Captures, names and switches -/

theorem capture {name : String}
    (inner : Attains env ignore v (.whole body) p o budget rounds) :
    Attains env ignore v (.bare (.capture name body)) p o budget rounds := by
  intro α builder s here
  rw [dispatch]
  exact (outcome?_andThen_stay _ _).trans (inner α builder s here)

theorem ref {name : String} (found : env.definitions.find? name = some e)
    (inner : Attains env ignore v (.whole e) p o budget rounds) :
    Attains env ignore v (.bare (.ref name)) p o budget rounds := by
  intro α builder s here
  rw [dispatch, resolve, found]
  exact inner α builder _ ⟨here.toFits.kept here.marks rfl, here.position_eq⟩

theorem ref_undefined {name : String} (missing : env.definitions.find? name = none) :
    Attains env ignore v (.bare (.ref name)) p (.fault (.undefined name)) budget rounds := by
  intro α builder s here
  rw [dispatch, resolve, missing]
  rfl

theorem verbatim (inner : Attains env ignore true (.whole body) p o budget rounds) :
    Attains env ignore v (.bare (.verbatim body)) p o budget rounds := by
  intro α builder s here
  have off : (s.skipping.toggle true).verbatim = true := rfl
  rw [dispatch, unskipped]
  exact (outcome?_afterwards (fun t => t.skipping.toggle s.skipping.verbatim) _).trans
    (inner α builder _ (here.off off))

end Attains

/-! ## Enough budget -/

/-- Something holds whenever budget and rounds are large enough. -/
def Enough (holds : Nat → Nat → Prop) : Prop :=
  ∃ least, ∀ budget rounds, least ≤ budget → least ≤ rounds → holds budget rounds

namespace Enough

variable {holds holds' : Nat → Nat → Prop}

theorem always (all : ∀ budget rounds, holds budget rounds) : Enough holds :=
  ⟨0, fun budget rounds _ _ => all budget rounds⟩

theorem imp (enough : Enough holds)
    (implies : ∀ budget rounds, holds budget rounds → holds' budget rounds) : Enough holds' := by
  obtain ⟨least, fromLeast⟩ := enough
  refine ⟨least, ?_⟩
  intro budget rounds budgetEnough roundsEnough
  exact implies budget rounds (fromLeast budget rounds budgetEnough roundsEnough)

theorem and (enough : Enough holds) (enough' : Enough holds') :
    Enough fun budget rounds => holds budget rounds ∧ holds' budget rounds := by
  obtain ⟨least, fromLeast⟩ := enough
  obtain ⟨least', fromLeast'⟩ := enough'
  refine ⟨max least least', ?_⟩
  intro budget rounds budgetEnough roundsEnough
  constructor
  · exact fromLeast budget rounds (by omega) (by omega)
  · exact fromLeast' budget rounds (by omega) (by omega)

/-- What takes one more round. -/
theorem round (enough : Enough holds)
    (implies : ∀ budget rounds, holds budget rounds → holds' budget (rounds + 1)) :
    Enough holds' := by
  obtain ⟨least, fromLeast⟩ := enough
  refine ⟨least + 1, ?_⟩
  intro budget rounds budgetEnough roundsEnough
  obtain ⟨rounds, rfl⟩ : ∃ fewer, rounds = fewer + 1 := ⟨rounds - 1, by omega⟩
  exact implies budget rounds (fromLeast budget rounds (by omega) (by omega))

/-- What takes a single round. -/
theorem oneRound (all : ∀ budget rounds, holds budget (rounds + 1)) : Enough holds :=
  (always (fun _ _ => trivial) : Enough fun _ _ => True).round fun budget rounds _ =>
    all budget rounds

/-- What takes one more level of nesting, below which the budget bounds the rounds, too. -/
theorem level (enough : Enough holds)
    (implies : ∀ budget rounds, holds budget budget → holds' (budget + 1) rounds) :
    Enough holds' := by
  obtain ⟨least, fromLeast⟩ := enough
  refine ⟨least + 1, ?_⟩
  intro budget rounds budgetEnough roundsEnough
  obtain ⟨budget, rfl⟩ : ∃ less, budget = less + 1 := ⟨budget - 1, by omega⟩
  exact implies budget rounds (fromLeast budget budget (by omega) (by omega))

end Enough

/-- With enough budget every run comes out as there is to read. -/
theorem Reads.attained {env : Env} {ignore : List Expr} {v : Bool} {task : Task} {p : Nat}
    {o : Outcome} (reads : Reads env ignore v task p o) :
    Enough (Attains env ignore v task p o) := by
  induction reads with
  | wholeVerbatim _ ih => exact ih.level fun _ _ => Attains.whole_verbatim
  | whole _ _ ihSkips ih =>
    exact (ihSkips.and ih).level fun _ _ both => both.1.whole both.2
  | wholeFault _ ih => exact ih.level fun _ _ => Attains.whole_fault
  | skipsMore _ _ ihOne ih => exact (ihOne.and ih).round fun _ _ both => both.1.skips_more both.2
  | skipsEnd _ ih => exact ih.round fun _ _ => Attains.skips_end
  | skipsFault _ ih => exact ih.round fun _ _ => Attains.skips_fault
  | skipsOneNil => exact .always fun _ _ => Attains.skipsOne_nil
  | skipsOneHere _ less ih => exact ih.imp fun _ _ inner => inner.skipsOne_here less
  | skipsOneEmpty _ _ ihHead ih =>
    exact (ihHead.and ih).imp fun _ _ both => both.1.skipsOne_empty both.2
  | skipsOneNext _ _ ihHead ih =>
    exact (ihHead.and ih).imp fun _ _ both => both.1.skipsOne_next both.2
  | skipsOneFault _ ih => exact ih.imp fun _ _ => Attains.skipsOne_fault
  | spelled primitive bounded extent =>
    exact .always fun _ _ => Attains.primitive primitive bounded (by rw [extent]; rfl)
  | unspelled primitive bounded extent =>
    exact .always fun _ _ => Attains.primitive primitive bounded (by rw [extent]; rfl)
  | illBounded bounds => exact .always fun _ _ => Attains.illBounded bounds
  | seq _ ih => exact ih.imp fun _ _ => Attains.seq
  | itemsNil => exact .always fun _ _ => Attains.items_nil
  | itemsCons _ _ ihHead ih =>
    exact (ihHead.and ih).imp fun _ _ both => both.1.items_cons both.2
  | itemsMismatch _ ih => exact ih.imp fun _ _ => Attains.items_mismatch
  | itemsFault _ ih => exact ih.imp fun _ _ => Attains.items_fault
  | choice _ ih => exact ih.imp fun _ _ => Attains.choice
  | alternativesNil => exact .always fun _ _ => Attains.alternatives_nil
  | alternativesHere _ ih => exact ih.imp fun _ _ => Attains.alternatives_here
  | alternativesNext _ _ ihHead ih =>
    exact (ihHead.and ih).imp fun _ _ both => both.1.alternatives_next both.2
  | alternativesFault _ ih => exact ih.imp fun _ _ => Attains.alternatives_fault
  | optionalHere _ ih => exact ih.imp fun _ _ => Attains.optional_here
  | optionalNone _ ih => exact ih.imp fun _ _ => Attains.optional_none
  | optionalFault _ ih => exact ih.imp fun _ _ => Attains.optional_fault
  | rep bounded _ ih => exact ih.imp fun _ _ => Attains.rep bounded
  | repeatsFull full => exact .oneRound fun _ _ => Attains.repeats_full full
  | repeatsStill notFull _ ih => exact ih.round fun _ _ => Attains.repeats_still notFull
  | repeatsMore notFull _ further _ ihBody ih =>
    exact (ihBody.and ih).round fun _ _ both =>
      Attains.repeats_more notFull both.1 further both.2
  | repeatsEnough notFull _ enough ih =>
    exact ih.round fun _ _ inner => Attains.repeats_enough notFull inner enough
  | repeatsShort notFull _ short ih =>
    exact ih.round fun _ _ inner => Attains.repeats_short notFull inner short
  | repeatsFault notFull _ ih => exact ih.round fun _ _ => Attains.repeats_fault notFull
  | notHere _ ih => exact ih.imp fun _ _ => Attains.not_here
  | notNone _ ih => exact ih.imp fun _ _ => Attains.not_none
  | notFault _ ih => exact ih.imp fun _ _ => Attains.not_fault
  | peekHere _ ih => exact ih.imp fun _ _ => Attains.peek_here
  | peekNone _ ih => exact ih.imp fun _ _ => Attains.peek_none
  | peekFault _ ih => exact ih.imp fun _ _ => Attains.peek_fault
  | anyButHere _ ih => exact ih.imp fun _ _ => Attains.anyBut_here
  | anyButNone _ _ ihBody ih =>
    exact (ihBody.and ih).imp fun _ _ both => both.1.anyBut_none both.2
  | anyButFault _ ih => exact ih.imp fun _ _ => Attains.anyBut_fault
  | capture _ ih => exact ih.imp fun _ _ => Attains.capture
  | ref found _ ih => exact ih.imp fun _ _ => Attains.ref found
  | refUndefined missing => exact .always fun _ _ => Attains.ref_undefined missing
  | verbatim _ ih => exact ih.imp fun _ _ => Attains.verbatim

end PegEngine
