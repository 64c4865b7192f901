import PegEngine.Proofs.Adequacy
import PegEngine.Proofs.Verbatim

/-! Expressions that come to the same. Their runs concur: both succeed, with values that have to do with each
other and at the same cursor, or both fail, for reasons that have to do with each other, or neither ends.
What they note on the way is not compared, so skipping once more, which leads nowhere, makes no difference. -/
namespace PegEngine

/-- The states differ in nothing but what has been noted. -/
structure State.Beside (s s' : State) : Prop where
  cursor : s.cursor = s'.cursor
  skipping : s.skipping = s'.skipping

namespace State.Beside

variable {s t u : State}

theorem refl (s : State) : s.Beside s :=
  ⟨rfl, rfl⟩

theorem symm (beside : s.Beside t) : t.Beside s :=
  ⟨beside.cursor.symm, beside.skipping.symm⟩

theorem trans (first : s.Beside t) (second : t.Beside u) : s.Beside u :=
  ⟨first.cursor.trans second.cursor, first.skipping.trans second.skipping⟩

theorem moveTo (beside : s.Beside t) (c : Cursor) : (s.moveTo c).Beside (t.moveTo c) :=
  ⟨rfl, beside.skipping⟩

theorem withSkipping (beside : s.Beside t) (k : Skipping) :
    (s.withSkipping k).Beside (t.withSkipping k) :=
  ⟨beside.cursor, rfl⟩

end State.Beside

namespace Failure

/-- Both are mismatches, or both are the same fault. -/
def SameKind (failure failure' : Failure) : Prop :=
  failure.outcome = failure'.outcome

end Failure

namespace Run

variable {α β γ δ : Type}

/-- Both runs succeed, with values in the one relation, or both fail, with failures in the other, and end in
states that differ only in what has been noted; or neither ends. -/
inductive Concur (value : α → β → Prop) (failure : Failure → Failure → Prop) :
    Run α → Run β → Prop where
  | done {a b s s'} : value a b → s.Beside s' → Concur value failure (.done a s) (.done b s')
  | failed {f f' s s'} : failure f f' → s.Beside s' →
      Concur value failure (.failed f s) (.failed f' s')
  | exhausted : Concur value failure .exhausted .exhausted

namespace Concur

variable {value value' : α → β → Prop} {failure failure' : Failure → Failure → Prop} {r : Run α}
  {r' : Run β}

theorem refl (r : Run α) : r.Concur Eq Eq r := by
  cases r with
  | done a s => exact .done rfl (.refl s)
  | failed f s => exact .failed rfl (.refl s)
  | exhausted => exact .exhausted

theorem symm {r' : Run α} (concur : r.Concur Eq Eq r') : r'.Concur Eq Eq r := by
  cases concur with
  | done same beside => exact .done same.symm beside.symm
  | failed same beside => exact .failed same.symm beside.symm
  | exhausted => exact .exhausted

theorem imp (concur : r.Concur value failure r') (values : ∀ a b, value a b → value' a b)
    (failures : ∀ f f', failure f f' → failure' f f') : r.Concur value' failure' r' := by
  cases concur with
  | done valued beside => exact .done (values _ _ valued) beside
  | failed failed beside => exact .failed (failures _ _ failed) beside
  | exhausted => exact .exhausted

theorem trans {value₁ : β → γ → Prop} {value₂ : α → γ → Prop}
    {failure₁ failure₂ : Failure → Failure → Prop} {r₁ : Run γ}
    (first : r.Concur value failure r') (second : r'.Concur value₁ failure₁ r₁)
    (values : ∀ a b c, value a b → value₁ b c → value₂ a c)
    (failures : ∀ f g h, failure f g → failure₁ g h → failure₂ f h) :
    r.Concur value₂ failure₂ r₁ := by
  cases first with
  | done valued beside =>
    cases second with
    | done valued' beside' => exact .done (values _ _ _ valued valued') (beside.trans beside')
  | failed failed beside =>
    cases second with
    | failed failed' beside' => exact .failed (failures _ _ _ failed failed') (beside.trans beside')
  | exhausted =>
    cases second
    exact .exhausted

theorem eq_done {b : β} {s' : State} (concur : r.Concur value failure (.done b s')) :
    ∃ a s, r = .done a s ∧ value a b ∧ s.Beside s' := by
  cases concur with
  | done valued beside => exact ⟨_, _, rfl, valued, beside⟩

theorem eq_failed {f' : Failure} {s' : State} (concur : r.Concur value failure (.failed f' s')) :
    ∃ f s, r = .failed f s ∧ failure f f' ∧ s.Beside s' := by
  cases concur with
  | failed failed beside => exact ⟨_, _, rfl, failed, beside⟩

theorem eq_exhausted (concur : r.Concur value failure .exhausted) : r = .exhausted := by
  cases concur
  rfl

theorem sameKind (concur : r.Concur value Eq r') : r.Concur value Failure.SameKind r' :=
  concur.imp (fun _ _ => id) fun _ _ => congrArg Failure.outcome

theorem andThen {rest : α → State → Run γ} {rest' : β → State → Run δ} {next : γ → δ → Prop}
    (concur : r.Concur value failure r')
    (rests : ∀ a b s s', r = .done a s → value a b → s.Beside s' →
      (rest a s).Concur next failure (rest' b s')) :
    (r.andThen rest).Concur next failure (r'.andThen rest') := by
  cases concur with
  | done valued beside => exact rests _ _ _ _ rfl valued beside
  | failed failed beside => exact .failed failed beside
  | exhausted => exact .exhausted

theorem orReturnTo (concur : r.Concur value failure r') (c : Cursor) :
    (r.orReturnTo c).Concur value failure (r'.orReturnTo c) := by
  cases concur with
  | done valued beside => exact .done valued beside
  | failed failed beside => exact .failed failed (beside.moveTo c)
  | exhausted => exact .exhausted

theorem afterwards (concur : r.Concur value failure r') {mend mend' : State → State}
    (mended : ∀ s s', s.Beside s' → (mend s).Beside (mend' s')) :
    (r.afterwards mend).Concur value failure (r'.afterwards mend') := by
  cases concur with
  | done valued beside => exact .done valued (mended _ _ beside)
  | failed failed beside => exact .failed failed (mended _ _ beside)
  | exhausted => exact .exhausted

end Concur

theorem orReturnTo_eq_done {r : Run α} {c : Cursor} {a : α} {t : State}
    (ended : r.orReturnTo c = done a t) : r = done a t := by
  cases r with
  | done b u => exact ended
  | failed failure u => cases ended
  | exhausted => cases ended

/-! ## What is done instead -/

/-- The run, or what is done instead if it mismatches. -/
def orElse (r : Run α) (next : Trail → State → Run α) : Run α :=
  match r with
  | failed (.mismatch trail) t => next trail t
  | other => other

section OrElse

variable {r : Run α} {r' : Run β} {next : Trail → State → Run α} {next' : Trail → State → Run β}

theorem orElse_assoc {last : Trail → State → Run α} :
    (r.orElse next).orElse last = r.orElse fun trail t => (next trail t).orElse last := by
  cases r with
  | done a t => rfl
  | failed failure t => cases failure <;> rfl
  | exhausted => rfl

theorem orElse_eq_done {a : α} {t : State} (ended : r.orElse next = done a t) :
    r = done a t ∨ ∃ trail u, r = failed (.mismatch trail) u ∧ next trail u = done a t := by
  cases r with
  | done b u => exact Or.inl ended
  | failed failure u =>
    cases failure with
    | mismatch trail => exact Or.inr ⟨trail, u, rfl, ended⟩
    | fault broken => cases ended
  | exhausted => cases ended

theorem optional_eq_orElse (body fallback : State → Run α) (s : State) :
    optional body fallback s = (body s).orElse fun _ => fallback := by
  rw [optional]
  cases body s with
  | done a t => rfl
  | failed failure t => cases failure <;> rfl
  | exhausted => rfl

theorem firstOf_cons (alternative : Expr → State → Run α) (pattern : Expr) (start : Cursor) (e : Expr)
    (rest : List Expr) (last : Option Trail) (s : State) :
    firstOf alternative pattern start (e :: rest) last s =
      (alternative e s).orElse fun trail t => firstOf alternative pattern start rest (some trail) t := by
  rw [firstOf]
  cases alternative e s with
  | done a t => rfl
  | failed failure t => cases failure <;> rfl
  | exhausted => rfl

theorem Concur.orElse {value : α → β → Prop} (concur : r.Concur value Failure.SameKind r')
    (nexts : ∀ trail trail' t t', r = Run.failed (.mismatch trail) t → t.Beside t' →
      (next trail t).Concur value Failure.SameKind (next' trail' t')) :
    (r.orElse next).Concur value Failure.SameKind (r'.orElse next') := by
  cases concur with
  | done valued beside => exact .done valued beside
  | @failed failure failure' _ _ same beside =>
    cases failure with
    | mismatch trail =>
      cases failure' with
      | mismatch trail' => exact nexts trail trail' _ _ rfl beside
      | fault broken => cases same
    | fault broken =>
      cases failure' with
      | mismatch trail => cases same
      | fault broken' => exact .failed same beside
  | exhausted => exact .exhausted

end OrElse

end Run

open Run Likeness

/-! ## What was noted before -/

namespace Likeness

variable {α : Type} {env : Env}

/-- An engine is like itself whatever has been noted. -/
def unlogged (env : Env) : Likeness env env :=
  (same env).relog (fun _ _ => True) (fun _ _ _ => trivial) (fun _ _ _ => trivial)
    fun _ _ => trivial

theorem reversible_unlogged : (unlogged env).Reversible :=
  ⟨rfl, fun _ => id⟩

theorem states_unlogged {s s' : State} (beside : s.Beside s') : (unlogged env).States s s' :=
  ⟨beside.cursor, beside.skipping, trivial⟩

theorem States.beside {s s' : State} (states : (unlogged env).States s s') : s.Beside s' :=
  ⟨states.cursor, states.skipping⟩

theorem Agrees.concur {r r' : Run α} (agrees : (unlogged env).Agrees Eq r r') :
    r.Concur Eq Eq r' := by
  cases agrees with
  | done valued states => exact .done valued states.beside
  | failed failures states => exact .failed (failures.eq_of id id) states.beside
  | exhausted => exact .exhausted

end Likeness

/-- A run that fails leaves everything as it was but for what it noted. -/
theorem beside_of_failed {α : Type} {budget : Nat} (builder : Builder α) {env : Env} {e : Expr}
    {s t : State} {failure : Failure} (ran : run budget builder env e s = .failed failure t) :
    s.Beside t := by
  have settles := run_settles budget (rightFor_any builder) env e s
  rw [ran] at settles
  exact ⟨settles.2.symm, settles.1.symm⟩

section Beside

variable {α : Type} (budget : Nat) (builder : Builder α) (env : Env) (e : Expr) {s s' : State}
  (beside : s.Beside s')
include beside

theorem run_beside : (run budget builder env e s).Concur Eq Eq (run budget builder env e s') :=
  (run_agrees reversible_unlogged (builds_of_eq id builder) budget trivial
    (states_unlogged beside)).concur

theorem skip_beside (rounds : Nat) :
    (skip rounds (run budget .recognizer env) s).Concur Eq Eq
      (skip rounds (run budget .recognizer env) s') :=
  (skip_agrees reversible_unlogged budget (states_unlogged beside) rounds).concur

theorem dispatch_beside (rounds : Nat) :
    (dispatch builder rounds (run budget .recognizer env) (run budget builder env) env e s).Concur
      Eq Eq
      (dispatch builder rounds (run budget .recognizer env) (run budget builder env) env e s') := by
  have settles (f : Expr) (t : State) := run_settles budget (rightFor_any builder) env f t
  have states : (unlogged env).States s s' := states_unlogged beside
  have forth := dispatch_follows (builds_of_eq id builder)
    (fun _ covered _ _ here => run_follows builds_recognizer (Nat.le_refl budget) covered here)
    (fun _ covered _ _ here =>
      run_follows (builds_of_eq id builder) (Nat.le_refl budget) covered here)
    settles settles states (Nat.le_refl rounds) (e := e) trivial
  have back := dispatch_follows (builds_any builder builder)
    (fun _ covered _ _ here => run_follows builds_recognizer (Nat.le_refl budget) covered here)
    (fun _ covered _ _ here =>
      run_follows (builds_any builder builder) (Nat.le_refl budget) covered here)
    settles settles (states.flip reversible_unlogged) (Nat.le_refl rounds) (e := e) trivial
  exact (agrees_of_follows reversible_unlogged forth back).concur

end Beside

theorem State.Fits.beside {env : Env} {ignore : List Expr} {v : Bool} {s t : State}
    (fits : s.Fits env ignore v) (beside : s.Beside t) : t.Fits env ignore v :=
  fits.back ⟨beside.skipping.symm, beside.cursor.symm⟩

/-! ## Where nothing is left to skip -/

/-- With this budget skipping from here leads nowhere. -/
def State.Settled (env : Env) (budget : Nat) (s : State) : Prop :=
  ∃ t, Run.skip budget (run budget .recognizer env) s = .done () t ∧ s.Beside t

section Settled

variable {env : Env} {budget : Nat} {s t : State}

/-- Skipping leads to where nothing is left to skip. -/
theorem settled_of_skip (skipped : skip budget (run budget .recognizer env) s = .done () t) :
    t.Settled env budget := by
  obtain ⟨u, again, cursor, skipping⟩ := skip_skipped skipped
  exact ⟨u, again, cursor.symm, skipping.symm⟩

theorem State.Settled.beside (settled : s.Settled env budget) (beside : s.Beside t) :
    t.Settled env budget := by
  obtain ⟨u, skipped, stays⟩ := settled
  have concur := (skip_beside budget env beside budget).symm
  rw [skipped] at concur
  obtain ⟨_, v, again, _, near⟩ := concur.eq_done
  exact ⟨v, again, beside.symm.trans (stays.trans near.symm)⟩

end Settled

namespace Steady

variable {α β : Type} {env : Env} {ignore exprs exprs' : List Expr} {v : Bool} {budget : Nat}
  (steady : Steady env ignore exprs budget)
include steady

/-- A budget that is steady for some expressions and for others is steady for all of them. -/
theorem append (steady' : Steady env ignore exprs' budget) :
    Steady env ignore (exprs ++ exprs') budget where
  closed :=
    { part := by
        intro e part listed mem
        rw [List.mem_append] at listed ⊢
        exact listed.imp (fun left => steady.closed.part left mem)
          fun right => steady'.closed.part right mem
      definition := fun sought => List.mem_append_left _ (steady.closed.definition sought)
      ignorable := fun e mem => List.mem_append_left _ (steady.closed.ignorable e mem) }
  ample upper := by
    intro v e s listed
    rcases List.mem_append.mp listed with left | right
    · exact steady.ample upper v e s left
    · exact steady'.ample upper v e s right
  rounds := steady.rounds

variable (builder : Builder α) {e : Expr} (listed : e ∈ exprs) {s t : State}
  (fits : s.Fits env ignore v)
include listed fits

/-- Where nothing is left to skip, an expression does what it says. -/
theorem run_settled (settled : s.Settled env budget) :
    (run budget builder env e s).Concur Eq Eq
      (dispatch builder budget (run budget .recognizer env) (run budget builder env) env e s) := by
  obtain ⟨t, skipped, beside⟩ := settled
  have settles := dispatch_settles (rightFor_any builder)
    (fun f u => run_settles budget rightFor_recognizer env f u)
    (fun f u => run_settles budget (rightFor_any builder) env f u) budget env e s
  have concur := dispatch_beside budget builder env e beside.symm budget
  rw [steady.run_eq_step listed fits, step, skipped, andThen_done]
  have returned := concur.orReturnTo s.cursor
  rw [settles.orReturnTo_eq] at returned
  exact returned

/-- Where skipping leads, an expression does what it does here, except that from here it goes back further
if it fails. -/
theorem run_skipped (skipped : skip budget (run budget .recognizer env) s = .done () t) :
    (run budget builder env e s).Concur Eq Eq
      ((run budget builder env e t).orReturnTo s.cursor) := by
  have reached := skip_fits fits budget budget
  rw [skipped] at reached
  have there := steady.run_settled builder listed reached (settled_of_skip skipped)
  rw [steady.run_eq_step listed fits, step, skipped, andThen_done]
  exact (there.orReturnTo s.cursor).symm

/-- Expressions that do the same where nothing is left to skip do so everywhere. -/
theorem run_concur (builder' : Builder β) {f : Expr} (listed' : f ∈ exprs)
    {value : α → β → Prop} {failure : Failure → Failure → Prop}
    (faults : ∀ broken, failure (.fault broken) (.fault broken))
    (there : ∀ t : State, t.Fits env ignore v → t.skipping = s.skipping → t.Settled env budget →
      (dispatch builder budget (run budget .recognizer env) (run budget builder env) env e t).Concur
        value failure
        (dispatch builder' budget (run budget .recognizer env) (run budget builder' env) env f
          t)) :
    (run budget builder env e s).Concur value failure (run budget builder' env f s) := by
  have skips := skip_skips (fun e u => run_settles budget rightFor_recognizer env e u) budget s
  have reached := skip_fits fits budget budget
  have isFault := skip_faults (run budget .recognizer env) budget s
  rw [steady.run_eq_step listed fits, steady.run_eq_step listed' fits, step, step]
  cases skipped : skip budget (run budget .recognizer env) s with
  | done _ t =>
    rw [skipped] at skips reached
    exact (there t reached skips.1 (settled_of_skip skipped)).orReturnTo s.cursor
  | failed why t =>
    rw [skipped] at isFault
    cases why with
    | mismatch trail => cases isFault
    | fault broken => exact .failed (faults broken) (.refl _)
  | exhausted => exact .exhausted

end Steady

/-! ## Runs with the same outcome -/

namespace Cursor

variable {source : Source} {c : Cursor}

/-- To go one further is to read one more character. -/
theorem advance_succ (source : Source) (count : Nat) (c : Cursor) :
    c.advance source (count + 1) = (c.advance source count).next source := by
  induction count generalizing c with
  | zero =>
    rw [advance, advance, advance]
    split
    · next ended => exact (next_eq_self (Option.isNone_iff_eq_none.mp ended)).symm
    · rfl
  | succ count ih =>
    rw [advance, ih, advance]
    split
    · next ended => exact (next_eq_self (Option.isNone_iff_eq_none.mp ended)).symm
    · rfl

end Cursor

section Outcomes

variable {α β : Type} {env : Env} {s t : State}

/-- A run leads on from where it began, character by character. -/
theorem run_advances {budget : Nat} {builder : Builder α} {e : Expr} {a : α}
    (ran : run budget builder env e s = .done a t) :
    t.cursor = s.cursor.advance env.source (t.cursor.position - s.cursor.position) := by
  -- What is said of the cursors on the way is kept by reading one character more.
  have stays (c : Cursor)
      (here : s.cursor.position ≤ c.position ∧
        c = s.cursor.advance env.source (c.position - s.cursor.position)) :
      s.cursor.position ≤ (c.next env.source).position ∧ c.next env.source =
        s.cursor.advance env.source ((c.next env.source).position - s.cursor.position) := by
    obtain ⟨onward, reached⟩ := here
    cases there : c.character with
    | none =>
      rw [Cursor.next_eq_self there]
      exact ⟨onward, reached⟩
    | some a =>
      rw [Cursor.next_position there, Nat.succ_sub onward, Cursor.advance_succ, ← reached]
      exact ⟨Nat.le_succ_of_le onward, rfl⟩
  have start : s.cursor.position ≤ s.cursor.position ∧
      s.cursor = s.cursor.advance env.source (s.cursor.position - s.cursor.position) := by
    rw [Nat.sub_self]
    exact ⟨Nat.le_refl _, rfl⟩
  have follows : (keeping env stays).Follows (fun _ _ => True) (run budget builder env e s)
      (run budget builder env e s) :=
    run_follows (builds_any builder builder) (Nat.le_refl budget) trivial (states_keeping start)
  have holds := follows.hold
  rw [ran] at holds
  exact holds.2.2

theorem eq_failed_of_outcome? {r : Run α} {failure : Failure}
    (came : r.outcome? = some failure.outcome) :
    ∃ failure' t, r = .failed failure' t ∧ failure.SameKind failure' := by
  cases r with
  | done a t => cases failure <;> cases came
  | failed failure' t => exact ⟨failure', t, rfl, (Option.some.inj came).symm⟩
  | exhausted => cases came

theorem eq_exhausted_of_outcome? {r : Run α} (came : r.outcome? = none) : r = .exhausted := by
  cases r with
  | done a t => cases came
  | failed failure t => cases came
  | exhausted => rfl

/-- Recognizers that come out the same from one state concur: there is but one cursor that they can have led
to. -/
theorem concur_of_outcome?_eq {budget budget' : Nat} {e f : Expr}
    (same : (run budget .recognizer env e s).outcome? = (run budget' .recognizer env f s).outcome?) :
    (run budget .recognizer env e s).Concur Eq Failure.SameKind
      (run budget' .recognizer env f s) := by
  cases ran : run budget .recognizer env e s with
  | done stop t =>
    rw [ran] at same
    obtain ⟨stop', t', ran', position⟩ := eq_done_of_outcome? same.symm
    have settles := run_settles budget rightFor_recognizer env e s
    have settles' := run_settles budget' rightFor_recognizer env f s
    have cursors : t.cursor = t'.cursor := by
      rw [run_advances ran, run_advances ran', position]
    rw [ran] at settles
    rw [ran'] at settles' ⊢
    have stops : stop = stop' := settles.2.trans (cursors.trans settles'.2.symm)
    exact .done stops ⟨cursors, settles.1.1.trans settles'.1.1.symm⟩
  | failed failure t =>
    rw [ran] at same
    obtain ⟨failure', t', ran', kind⟩ := eq_failed_of_outcome? same.symm
    rw [ran']
    exact .failed kind
      ((beside_of_failed .recognizer ran).symm.trans (beside_of_failed .recognizer ran'))
  | exhausted =>
    rw [ran] at same
    rw [eq_exhausted_of_outcome? same.symm]
    exact .exhausted

end Outcomes

/-! ## Replies -/

/-- Replies of matches that concur: of values in the one relation, or of failures in the other, and with the
session left the same. -/
inductive Reply.Concur {α β : Type} (value : α → β → Prop) (failure : Failure → Failure → Prop) :
    Reply α → Reply β → Prop where
  | ok {a b session log log'} : value a b →
      Concur value failure ⟨.ok a, session, log⟩ ⟨.ok b, session, log'⟩
  | error {f f' session log log'} : failure f f' →
      Concur value failure ⟨.error f, session, log⟩ ⟨.error f', session, log'⟩

namespace Session

variable {α β : Type} {value : α → β → Prop} {failure : Failure → Failure → Prop}
  {session : Session} {e f : Expr}

/-- What has been noted does not show in the session that is left. -/
theorem leave_eq_of_beside (session : Session) {s s' : State} (beside : s.Beside s') :
    session.leave s = session.leave s' := by
  rw [leave, leave, beside.cursor, beside.skipping]

theorem reply?_concur {r : Run α} {r' : Run β} (concur : r.Concur value failure r') :
    Option.Rel (Reply.Concur value failure) (session.reply? r) (session.reply? r') := by
  cases concur with
  | done valued beside =>
    rw [reply?, reply?, session.leave_eq_of_beside beside]
    exact .some (.ok valued)
  | failed failed beside =>
    rw [reply?, reply?, session.leave_eq_of_beside beside]
    exact .some (.error failed)
  | exhausted => exact .none

/-- The two expressions are recognized alike where the session stands: up to the same cursor, or with failures
that have to do with each other, or neither match ends. -/
def RecognizesAlike (session : Session) (failure : Failure → Failure → Prop) (e f : Expr) : Prop :=
  Option.Rel (Reply.Concur Eq failure) (session.recognize e) (session.recognize f)

/-- The two expressions are parsed alike where the session stands: with the same tree, or with failures that
have to do with each other, or neither match ends. -/
def ParsesAlike (session : Session) (failure : Failure → Failure → Prop) (e f : Expr) : Prop :=
  Option.Rel (Reply.Concur Eq failure) (session.parse e) (session.parse f)

variable (marks : session.cursor.Marks session.source)
include marks

/-- Runs that concur with budgets that are steady for both expressions give replies that concur. -/
theorem answers_concur {builder : Builder α} {builder' : Builder β}
    (concur : ∀ {exprs budget}, Steady session.toEnv session.skipping.ignore exprs budget →
      e ∈ exprs → f ∈ exprs →
      (run budget builder session.toEnv e session.state).Concur value failure
        (run budget builder' session.toEnv f session.state)) :
    Option.Rel (Reply.Concur value failure)
      (session.reply? (run (session.budget e) builder session.toEnv e session.state))
      (session.reply? (run (session.budget f) builder' session.toEnv f session.state)) := by
  have fits := session.state_fits marks
  have listed := session.mem_reachable e List.mem_cons_self
  have listed' := session.mem_reachable f List.mem_cons_self
  -- Each expression has a budget of its own; the larger of the two is steady for both.
  have left := session.steady (e := e) (Nat.le_max_left (session.budget e) (session.budget f))
  have right := session.steady (e := f) (Nat.le_max_right (session.budget e) (session.budget f))
  rw [← (session.steady (Nat.le_refl _)).run_more listed fits
      (Nat.le_max_left (session.budget e) (session.budget f)),
    ← (session.steady (Nat.le_refl _)).run_more listed' fits
      (Nat.le_max_right (session.budget e) (session.budget f))]
  exact reply?_concur (concur (left.append right) (List.mem_append_left _ listed)
    (List.mem_append_right _ listed'))

theorem recognizesAlike_of_concur
    (concur : ∀ {exprs budget}, Steady session.toEnv session.skipping.ignore exprs budget →
      e ∈ exprs → f ∈ exprs →
      (run budget .recognizer session.toEnv e session.state).Concur Eq failure
        (run budget .recognizer session.toEnv f session.state)) :
    session.RecognizesAlike failure e f := by
  rw [RecognizesAlike, recognize_eq, recognize_eq]
  exact answers_concur marks concur

theorem parsesAlike_of_concur
    (concur : ∀ {exprs budget}, Steady session.toEnv session.skipping.ignore exprs budget →
      e ∈ exprs → f ∈ exprs →
      (run budget .tree session.toEnv e session.state).Concur Eq failure
        (run budget .tree session.toEnv f session.state)) :
    session.ParsesAlike failure e f := by
  rw [ParsesAlike, parse_eq, parse_eq]
  exact answers_concur marks concur

/-- Expressions that read the same from where the session stands are recognized alike. -/
theorem recognizesAlike_of_reads (same : ∀ o, session.Reads (.whole e) o ↔ session.Reads (.whole f) o) :
    session.RecognizesAlike Failure.SameKind e f := by
  rw [RecognizesAlike, recognize_eq, recognize_eq]
  refine reply?_concur (concur_of_outcome?_eq (Option.ext fun o => ?_))
  have left := session.run_reading_iff e (o := o) marks .recognizer
  have right := session.run_reading_iff f (o := o) marks .recognizer
  rw [reply?_reading] at left right
  rw [left, right]
  exact same o

end Session

end PegEngine
