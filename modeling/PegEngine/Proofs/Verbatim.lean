import PegEngine.Proofs.Skipping

/-! Switching skipping off. Of all settings that skip nothing one is as good as another, whether skipping is
off or there is nothing to skip. An expression without skipping switches it off for its body only: in front
of it is skipped as ever, and where skipping is off already, it is its body and nothing else. -/
namespace PegEngine

open Run Likeness

/-! ## Settings that skip nothing -/

namespace Likeness

variable {env : Env}

/-- An engine is like itself under another setting, where both settings skip nothing. -/
def inactive (env : Env) : Likeness env env :=
  (same env).reskip (fun k k' => k.active = false ∧ k'.active = false)
    (fun none => none.1.trans none.2.symm)
    (by
      intro k k' none active
      rw [none.1] at active
      cases active)
    ⟨rfl, rfl⟩ fun _ => ⟨rfl, rfl⟩

theorem reversible_inactive : (inactive env).Reversible :=
  ⟨rfl, fun _ => id⟩

theorem builds_inactive {α : Type} (builder : Builder α) :
    (inactive env).Builds builder builder Eq :=
  builds_of_eq id builder

theorem states_inactive {k k' : Skipping} (c : Cursor) (log : List Event)
    (none : k.active = false) (none' : k'.active = false) :
    (inactive env).States ⟨c, k, log⟩ ⟨c, k', log⟩ :=
  ⟨rfl, ⟨none, none'⟩, rfl⟩

end Likeness

/-! ## Runs without skipping -/

namespace Run

variable {α : Type} {right : α → Cursor → Prop} {start : Cursor} {s : State}

/-- Where a failed run is back already it need not go back. -/
theorem Settles.orReturnTo_eq {r : Run α} (settles : Settles right start s r) :
    r.orReturnTo start = r := by
  cases r with
  | done a t => rfl
  | failed failure t => rw [orReturnTo_failed, ← settles.2, State.moveTo_self]
  | exhausted => rfl

/-- Putting back what has not changed changes nothing. -/
theorem Settles.afterwards_eq {r : Run α} (settles : Settles right start s r) {mend : State → State}
    (same : ∀ t, t.skipping = s.skipping → mend t = t) : r.afterwards mend = r := by
  cases r with
  | done a t => rw [afterwards_done, same t settles.1.1]
  | failed failure t => rw [afterwards_failed, same t settles.1]
  | exhausted => rfl

/-- Where skipping is off, switching it off for a while changes nothing. -/
theorem unskipped_off {body : State → Run α} (off : s.skipping.verbatim = true)
    (settles : Settles right start s (body s)) : unskipped body s = body s := by
  have still : s.skipping.toggle true = s.skipping := by
    rw [← off, Skipping.toggle_self]
  rw [unskipped, still, off]
  refine Settles.afterwards_eq settles fun t kept => ?_
  rw [kept, still, ← kept]
  rfl

/-- Where skipping is off, an expression without skipping does what its body does. -/
theorem step_verbatim_off {builder : Builder α} {rounds : Nat}
    {recognize : Expr → State → Run Cursor} {build : Expr → State → Run α} {env : Env} {e : Expr}
    (off : s.skipping.verbatim = true) (settles : Settles right s.cursor s (build e s)) :
    step builder rounds recognize build env (.verbatim e) s = build e s := by
  have idle : skip rounds recognize s = done () s := by
    rw [skip, Skipping.active, off]
    rfl
  rw [step, idle, andThen_done, dispatch, unskipped_off off settles, settles.orReturnTo_eq]

end Run

namespace Steady

variable {α : Type} {env : Env} {ignore exprs : List Expr} {budget : Nat}
  (steady : Steady env ignore exprs budget) (builder : Builder α) {e : Expr} {s : State}
include steady

theorem run_verbatim_off (listed : .verbatim e ∈ exprs) (fits : s.Fits env ignore true) :
    run budget builder env (.verbatim e) s = run budget builder env e s := by
  rw [steady.run_eq_step listed fits]
  exact step_verbatim_off fits.verbatim_eq (run_settles budget (rightFor_any builder) env e s)

/-- Switching skipping off twice is switching it off once. -/
theorem run_verbatim_twice {v : Bool} (listed : .verbatim (.verbatim e) ∈ exprs)
    (fits : s.Fits env ignore v) :
    run budget builder env (.verbatim (.verbatim e)) s =
      run budget builder env (.verbatim e) s := by
  have inner : .verbatim e ∈ exprs := steady.closed.part listed (List.mem_singleton_self _)
  rw [steady.run_eq_step listed fits, steady.run_eq_step inner fits, step, step]
  have reached := skip_fits fits budget budget
  cases ran : skip budget (run budget .recognizer env) s with
  | done _ t =>
    rw [ran] at reached
    have off : (t.withSkipping (t.skipping.toggle true)).Fits env ignore true := reached.off rfl
    rw [andThen_done, andThen_done, dispatch, dispatch, unskipped, unskipped,
      steady.run_verbatim_off builder inner off]
  | failed failure t => rfl
  | exhausted => rfl

end Steady

/-! ## Sessions -/

namespace Session

/-- The session with another setting of skipping. -/
def withSkipping (session : Session) (skipping : Skipping) : Session :=
  { session with skipping := skipping }

end Session

namespace Reply

/-- The same reply of a session with another setting of skipping. -/
def withSkipping {α : Type} (skipping : Skipping) (reply : Reply α) : Reply α :=
  { reply with session := reply.session.withSkipping skipping }

end Reply

namespace Session

variable {α : Type} {session : Session}

/-- However the expression is matched, the session answers as the other one does for the other expression:
with the same outcome, at the same cursor, and with the same events noted. It keeps its own setting of
skipping. -/
structure Gives (session : Session) (e : Expr) (other : Session) (f : Expr) : Prop where
  recognize :
    session.recognize e = (other.recognize f).map (Reply.withSkipping session.skipping)
  recognizeAll :
    session.recognizeAll e = (other.recognizeAll f).map (Reply.withSkipping session.skipping)
  parse : session.parse e = (other.parse f).map (Reply.withSkipping session.skipping)
  parseAll : session.parseAll e = (other.parseAll f).map (Reply.withSkipping session.skipping)

/-- Skip what is ignorable here. -/
def skipWithin (budget : Nat) (session : Session) : Option (Reply Unit) :=
  session.reply? (Run.skip budget (Recognition.run budget session.toEnv) session.state)

/-- Skip what is ignorable here, and answer with skipping off from where that leads. Afterwards skipping is
set as it was, and so is the cursor if there is no match. -/
def skipThen (budget : Nat) (answer : Session → Option (Reply α)) (session : Session) :
    Option (Reply α) :=
  (session.skipWithin budget).bind fun skipped =>
    match skipped.outcome with
    | .ok _ =>
      (answer (skipped.session.setVerbatim true)).map fun reply =>
        (reply.since session.cursor skipped.log).withSkipping session.skipping
    | .error failure => some ⟨.error failure, session, skipped.log⟩

/-- A run that puts skipping back gives a reply that has it as before. -/
theorem reply?_kept {right : α → Cursor → Prop} {start : Cursor} {r : Run α}
    (settles : Settles right start session.state r) :
    (session.reply? r).map (Reply.withSkipping session.skipping) = session.reply? r := by
  cases r with
  | done a t =>
    have kept : t.skipping = session.skipping := settles.1.1
    rw [reply?, Option.map_some, leave, kept]
    rfl
  | failed failure t =>
    have kept : t.skipping = session.skipping := settles.1
    rw [reply?, Option.map_some, leave, kept]
    rfl
  | exhausted => rfl

/-- Replies leave skipping set as it was. -/
theorem skipping_of_reply? {right : α → Cursor → Prop} {start : Cursor} {r : Run α} {reply : Reply α}
    (settles : Settles right start session.state r) (replied : session.reply? r = some reply) :
    reply.session.skipping = session.skipping := by
  have kept := reply?_kept settles
  rw [replied, Option.map_some, Option.some_inj] at kept
  rw [← kept]
  rfl

theorem reply?_inactive {right : α → Cursor → Prop} {start : Cursor} {k k' : Skipping} {r r' : Run α}
    (agrees : (inactive session.toEnv).Agrees Eq r r')
    (settles : Settles right start (session.withSkipping k).state r) :
    (session.withSkipping k).reply? r =
      ((session.withSkipping k').reply? r').map (Reply.withSkipping k) := by
  rw [← reply?_kept settles]
  cases agrees with
  | done valued states =>
    have cursors : _ = _ := states.cursor
    have logs : _ = _ := states.log
    simp [reply?, leave, Reply.withSkipping, withSkipping, valued, cursors, logs]
  | failed failures states =>
    have cursors : _ = _ := states.cursor
    have logs : _ = _ := states.log
    simp [reply?, leave, Reply.withSkipping, withSkipping, failures.eq_of id id, cursors, logs]
  | exhausted => rfl

section Within

variable (session : Session) (budget : Nat) (builder : Builder α) (e : Expr)

/-- From where skipping leads, an expression without skipping is its body with skipping off. -/
theorem reply?_unskipped {t : State} (kept : t.skipping = session.skipping) :
    session.reply? ((unskipped (run budget builder session.toEnv e) t).orReturnTo session.cursor) =
      (((session.leave t).setVerbatim true).reply?
        (run budget builder session.toEnv e ((session.leave t).setVerbatim true).state)).map
          fun reply => (reply.since session.cursor t.log.reverse).withSkipping session.skipping := by
  let off : State := ⟨t.cursor, t.skipping.toggle true, []⟩
  have body : run budget builder session.toEnv e (t.withSkipping (t.skipping.toggle true)) =
      (run budget builder session.toEnv e off).afterwards fun u => u.after t.log :=
    run_after budget builder session.toEnv e off t.log
  have settles := run_settles budget (rightFor_any builder) session.toEnv e off
  rw [unskipped, body]
  change _ = (((session.leave t).setVerbatim true).reply?
    (run budget builder session.toEnv e off)).map _
  cases ran : run budget builder session.toEnv e off with
  | done a u =>
    rw [ran] at settles
    have same : u.skipping = t.skipping.toggle true := settles.1.1
    simp [reply?, leave, setVerbatim, Reply.since, Reply.withSkipping, withSkipping, State.after,
      same, kept]
  | failed failure u =>
    rw [ran] at settles
    have same : u.skipping = t.skipping.toggle true := settles.1
    simp [reply?, leave, setVerbatim, jump, Reply.since, Reply.withSkipping, withSkipping,
      State.after, same, kept]
  | exhausted => rfl

/-- With one budget more, an expression without skipping skips, and then does what its body does with
skipping off. -/
theorem reply?_run_verbatim :
    session.reply? (run (budget + 1) builder session.toEnv (.verbatim e) session.state) =
      session.skipThen budget fun here =>
        here.reply? (run budget builder here.toEnv e here.state) := by
  have skips := skip_skips
    (fun f t => run_settles budget rightFor_recognizer session.toEnv f t) budget session.state
  rw [run, step, skipThen, skipWithin, Recognition.run_eq]
  cases ran : Run.skip budget (run budget .recognizer session.toEnv) session.state with
  | done _ t =>
    rw [ran] at skips
    have kept : t.skipping = session.skipping := skips.1
    exact session.reply?_unskipped budget builder e kept
  | failed failure t =>
    rw [ran] at skips
    have kept : t.skipping = session.skipping := skips
    rw [andThen_failed, orReturnTo_failed, reply?, leave, State.moveTo_cursor, State.moveTo_skipping,
      kept]
    rfl
  | exhausted => rfl

end Within

variable (marks : session.cursor.Marks session.source)
include marks

/-- What follows the skipping may be asked of any session that stands where skipping can lead. -/
theorem skipThen_congr {budget : Nat} {answer answer' : Session → Option (Reply α)}
    (same : ∀ c, c.Marks session.source →
      answer ((session.jump c).setVerbatim true) = answer' ((session.jump c).setVerbatim true)) :
    session.skipThen budget answer = session.skipThen budget answer' := by
  have skips := skip_skips
    (fun f t => run_settles budget rightFor_recognizer session.toEnv f t) budget session.state
  have fits := skip_fits (session.state_fits marks) budget budget
  rw [skipThen, skipThen, skipWithin, Recognition.run_eq]
  cases ran : Run.skip budget (run budget .recognizer session.toEnv) session.state with
  | done _ t =>
    rw [ran] at skips fits
    have kept : t.skipping = session.skipping := skips.1
    have here : session.leave t = session.jump t.cursor := by
      rw [leave, kept]
      rfl
    simp only [reply?, Option.bind_some, here, same t.cursor fits.marks]
  | failed failure t => rfl
  | exhausted => rfl

variable {budget : Nat} {e : Expr}

omit marks in
theorem budget_le_verbatim (c : Cursor) :
    ((session.jump c).setVerbatim true).budget e ≤ session.budget (.verbatim e) :=
  session.budget_le_of_mem_parts (List.mem_singleton_self e)

section Enough

variable (enough : session.budget (.verbatim e) ≤ budget)
include enough

/-- A match of an expression without skipping is one of its body with skipping off, behind what is skipped
in front of it. -/
theorem recognize_verbatim :
    session.recognize (.verbatim e) = session.skipThen budget fun here => here.recognize e := by
  rw [← session.recognizeWithin_of_le marks (Nat.le_succ_of_le enough), recognizeWithin_eq,
    reply?_run_verbatim]
  refine skipThen_congr marks fun c there => ?_
  rw [← recognizeWithin_eq]
  exact recognizeWithin_of_le _ there (Nat.le_trans (budget_le_verbatim c) enough)

theorem parse_verbatim :
    session.parse (.verbatim e) = session.skipThen budget fun here => here.parse e := by
  rw [← session.parseWithin_of_le marks (Nat.le_succ_of_le enough), parseWithin_eq,
    reply?_run_verbatim]
  refine skipThen_congr marks fun c there => ?_
  rw [← parseWithin_eq]
  exact parseWithin_of_le _ there (Nat.le_trans (budget_le_verbatim c) enough)

end Enough

/-- Where an expression runs as another one does, with budgets that are enough for both, the session gives
for the one what it gives for the other. -/
theorem gives_of_run {f : Expr} (enough : session.budget e ≤ budget) (enough' : session.budget f ≤ budget)
    (recognizes : run budget .recognizer session.toEnv e session.state =
      run budget .recognizer session.toEnv f session.state)
    (builds : run budget .tree session.toEnv e session.state =
      run budget .tree session.toEnv f session.state) : session.Gives e session f where
  recognize := by
    rw [← session.recognizeWithin_of_le marks enough, ← session.recognizeWithin_of_le marks enough',
      recognizeWithin_eq, recognizeWithin_eq, recognizes]
    exact (reply?_kept (run_settles budget (rightFor_any _) session.toEnv f session.state)).symm
  recognizeAll := by
    rw [← session.recognizeAllWithin_of_le marks enough,
      ← session.recognizeAllWithin_of_le marks enough', recognizeAllWithin_eq,
      recognizeAllWithin_eq, runToEnd, recognizes, ← runToEnd]
    exact (reply?_kept
      (runToEnd_settles budget (rightFor_any _) session.toEnv f session.state)).symm
  parse := by
    rw [← session.parseWithin_of_le marks enough, ← session.parseWithin_of_le marks enough',
      parseWithin_eq, parseWithin_eq, builds]
    exact (reply?_kept (run_settles budget (rightFor_any _) session.toEnv f session.state)).symm
  parseAll := by
    rw [← session.parseAllWithin_of_le marks enough, ← session.parseAllWithin_of_le marks enough',
      parseAllWithin_eq, parseAllWithin_eq, runToEnd, builds, ← runToEnd]
    exact (reply?_kept
      (runToEnd_settles budget (rightFor_any _) session.toEnv f session.state)).symm

/-- A session whose setting skips nothing gives what it gives with any other such setting. -/
theorem gives_of_inactive (e : Expr) {k k' : Skipping} (none : k.active = false)
    (none' : k'.active = false) : (session.withSkipping k).Gives e (session.withSkipping k') e := by
  let budget := (session.withSkipping k).budget e + (session.withSkipping k').budget e
  have enough : (session.withSkipping k).budget e ≤ budget := Nat.le_add_right _ _
  have enough' : (session.withSkipping k').budget e ≤ budget := Nat.le_add_left _ _
  have there : (session.withSkipping k).cursor.Marks (session.withSkipping k).source := marks
  have there' : (session.withSkipping k').cursor.Marks (session.withSkipping k').source := marks
  have states : (inactive session.toEnv).States (session.withSkipping k).state
      (session.withSkipping k').state :=
    states_inactive session.cursor [] none none'
  constructor
  case recognize =>
    rw [← recognizeWithin_of_le _ there enough, ← recognizeWithin_of_le _ there' enough',
      recognizeWithin_eq, recognizeWithin_eq]
    exact reply?_inactive (run_agrees reversible_inactive (builds_inactive _) budget trivial states)
      (run_settles budget (rightFor_any _) _ e _)
  case recognizeAll =>
    rw [← recognizeAllWithin_of_le _ there enough, ← recognizeAllWithin_of_le _ there' enough',
      recognizeAllWithin_eq, recognizeAllWithin_eq]
    exact reply?_inactive
      (runToEnd_agrees reversible_inactive (builds_inactive _) budget trivial states)
      (runToEnd_settles budget (rightFor_any _) _ e _)
  case parse =>
    rw [← parseWithin_of_le _ there enough, ← parseWithin_of_le _ there' enough',
      parseWithin_eq, parseWithin_eq]
    exact reply?_inactive (run_agrees reversible_inactive (builds_inactive _) budget trivial states)
      (run_settles budget (rightFor_any _) _ e _)
  case parseAll =>
    rw [← parseAllWithin_of_le _ there enough, ← parseAllWithin_of_le _ there' enough',
      parseAllWithin_eq, parseAllWithin_eq]
    exact reply?_inactive
      (runToEnd_agrees reversible_inactive (builds_inactive _) budget trivial states)
      (runToEnd_settles budget (rightFor_any _) _ e _)

/-- Where skipping is off, the session gives for an expression without skipping what it gives for its
body. -/
theorem gives_body (e : Expr) (off : session.verbatim = true) :
    session.Gives (.verbatim e) session e := by
  have steady := session.steady (Nat.le_refl (session.budget (.verbatim e)))
  have listed := session.mem_reachable (.verbatim e) List.mem_cons_self
  have fits := session.state_fits marks
  rw [show session.skipping.verbatim = true from off] at fits
  exact gives_of_run marks (Nat.le_refl _)
    (session.budget_le_of_mem_parts (List.mem_singleton_self e))
    (steady.run_verbatim_off .recognizer listed fits) (steady.run_verbatim_off .tree listed fits)

theorem gives_once (e : Expr) : session.Gives (.verbatim (.verbatim e)) session (.verbatim e) := by
  have steady := session.steady (Nat.le_refl (session.budget (.verbatim (.verbatim e))))
  have listed := session.mem_reachable (.verbatim (.verbatim e)) List.mem_cons_self
  have fits := session.state_fits marks
  exact gives_of_run marks (Nat.le_refl _)
    (session.budget_le_of_mem_parts (List.mem_singleton_self _))
    (steady.run_verbatim_twice .recognizer listed fits) (steady.run_verbatim_twice .tree listed fits)

end Session

/-- To switch skipping off is to have nothing to skip: a match answers then what it answers with an empty
list, for which it makes no difference whether skipping is off. An expression without skipping switches it
off for its body and for nothing else. Where skipping is on, such an expression skips first, as any other
does, and then matches as its body does with skipping off; in the end skipping is on again, whether there
was a match or not. Where skipping is off, it matches as its body does and leaves skipping off. One such
expression around another is no more than the inner one. -/
theorem verbatim_scopes (session : Session) (marks : session.cursor.Marks session.source) (e : Expr) :
    (∀ ignore v,
      (session.withSkipping ⟨ignore, true⟩).Gives e (session.withSkipping ⟨[], v⟩) e) ∧
    (session.verbatim = false →
      (∀ budget, session.budget (.verbatim e) ≤ budget →
        session.recognize (.verbatim e) =
          session.skipThen budget (fun here => here.recognize e) ∧
        session.parse (.verbatim e) = session.skipThen budget (fun here => here.parse e)) ∧
      (∀ reply, session.recognize (.verbatim e) = some reply → reply.session.verbatim = false) ∧
      ∀ reply, session.parse (.verbatim e) = some reply → reply.session.verbatim = false) ∧
    (session.verbatim = true → session.Gives (.verbatim e) session e) ∧
    session.Gives (.verbatim (.verbatim e)) session (.verbatim e) := by
  refine ⟨fun ignore v => ?_, fun on => ⟨fun budget enough => ⟨?_, ?_⟩, ?_, ?_⟩, ?_, ?_⟩
  · exact Session.gives_of_inactive marks e rfl (Bool.and_false _)
  · exact Session.recognize_verbatim marks enough
  · exact Session.parse_verbatim marks enough
  · intro reply replied
    rw [session.recognize_eq] at replied
    have settles := run_settles (session.budget (.verbatim e)) rightFor_recognizer session.toEnv
      (.verbatim e) session.state
    rw [Session.verbatim, Session.skipping_of_reply? settles replied]
    exact on
  · intro reply replied
    rw [session.parse_eq] at replied
    have settles := run_settles (session.budget (.verbatim e)) (rightFor_any .tree) session.toEnv
      (.verbatim e) session.state
    rw [Session.verbatim, Session.skipping_of_reply? settles replied]
    exact on
  · exact Session.gives_body marks e
  · exact Session.gives_once marks e

/-- Inside an expression without skipping, the blank has to be read; in front of it, it need not. -/
theorem sample_verbatim :
    Session.sample.verbatim = false ∧
      (Session.sample.withSkipping ⟨[.char ' '], true⟩).Gives (.seq [.any, .any])
        (Session.sample.withSkipping ⟨[], false⟩) (.seq [.any, .any]) ∧
      Session.sample.parse (.verbatim (.seq [.any, .any])) =
        Session.sample.skipThen (Session.sample.budget (.verbatim (.seq [.any, .any])))
          (fun here => here.parse (.seq [.any, .any])) := by
  obtain ⟨unlisted, within, _⟩ :=
    verbatim_scopes Session.sample (Cursor.start_marks _) (.seq [.any, .any])
  exact ⟨rfl, unlisted _ _, ((within rfl).1 _ (Nat.le_refl _)).2⟩

end PegEngine
