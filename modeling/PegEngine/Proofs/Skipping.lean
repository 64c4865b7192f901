import PegEngine.Proofs.Lockstep
import PegEngine.Proofs.Steady
import PegEngine.Proofs.Trails

/-! Skipping reaches a place where there is nothing more to skip. On the way there it is always the first
of the ignorable expressions that can read something that does so, and at the end none can. Skipping from
there does nothing, so an expression matches from where skipping leads as it matches from where skipping
began. -/
namespace PegEngine

open Run Likeness

/-! ## Matches as relations -/

namespace Env

variable {env : Env} {k : Skipping} {e : Expr} {c d d' : Cursor} {trail : Trail}

/-- From the same place an expression matches up to one place only. -/
theorem Matches.unique (first : env.Matches k e c d) (second : env.Matches k e c d') : d = d' := by
  obtain ⟨n, t, ran⟩ := matches_iff.mp first
  obtain ⟨n', t', ran'⟩ := matches_iff.mp second
  cases run_unique ran ran' nofun nofun
  rfl

/-- What mismatches does not match. -/
theorem Matches.not_mismatches (first : env.Matches k e c d) : ¬env.Mismatches k e c trail := by
  intro second
  obtain ⟨n, t, ran⟩ := matches_iff.mp first
  obtain ⟨n', t', ran'⟩ := mismatches_iff.mp second
  cases run_unique ran ran' nofun nofun

end Env

/-! ## Runs that succeed -/

namespace Run

variable {α β : Type} {s t : State}

theorem andThen_eq_done {r : Run α} {rest : α → State → Run β} {b : β}
    (ran : r.andThen rest = done b t) : ∃ a u, r = done a u ∧ rest a u = done b t := by
  cases r with
  | done a u => exact ⟨a, u, rfl, ran⟩
  | failed failure u => cases ran
  | exhausted => cases ran

theorem afterwards_eq_done {r : Run α} {mend : State → State} {a : α}
    (ran : r.afterwards mend = done a t) : ∃ u, r = done a u ∧ mend u = t := by
  cases r with
  | done b u =>
    injection ran with value state
    exact ⟨u, by rw [value], state⟩
  | failed failure u => cases ran
  | exhausted => cases ran

/-- Skipping that succeeds has skipped all there is, or there was nothing to skip. -/
theorem skip_eq_done {rounds : Nat} {recognize : Expr → State → Run Cursor}
    (skipped : skip rounds recognize s = done () t) :
    (s.skipping.active = true ∧
      ∃ u, skipAll recognize s.skipping.ignore rounds (s.withSkipping .suspended) = done () u ∧
        u.withSkipping s.skipping = t) ∨
    (s.skipping.active = false ∧ s = t) := by
  rw [skip] at skipped
  split at skipped
  · next active => exact Or.inl ⟨active, afterwards_eq_done skipped⟩
  · next inactive =>
    cases skipped
    exact Or.inr ⟨Bool.eq_false_iff.mpr inactive, rfl⟩

end Run

/-! ## The way of skipping -/

namespace Env

/-- The expression reads nothing here: it mismatches, or it matches without moving. -/
def Idle (env : Env) (e : Expr) (c : Cursor) : Prop :=
  (∃ trail, env.Mismatches .suspended e c trail) ∨ env.Matches .suspended e c c

/-- The first of the expressions that reads something at the first cursor reads on to the second. -/
structure SkipsTo (env : Env) (ignore : List Expr) (c d : Cursor) : Prop where
  further : c.position < d.position
  reads : ∃ before e behind, ignore = before ++ e :: behind ∧ (∀ f ∈ before, env.Idle f c) ∧
    env.Matches .suspended e c d

/-- Skipping leads from one cursor to another by way of these, the last of which is the other. -/
structure SkipPath (env : Env) (ignore : List Expr) (start stop : Cursor) (path : List Cursor) :
    Prop where
  steps : (start :: path).IsChain (env.SkipsTo ignore)
  arrives : (start :: path).getLast (List.cons_ne_nil _ _) = stop
  idle : ∀ e ∈ ignore, env.Idle e stop

variable {env : Env} {ignore : List Expr} {e : Expr} {c d start stop : Cursor} {path : List Cursor}

theorem Idle.stays (idle : env.Idle e c) (matched : env.Matches .suspended e c d) : d = c := by
  rcases idle with ⟨trail, mismatched⟩ | still
  · exact (matched.not_mismatches mismatched).elim
  · exact matched.unique still

theorem SkipsTo.here (matched : env.Matches .suspended e c d) (further : c.position < d.position)
    (behind : List Expr) : env.SkipsTo (e :: behind) c d where
  further := further
  reads := ⟨[], e, behind, rfl, fun _ mem => (List.not_mem_nil mem).elim, matched⟩

theorem SkipsTo.cons (idle : env.Idle e c) (skips : env.SkipsTo ignore c d) :
    env.SkipsTo (e :: ignore) c d where
  further := skips.further
  reads := by
    obtain ⟨before, f, behind, rfl, idles, matched⟩ := skips.reads
    exact ⟨e :: before, f, behind, rfl, List.forall_mem_cons.mpr ⟨idle, idles⟩, matched⟩

namespace SkipPath

theorem nil (idle : ∀ e ∈ ignore, env.Idle e c) : env.SkipPath ignore c c [] :=
  ⟨.singleton c, rfl, idle⟩

theorem cons (skips : env.SkipsTo ignore start c) (way : env.SkipPath ignore c stop path) :
    env.SkipPath ignore start stop (c :: path) where
  steps := List.isChain_cons_cons.mpr ⟨skips, way.steps⟩
  arrives := by
    rw [List.getLast_cons_cons]
    exact way.arrives
  idle := way.idle

/-- Each step of the way takes a character at least. -/
theorem length_le (way : env.SkipPath ignore start stop path) :
    start.position + path.length ≤ stop.position := by
  induction path generalizing start with
  | nil => exact Nat.le_of_eq (congrArg Cursor.position way.arrives)
  | cons c path ih =>
    obtain ⟨first, steps⟩ := List.isChain_cons_cons.mp way.steps
    have arrives := way.arrives
    rw [List.getLast_cons_cons] at arrives
    have rest := ih ⟨steps, arrives, way.idle⟩
    have further := first.further
    rw [List.length_cons]
    omega

end SkipPath

end Env

section Runs

variable {env : Env} {budget : Nat} {s t : State}

/-- A run that ends no further on ends at the very cursor where it began. -/
theorem run_still {α : Type} {builder : Builder α} {e : Expr} {a : α}
    (ran : run budget builder env e s = .done a t)
    (still : t.cursor.position ≤ s.cursor.position) : t.cursor = s.cursor := by
  have stays (c : Cursor) (here : s.cursor.position < c.position ∨ c = s.cursor) :
      s.cursor.position < (c.next env.source).position ∨ c.next env.source = s.cursor := by
    rcases here with beyond | rfl
    · exact Or.inl (Nat.lt_of_lt_of_le beyond (c.position_le_next env.source))
    · cases next : s.cursor.character with
      | none => exact Or.inr (Cursor.next_eq_self next)
      | some a =>
        rw [Cursor.next_position next]
        exact Or.inl (Nat.lt_succ_self _)
  have follows : (keeping env stays).Follows (fun _ _ => True) (run budget builder env e s)
      (run budget builder env e s) :=
    run_follows (builds_any builder builder) (Nat.le_refl budget) trivial
      (states_keeping (Or.inr rfl))
  have holds := follows.hold
  rw [ran] at holds
  exact holds.2.resolve_left (Nat.not_lt_of_le still)

/-- An attempt at skipping these from here takes the first one that reads something, or tells that none
does. -/
def Run.Attempts (env : Env) (ignore : List Expr) (c : Cursor) (r : Run Bool) : Prop :=
  r.Ends
    (fun more t => t.skipping = .suspended ∧
      if more then env.SkipsTo ignore c t.cursor
      else t.cursor = c ∧ ∀ e ∈ ignore, env.Idle e c)
    fun _ _ => True

/-- An expression that reads nothing leaves the attempt to the others. -/
theorem Run.Attempts.cons {ignore : List Expr} {c : Cursor} {e : Expr} {r : Run Bool}
    (attempts : r.Attempts env ignore c) (idle : env.Idle e c) :
    r.Attempts env (e :: ignore) c := by
  refine Ends.imp attempts ?_ fun _ _ _ => trivial
  rintro more t ⟨kept, ends⟩
  cases more with
  | true => exact ⟨kept, ends.cons idle⟩
  | false => exact ⟨kept, ends.1, List.forall_mem_cons.mpr ⟨idle, ends.2⟩⟩

theorem skipOne_attempts (env : Env) (budget : Nat) (ignore : List Expr) {s : State}
    (off : s.skipping = .suspended) :
    (skipOne (run budget .recognizer env) ignore s).Attempts env ignore s.cursor := by
  induction ignore generalizing s with
  | nil => exact ⟨off, rfl, fun _ mem => (List.not_mem_nil mem).elim⟩
  | cons e rest ih =>
    have settles := run_settles budget rightFor_recognizer env e s
    rw [skipOne]
    cases ran : run budget .recognizer env e s with
    | done stop t =>
      rw [ran] at settles
      obtain ⟨⟨kept, _⟩, rfl⟩ := settles
      have matched := matches_of_run ran
      rw [off] at matched
      dsimp only
      split
      · next further => exact ⟨kept.trans off, .here matched further rest⟩
      · next still =>
        have here := run_still ran (Nat.le_of_not_lt still)
        have attempts := ih (kept.trans off)
        rw [here] at matched attempts
        exact attempts.cons (Or.inr matched)
    | failed failure t =>
      rw [ran] at settles
      cases failure with
      | mismatch trail =>
        have mismatched := mismatches_of_run ran
        have attempts := ih (settles.1.trans off)
        rw [off] at mismatched
        rw [settles.2] at attempts
        exact attempts.cons (Or.inl ⟨trail, mismatched⟩)
      | fault broken => trivial
    | exhausted => trivial

/-- Skipping ends where a last attempt at it fails. -/
theorem skipAll_path (ignore : List Expr) (rounds : Nat) (off : s.skipping = .suspended)
    (skipped : skipAll (run budget .recognizer env) ignore rounds s = .done () t) :
    (∃ path, env.SkipPath ignore s.cursor t.cursor path) ∧
      ∃ last : State, last.cursor = t.cursor ∧ last.skipping = .suspended ∧
        skipOne (run budget .recognizer env) ignore last = .done false t := by
  induction rounds generalizing s with
  | zero => cases skipped
  | succ rounds ih =>
    have attempts := skipOne_attempts env budget ignore off
    obtain ⟨more, u, tried, rest⟩ := andThen_eq_done skipped
    rw [tried] at attempts
    obtain ⟨kept, ends⟩ := attempts
    cases more with
    | true =>
      obtain ⟨⟨path, way⟩, last⟩ := ih kept rest
      exact ⟨⟨u.cursor :: path, way.cons ends⟩, last⟩
    | false =>
      cases rest
      obtain ⟨here, idle⟩ := ends
      rw [here]
      exact ⟨⟨[], .nil idle⟩, s, rfl, off, tried⟩

variable {rounds : Nat} (skipped : skip rounds (run budget .recognizer env) s = .done () t)
include skipped

theorem skip_path (on : s.skipping.verbatim = false) :
    ∃ path, env.SkipPath s.skipping.ignore s.cursor t.cursor path := by
  rcases skip_eq_done skipped with ⟨_, u, whole, rfl⟩ | ⟨inactive, rfl⟩
  · exact (skipAll_path _ rounds rfl whole).1
  · have none : s.skipping.ignore = [] := by simpa [Skipping.active, on] using inactive
    rw [none]
    exact ⟨[], .nil fun _ mem => (List.not_mem_nil mem).elim⟩

/-- Skipping from where it led does nothing but note what it tries. -/
theorem skip_again : ∃ earlier,
    skip rounds (run budget .recognizer env) ⟨t.cursor, s.skipping, earlier⟩ = .done () t := by
  rcases skip_eq_done skipped with ⟨active, u, whole, rfl⟩ | ⟨_, rfl⟩
  · obtain ⟨_, last, here, off, tried⟩ := skipAll_path _ rounds rfl whole
    cases rounds with
    | zero => cases whole
    | succ rounds =>
      have resumed : State.withSkipping ⟨u.cursor, s.skipping, last.log⟩ .suspended = last := by
        rw [← here, ← off]
        rfl
      refine ⟨last.log, ?_⟩
      rw [skip, State.withSkipping_cursor, if_pos active, resumed, skipAll, tried]
      rfl
  · exact ⟨s.log, skipped⟩

theorem skip_mono {rounds' budget' : Nat} (moreRounds : rounds ≤ rounds')
    (moreBudget : budget ≤ budget') :
    skip rounds' (run budget' .recognizer env) s = .done () t := by
  have follows : (same env).Follows Eq (skip rounds (run budget .recognizer env) s)
      (skip rounds' (run budget' .recognizer env) s) :=
    skip_follows (fun _ covered _ _ here => run_follows builds_recognizer moreBudget covered here)
      (states_same s) moreRounds
  rw [eq_of_follows follows (by rw [skipped]; nofun), skipped]

/-- Skipping twice leads no further than skipping once. -/
theorem skip_skipped : ∃ u, skip rounds (run budget .recognizer env) t = .done () u ∧
    u.cursor = t.cursor ∧ u.skipping = t.skipping := by
  have skips := skip_skips (fun e u => run_settles budget rightFor_recognizer env e u) rounds s
  rw [skipped] at skips
  obtain ⟨earlier, again⟩ := skip_again skipped
  rw [← skips.1] at again
  -- The second time is that last attempt again, after other events.
  have last := (skip_after budget env ⟨t.cursor, t.skipping, []⟩ earlier rounds).symm.trans again
  have second := skip_after budget env ⟨t.cursor, t.skipping, []⟩ t.log rounds
  obtain ⟨u, bare, ended⟩ := afterwards_eq_done last
  have cursors := congrArg State.cursor ended
  have skippings := congrArg State.skipping ended
  rw [bare] at second
  exact ⟨_, second, cursors, skippings⟩

/-- Where skipping leads, an expression does what it does here, except that from here it notes more and, if
it fails, goes back further. -/
theorem run_of_skipped : ∃ earlier, ∀ {α : Type} (builder : Builder α) (e : Expr) {larger : Nat},
    rounds ≤ larger → budget ≤ larger → run (larger + 1) builder env e s =
      ((run (larger + 1) builder env e ⟨t.cursor, s.skipping, []⟩).afterwards
        fun u => u.after earlier).orReturnTo s.cursor := by
  obtain ⟨earlier, again⟩ := skip_again skipped
  refine ⟨earlier, fun builder e larger moreRounds moreBudget => ?_⟩
  have first := skip_mono skipped moreRounds moreBudget
  have second := skip_mono again moreRounds moreBudget
  have noted := run_after (larger + 1) builder env e ⟨t.cursor, s.skipping, []⟩ earlier
  rw [← noted, run, step, first, andThen_done]
  change _ = (run (larger + 1) builder env e ⟨t.cursor, s.skipping, earlier⟩).orReturnTo s.cursor
  rw [run, step, second, andThen_done]
  cases dispatch builder larger (run larger .recognizer env) (run larger builder env) env e t with
  | done a u => rfl
  | failed failure u => rfl
  | exhausted => rfl

end Runs

/-! ## Sessions -/

/-- The reply of a match that began at another cursor and noted something else earlier. -/
def Reply.since {α : Type} (start : Cursor) (earlier : List Event) (reply : Reply α) : Reply α where
  outcome := reply.outcome
  session :=
    match reply.outcome with
    | .ok _ => reply.session
    | .error _ => reply.session.jump start
  log := earlier ++ reply.log

namespace Session

variable {α : Type}

theorem reply?_since (session : Session) (c : Cursor) (earlier : List Event) (r : Run α) :
    session.reply? ((r.afterwards fun u => u.after earlier).orReturnTo session.cursor) =
      ((session.jump c).reply? r).map (Reply.since session.cursor earlier.reverse) := by
  cases r with
  | done a u => simp [reply?, Reply.since, State.after, leave, jump]
  | failed failure u => simp [reply?, Reply.since, State.after, leave, jump]
  | exhausted => rfl

end Session

/-- Skipping, if it comes to an end, comes to one where nothing more can be skipped. It goes there in
steps, no more than there are characters left, each of them further by the first ignorable expression
that reads something. Skipping again from there does nothing. So an expression matches from there as it
does from where skipping began, with the same outcome and the same state of the session, except that a
failure goes back to where it began itself. -/
theorem skipping_settles (session : Session) (marks : session.cursor.Marks session.source)
    (on : session.verbatim = false) {rounds budget : Nat} {t : State}
    (skipped : Run.skip rounds (Recognition.run budget session.toEnv) session.state = .done () t) :
    (∃ path, session.SkipPath session.skipping.ignore session.cursor t.cursor path ∧
      path.length ≤ session.source.size - session.cursor.position) ∧
    t.skipping = session.skipping ∧
    (∃ u, Run.skip rounds (Recognition.run budget session.toEnv) t = .done () u ∧
      u.cursor = t.cursor ∧ u.skipping = t.skipping) ∧
    ∃ earlier, ∀ e,
      session.recognize e =
        ((session.jump t.cursor).recognize e).map (Reply.since session.cursor earlier) ∧
      session.parse e =
        ((session.jump t.cursor).parse e).map (Reply.since session.cursor earlier) := by
  rw [Recognition.run_eq] at skipped ⊢
  have skips := skip_skips (fun e u => run_settles budget rightFor_recognizer session.toEnv e u)
    rounds session.state
  have fits := skip_fits (session.state_fits marks) rounds budget
  rw [skipped] at skips fits
  refine ⟨?_, skips.1, skip_skipped skipped, ?_⟩
  · obtain ⟨path, way⟩ := skip_path skipped on
    exact ⟨path, way, Nat.le_sub_of_add_le' (Nat.le_trans way.length_le fits.marks.within)⟩
  · obtain ⟨earlier, resumes⟩ := run_of_skipped skipped
    refine ⟨earlier.reverse, fun e => ?_⟩
    -- One budget that is enough for the skipping and for both matches.
    let larger := rounds + budget + session.budget e
    have enough : session.budget e ≤ larger + 1 :=
      Nat.le_succ_of_le (Nat.le_add_left _ _)
    have moreRounds : rounds ≤ larger := Nat.le_trans (Nat.le_add_right _ _) (Nat.le_add_right _ _)
    have moreBudget : budget ≤ larger := Nat.le_trans (Nat.le_add_left _ _) (Nat.le_add_right _ _)
    have there : (session.jump t.cursor).cursor.Marks session.source := fits.marks
    constructor
    · rw [← session.recognizeWithin_of_le marks enough,
        ← (session.jump t.cursor).recognizeWithin_of_le there enough, Session.recognizeWithin_eq,
        Session.recognizeWithin_eq, resumes .recognizer e moreRounds moreBudget]
      exact session.reply?_since t.cursor earlier _
    · rw [← session.parseWithin_of_le marks enough,
        ← (session.jump t.cursor).parseWithin_of_le there enough, Session.parseWithin_eq,
        Session.parseWithin_eq, resumes .tree e moreRounds moreBudget]
      exact session.reply?_since t.cursor earlier _

/-- A session that stands in front of blanks, and may also skip what matches without reading. -/
def Session.sampleBlank : Session where
  source := #[' ', ' ', 'b']
  definitions := .empty
  skipping := ⟨[.optional (.char '#'), .char ' '], false⟩
  cursor := .start #[' ', ' ', 'b']

/-- The optional expression is passed over twice and at the end a third time. -/
theorem sampleBlank_skipped : ∃ t,
    Run.skip 8 (Recognition.run 8 Session.sampleBlank.toEnv) Session.sampleBlank.state =
      .done () t ∧
    (∃ path, Session.sampleBlank.SkipPath [.optional (.char '#'), .char ' ']
      Session.sampleBlank.cursor t.cursor path) ∧
    ∃ earlier, Session.sampleBlank.parse (.capture "b" (.char 'b')) =
      ((Session.sampleBlank.jump t.cursor).parse (.capture "b" (.char 'b'))).map
        (Reply.since Session.sampleBlank.cursor earlier) := by
  let t : State :=
    { cursor := ⟨some 'b', 2, 0, 2, 0⟩
      skipping := Session.sampleBlank.skipping
      log := [.skipped (.char ' ') ⟨some ' ', 1, 0, 1, 0⟩, .skipped (.char ' ') ⟨some ' ', 0, 0, 0, 0⟩] }
  have skipped : Run.skip 8 (Recognition.run 8 Session.sampleBlank.toEnv)
      Session.sampleBlank.state = .done () t :=
    rfl
  obtain ⟨⟨path, way, _⟩, _, _, earlier, resumes⟩ :=
    skipping_settles Session.sampleBlank (Cursor.start_marks _) rfl skipped
  exact ⟨t, skipped, ⟨path, way⟩, earlier, (resumes _).2⟩

end PegEngine
