import PegEngine.Proofs.Skipping

/-! Repetition is greedy. It runs its body as often as it may, each run from where the one before it ended,
and ends in one of four ways: at the maximum, at a run that reads nothing, at a mismatch once the minimum is
reached, and at a mismatch before that, with which it mismatches itself. So it never ends early for any other
reason, and counts no further than to one more than the characters ahead. -/
namespace PegEngine

open Run Likeness

namespace Env

variable {α : Type}

/-- With this setting of skipping, the engine matches the expression from the first cursor to the second,
and this is what it makes of it. -/
def Yields (env : Env) (engine : Engine α) (k : Skipping) (e : Expr) (start : Cursor) (a : α)
    (stop : Cursor) : Prop :=
  ∃ budget t, engine budget env e ⟨start, k, []⟩ = .done a t ∧ t.cursor = stop

/-- Runs of an expression, each from where the one before it ended, from the first cursor to the last. Of
each it is told what it yields and where it ends. -/
inductive Runs (env : Env) (engine : Engine α) (k : Skipping) (e : Expr) :
    Cursor → List (α × Cursor) → Cursor → Prop where
  | nil {c} : Runs env engine k e c [] c
  | cons {c d stop a runs} : env.Yields engine k e c a d → Runs env engine k e d runs stop →
      Runs env engine k e c ((a, d) :: runs) stop

/-- Each of the runs reads something. -/
def Advances (start : Cursor) (runs : List (α × Cursor)) : Prop :=
  (start :: runs.map Prod.snd).IsChain fun c d => c.position < d.position

/-- The runs of a repetition that matches from the first cursor to the last. -/
structure Repeats (env : Env) (engine : Engine α) (k : Skipping) (min max : Nat) (body : Expr)
    (start : Cursor) (runs : List (α × Cursor)) (stop : Cursor) : Prop where
  consecutive : env.Runs engine k body start runs stop
  /-- No run goes back, -/
  onward : (start :: runs.map Prod.snd).IsChain fun c d => c.position ≤ d.position
  /-- and each but the last one reads something. -/
  advances : Advances start runs.dropLast
  most : 0 < max → runs.length ≤ max
  /-- Only a run that reads nothing makes up for runs that lack. -/
  least : Advances start runs → min ≤ runs.length
  /-- Only the maximum, or a run that reads nothing, keeps the body from being run until it mismatches. -/
  greedy : Advances start runs → (max = 0 ∨ runs.length < max) →
    ∃ trail, env.Mismatches k body stop trail
  few : runs.length ≤ env.source.size - start.position + 1

/-- From here the body mismatches before it has matched as often as it must. -/
def FallsShort (env : Env) (engine : Engine α) (k : Skipping) (min : Nat) (body : Expr)
    (start : Cursor) : Prop :=
  ∃ runs stop trail, env.Runs engine k body start runs stop ∧ Advances start runs ∧
    runs.length < min ∧ env.Mismatches k body stop trail

/-- The ways of a repetition that matches, after so many runs: it has reached the maximum, or the body
mismatches and the minimum is reached, or it reads nothing, or it reads something and there are more. -/
inductive Loops (env : Env) (engine : Engine α) (k : Skipping) (min max : Nat) (body : Expr) :
    Nat → Cursor → List (α × Cursor) → Cursor → Prop where
  | full {count c} : 0 < max → max ≤ count → Loops env engine k min max body count c [] c
  | enough {count c trail} : min ≤ count → env.Mismatches k body c trail →
      Loops env engine k min max body count c [] c
  | still {count c a d} : (max = 0 ∨ count < max) → env.Yields engine k body c a d →
      d.position = c.position → Loops env engine k min max body count c [(a, d)] d
  | more {count c a d runs stop} : (max = 0 ∨ count < max) → env.Yields engine k body c a d →
      c.position < d.position → Loops env engine k min max body (count + 1) d runs stop →
      Loops env engine k min max body count c ((a, d) :: runs) stop

variable {env : Env} {builder : Builder α} {k : Skipping} {min max count : Nat} {e body : Expr}
  {a : α} {c d start stop : Cursor} {runs : List (α × Cursor)}

/-! ## One run -/

theorem yields_engine_iff :
    env.Yields builder.engine k e start a stop ↔
      ∃ budget t, run budget builder env e ⟨start, k, []⟩ = .done a t ∧ t.cursor = stop :=
  Iff.rfl

theorem Yields.onward (yields : env.Yields builder.engine k e c a d) : c.position ≤ d.position := by
  obtain ⟨budget, t, ran, rfl⟩ := yields_engine_iff.mp yields
  have settles := run_settles budget (rightFor_any builder) env e ⟨c, k, []⟩
  rw [ran] at settles
  exact settles.1.2

theorem Yields.marks (yields : env.Yields builder.engine k e c a d) (marks : c.Marks env.source) :
    d.Marks env.source := by
  obtain ⟨budget, t, ran, rfl⟩ := yields_engine_iff.mp yields
  have fits : State.Fits env k.ignore k.verbatim ⟨c, k, []⟩ := ⟨marks, rfl, fun _ => rfl⟩
  have goes := run_goes fits budget builder e
  rw [ran] at goes
  exact goes.1.marks

theorem advances_nil (c : Cursor) : Advances c ([] : List (α × Cursor)) :=
  .singleton c

theorem advances_cons_iff :
    Advances c ((a, d) :: runs) ↔ c.position < d.position ∧ Advances d runs :=
  List.isChain_cons_cons

/-! ## All runs of a repetition -/

namespace Loops

theorem consecutive (loops : env.Loops builder.engine k min max body count start runs stop) :
    env.Runs builder.engine k body start runs stop := by
  induction loops with
  | full _ _ => exact .nil
  | enough _ _ => exact .nil
  | still _ yields _ => exact .cons yields .nil
  | more _ yields _ _ ih => exact .cons yields ih

theorem onward (loops : env.Loops builder.engine k min max body count start runs stop) :
    (start :: runs.map Prod.snd).IsChain fun c d => c.position ≤ d.position := by
  induction loops with
  | full _ _ => exact .singleton _
  | enough _ _ => exact .singleton _
  | still _ yields _ => exact List.isChain_cons_cons.mpr ⟨yields.onward, .singleton _⟩
  | more _ yields _ _ ih => exact List.isChain_cons_cons.mpr ⟨yields.onward, ih⟩

theorem advances (loops : env.Loops builder.engine k min max body count start runs stop) :
    Advances start runs.dropLast := by
  induction loops with
  | full _ _ => exact advances_nil _
  | enough _ _ => exact advances_nil _
  | still _ _ _ => exact advances_nil _
  | @more _ _ _ _ runs _ _ _ further _ ih =>
    cases runs with
    | nil => exact advances_nil _
    | cons next rest => exact advances_cons_iff.mpr ⟨further, ih⟩

theorem most (loops : env.Loops builder.engine k min max body count start runs stop) (bounded : 0 < max)
    (before : count ≤ max) : count + runs.length ≤ max := by
  induction loops with
  | full _ _ => exact before
  | enough _ _ => exact before
  | still room _ _ => exact room.resolve_left (Nat.ne_of_gt bounded)
  | @more count _ _ _ runs _ room _ _ _ ih =>
    have rest := ih (room.resolve_left (Nat.ne_of_gt bounded))
    rw [List.length_cons]
    omega

theorem least (loops : env.Loops builder.engine k min max body count start runs stop)
    (bounds : max = 0 ∨ min ≤ max) (advances : Advances start runs) :
    min ≤ count + runs.length := by
  induction loops with
  | full bounded reached =>
    exact Nat.le_trans (bounds.resolve_left (Nat.ne_of_gt bounded)) reached
  | enough reached _ => exact reached
  | still _ _ same => exact absurd (advances_cons_iff.mp advances).1 (same ▸ Nat.lt_irrefl _)
  | @more count _ _ _ runs _ _ _ _ _ ih =>
    have rest := ih (advances_cons_iff.mp advances).2
    rw [List.length_cons]
    omega

theorem greedy (loops : env.Loops builder.engine k min max body count start runs stop)
    (advances : Advances start runs) (room : max = 0 ∨ count + runs.length < max) :
    ∃ trail, env.Mismatches k body stop trail := by
  induction loops with
  | full bounded reached =>
    exact absurd (room.resolve_left (Nat.ne_of_gt bounded)) (Nat.not_lt_of_le reached)
  | @enough _ _ trail _ mismatches => exact ⟨trail, mismatches⟩
  | still _ _ same => exact absurd (advances_cons_iff.mp advances).1 (same ▸ Nat.lt_irrefl _)
  | @more count _ _ _ runs _ _ _ _ _ ih =>
    refine ih (advances_cons_iff.mp advances).2 ?_
    rw [List.length_cons] at room
    omega

theorem few (loops : env.Loops builder.engine k min max body count start runs stop)
    (marks : start.Marks env.source) : runs.length ≤ env.source.size - start.position + 1 := by
  induction loops with
  | full _ _ => exact Nat.zero_le _
  | enough _ _ => exact Nat.zero_le _
  | still _ _ _ => exact Nat.le_add_left _ _
  | more _ yields further _ ih =>
    have there := yields.marks marks
    have rest := ih there
    have within := there.within
    rw [List.length_cons]
    omega

/-- All that is said of the runs of a repetition follows from the ways it has. -/
theorem repeats (loops : env.Loops builder.engine k min max body 0 start runs stop)
    (bounds : max = 0 ∨ min ≤ max) (marks : start.Marks env.source) :
    env.Repeats builder.engine k min max body start runs stop where
  consecutive := loops.consecutive
  onward := loops.onward
  advances := loops.advances
  most bounded := by simpa using loops.most bounded (Nat.zero_le _)
  least advances := by simpa using loops.least bounds advances
  greedy advances room := loops.greedy advances (by simpa using room)
  few := loops.few marks

end Loops

/-- Runs that all read something are no more than there are characters ahead. -/
theorem Runs.length_le (consecutive : env.Runs builder.engine k body start runs stop)
    (marks : start.Marks env.source) (advances : Advances start runs) :
    start.position + runs.length ≤ env.source.size := by
  induction consecutive with
  | nil => exact marks.within
  | cons yields _ ih =>
    obtain ⟨further, rest⟩ := advances_cons_iff.mp advances
    have within := ih (yields.marks marks) rest
    rw [List.length_cons]
    omega

end Env

/-! ## The loop -/

section Loop

variable {α : Type} {env : Env} {builder : Builder α} {e : Expr} {s t : State} {budget : Nat} {a : α}

/-- Any run that ends with a value shows that there is one. -/
theorem yields_of_run (ran : run budget builder env e s = .done a t) :
    env.Yields builder.engine s.skipping e s.cursor a t.cursor := by
  have noted := run_after budget builder env e ⟨s.cursor, s.skipping, []⟩ s.log
  obtain ⟨u, bare, rfl⟩ := afterwards_eq_done (noted.symm.trans ran)
  exact ⟨budget, u, bare, rfl⟩

/-- The run goes one of the ways of a repetition on from this cursor, after so many runs of the body with
these values, or it mismatches because the body does so too early. -/
def Run.LoopsFrom (env : Env) (builder : Builder α) (k : Skipping) (min max : Nat) (body : Expr)
    (count : Nat) (values : List α) (c : Cursor) (r : Run (List α)) : Prop :=
  r.Ends
    (fun results t => ∃ runs, results = values.reverse ++ runs.map Prod.fst ∧
      env.Loops builder.engine k min max body count c runs t.cursor)
    fun failure _ => failure.isMismatch = true → ∃ runs stop trail,
      env.Runs builder.engine k body c runs stop ∧ Env.Advances c runs ∧ count + runs.length < min ∧
        env.Mismatches k body stop trail

variable {k : Skipping} {min max count : Nat} {body : Expr} {values : List α} {c d : Cursor}

theorem Run.LoopsFrom.more {r : Run (List α)}
    (rest : r.LoopsFrom env builder k min max body (count + 1) (a :: values) d)
    (room : max = 0 ∨ count < max) (yields : env.Yields builder.engine k body c a d)
    (further : c.position < d.position) :
    r.LoopsFrom env builder k min max body count values c := by
  refine Ends.imp rest ?_ ?_
  · rintro results t ⟨runs, rfl, loops⟩
    exact ⟨(a, d) :: runs, by simp, .more room yields further loops⟩
  · intro failure t short mismatched
    obtain ⟨runs, stop, trail, consecutive, advances, few, fails⟩ := short mismatched
    refine ⟨(a, d) :: runs, stop, trail, .cons yields consecutive,
      Env.advances_cons_iff.mpr ⟨further, advances⟩, ?_, fails⟩
    rw [List.length_cons]
    omega

/-- A mismatch of the body is the end of the loop, one way or the other. -/
theorem loopsFrom_mismatch {trail : Trail} {context : Mismatch} {u : State}
    (mismatches : env.Mismatches k body c trail) (here : t.cursor = c) :
    (if (Failure.mismatch trail).isMismatch = true ∧ min ≤ count then done values.reverse t
      else failed ((Failure.mismatch trail).within context) u).LoopsFrom env builder k min max body
        count values c := by
  split
  · next enough =>
    refine ⟨[], by simp, ?_⟩
    rw [here]
    exact .enough enough.2 mismatches
  · next lacking =>
    intro _
    have few : count < min := Nat.lt_of_not_le fun le => lacking ⟨rfl, le⟩
    exact ⟨[], c, trail, .nil, Env.advances_nil c, few, mismatches⟩

variable (env) (builder) (budget) (k) (min) (max) (body) (pattern : Expr) (start : Cursor)

/-- The loop of a repetition goes one of its ways, or its body mismatches too early. -/
theorem repetition_loops (rounds count : Nat) (values : List α) (s : State) (kept : s.skipping = k) :
    (repetition (run budget builder env body) pattern min max start rounds count values s).LoopsFrom
      env builder k min max body count values s.cursor := by
  -- Each round is one constructor of `Loops`; a fault is none, and neither is a mismatch too early.
  induction rounds generalizing count values s with
  | zero => trivial
  | succ rounds ih =>
    have settles := run_settles budget (rightFor_any builder) env body s
    rw [repetition]
    split
    · next reached => exact ⟨[], by simp, .full reached.1 reached.2⟩
    · next below =>
      have room : max = 0 ∨ count < max := by omega
      cases ran : run budget builder env body s with
      | done a t =>
        have yields := yields_of_run ran
        rw [ran] at settles
        rw [kept] at yields
        dsimp only
        split
        · next same => exact ⟨[(a, t.cursor)], by simp, .still room yields same⟩
        · next differs =>
          have further := Nat.lt_of_le_of_ne settles.1.2 (Ne.symm differs)
          exact (ih (count + 1) (a :: values) t (settles.1.1.trans kept)).more room yields further
      | failed failure t =>
        rw [ran] at settles
        cases failure with
        | mismatch trail =>
          have mismatches := mismatches_of_run ran
          rw [kept] at mismatches
          exact loopsFrom_mismatch mismatches settles.2
        | fault broken =>
          intro mismatched
          cases mismatched
      | exhausted => trivial

end Loop

namespace Steady

variable {α : Type} {env : Env} {ignore exprs : List Expr} {v : Bool} {budget : Nat}
  (steady : Steady env ignore exprs budget) {builder : Builder α} {e : Expr} (listed : e ∈ exprs)
  {s : State} (fits : s.Fits env ignore v)
include steady listed fits

/-- What there is to yield, a run with a steady budget yields. -/
theorem run_of_yields {a : α} {d : Cursor} (yields : env.Yields builder.engine s.skipping e s.cursor a d) :
    ∃ t, run budget builder env e s = .done a t ∧ t.cursor = d := by
  obtain ⟨n, t, ran, rfl⟩ := Env.yields_engine_iff.mp yields
  have bare : State.Fits env ignore v ⟨s.cursor, s.skipping, []⟩ := fits.kept fits.marks rfl
  have same := steady.run_eq listed bare (by rw [ran]; nofun)
  have noted := run_after budget builder env e ⟨s.cursor, s.skipping, []⟩ s.log
  rw [same, ran] at noted
  exact ⟨_, noted, rfl⟩

/-- So it is with mismatches. -/
theorem run_of_mismatches {trail : Trail} (mismatches : env.Mismatches s.skipping e s.cursor trail) :
    ∃ t, run budget builder env e s = .failed (.mismatch trail) t := by
  obtain ⟨n, t, ran⟩ := Env.mismatches_iff.mp mismatches
  have bare : State.Fits env ignore v ⟨s.cursor, s.skipping, []⟩ := fits.kept fits.marks rfl
  have same := steady.run_eq listed bare (by rw [ran]; nofun)
  have forgotten : (run budget builder env e ⟨s.cursor, s.skipping, []⟩).map (fun _ => ()) =
      (run budget .recognizer env e ⟨s.cursor, s.skipping, []⟩).map fun _ => () :=
    run_forget budget builder .recognizer e _
  have noted := run_after budget builder env e ⟨s.cursor, s.skipping, []⟩ s.log
  rw [same, ran] at forgotten
  cases built : run budget builder env e ⟨s.cursor, s.skipping, []⟩ with
  | done a u =>
    rw [built] at forgotten
    cases forgotten
  | failed failure u =>
    rw [built] at forgotten noted
    cases forgotten
    exact ⟨_, noted⟩
  | exhausted =>
    rw [built] at forgotten
    cases forgotten

/-- Where the body mismatches too early, so does the loop. -/
theorem repetition_mismatches {min max : Nat} (bounds : max = 0 ∨ min ≤ max) (pattern : Expr)
    (start stop : Cursor) (trail : Trail) {runs : List (α × Cursor)} {count rounds : Nat}
    (values : List α) (consecutive : env.Runs builder.engine s.skipping e s.cursor runs stop)
    (advances : Env.Advances s.cursor runs) (few : count + runs.length < min)
    (mismatches : env.Mismatches s.skipping e stop trail) (enough : runs.length < rounds) :
    ∃ trail' t, repetition (run budget builder env e) pattern min max start rounds count values s =
      .failed (.mismatch trail') t := by
  induction runs generalizing s count rounds values with
  | nil =>
    obtain ⟨rounds, rfl⟩ := Nat.exists_eq_succ_of_ne_zero (Nat.ne_of_gt enough)
    cases consecutive
    obtain ⟨t, ran⟩ : ∃ t, run budget builder env e s = .failed (.mismatch trail) t :=
      steady.run_of_mismatches listed fits mismatches
    have room : ¬(0 < max ∧ max ≤ count) := by omega
    have lacking : ¬min ≤ count := Nat.not_le_of_lt few
    rw [repetition, if_neg room, ran]
    dsimp only
    rw [if_neg fun both => lacking both.2]
    exact ⟨_, _, rfl⟩
  | cons first runs ih =>
    obtain ⟨rounds, rfl⟩ := Nat.exists_eq_succ_of_ne_zero (Nat.ne_of_gt (Nat.zero_lt_of_lt enough))
    rw [List.length_cons] at few enough
    cases consecutive with
    | cons yields consecutive =>
      obtain ⟨t, ran, rfl⟩ := steady.run_of_yields listed fits yields
      have goes := run_goes fits budget builder e
      have settles := run_settles budget (rightFor_any builder) env e s
      rw [ran] at goes settles
      have kept : t.skipping = s.skipping := settles.1.1
      obtain ⟨further, advances⟩ := Env.advances_cons_iff.mp advances
      have room : ¬(0 < max ∧ max ≤ count) := by omega
      rw [← kept] at consecutive mismatches
      rw [repetition, if_neg room, ran]
      dsimp only
      rw [if_neg (Nat.ne_of_gt further)]
      exact ih goes.1 _ consecutive advances (by omega) mismatches (by omega)

end Steady

/-! ## Repetitions -/

section Repetitions

variable {α : Type} {env : Env} (builder : Builder α) {min max : Nat} (body : Expr) (budget : Nat)
  {s u : State} {ignore exprs : List Expr} {v : Bool} (bounds : max = 0 ∨ min ≤ max)
include bounds

theorem checkBounds_rep (s : State) : checkBounds (.rep min max body) s = done () s := by
  have valid : ¬(0 < max ∧ max < min) := by omega
  rw [checkBounds, Expr.checkBounds, Expr.boundsFault?, if_neg valid]

/-- A repetition that ends, ends with all that its runs yield, or with a mismatch that came too early. -/
theorem run_rep_ends (fits : s.Fits env ignore v) :
    (run (budget + 1) builder env (.rep min max body) s).Ends
      (fun a t => ∃ u, skip budget (run budget .recognizer env) s = .done () u ∧
        ∃ runs, env.Repeats builder.engine s.skipping min max body u.cursor runs t.cursor ∧
          a = builder.gather (runs.map Prod.fst) t.cursor)
      fun failure _ => failure.isMismatch = true →
        ∃ u, skip budget (run budget .recognizer env) s = .done () u ∧
          env.FallsShort builder.engine s.skipping min body u.cursor := by
  have skips := skip_skips (fun e t => run_settles budget rightFor_recognizer env e t) budget s
  have faults := skip_faults (run budget .recognizer env) budget s
  have reached := skip_fits fits budget budget
  rw [run, step]
  cases skipped : skip budget (run budget .recognizer env) s with
  | done _ u =>
    rw [skipped] at skips reached
    have loops := repetition_loops env builder budget s.skipping min max body (.rep min max body)
      u.cursor budget 0 [] u skips.1
    rw [andThen_done, dispatch, checkBounds_rep body bounds, andThen_done]
    refine Ends.orReturnTo (Ends.andThen loops ?_) ?_
    · rintro results t ⟨runs, rfl, loops⟩
      exact ⟨u, rfl, runs, loops.repeats bounds reached.marks, rfl⟩
    · intro failure t short mismatched
      obtain ⟨runs, stop, trail, consecutive, advances, few, fails⟩ := short mismatched
      rw [Nat.zero_add] at few
      exact ⟨u, rfl, runs, stop, trail, consecutive, advances, few, fails⟩
  | failed failure t =>
    -- Skipping itself never mismatches.
    rw [skipped] at faults
    intro mismatched
    rw [faults] at mismatched
    cases mismatched
  | exhausted => trivial

/-- Where the body mismatches too early behind what is skipped, the repetition mismatches. -/
theorem Steady.run_rep_mismatches (steady : Steady env ignore exprs budget)
    (listed : .rep min max body ∈ exprs) (fits : s.Fits env ignore v)
    (skipped : skip budget (run budget .recognizer env) s = .done () u)
    (short : env.FallsShort builder.engine s.skipping min body u.cursor) :
    ∃ trail t, run (budget + 1) builder env (.rep min max body) s = .failed (.mismatch trail) t := by
  have skips := skip_skips (fun e t => run_settles budget rightFor_recognizer env e t) budget s
  have reached := skip_fits fits budget budget
  rw [skipped] at skips reached
  have kept : u.skipping = s.skipping := skips.1
  obtain ⟨runs, stop, trail, consecutive, advances, few, mismatches⟩ := short
  rw [← kept] at consecutive mismatches
  have within := consecutive.length_le reached.marks advances
  have enough : runs.length < budget := by
    have rounds := steady.rounds
    omega
  have lacking : 0 + runs.length < min := by omega
  obtain ⟨trail', t, looped⟩ := steady.repetition_mismatches
    (steady.closed.part listed (List.mem_singleton_self body)) reached bounds (.rep min max body)
    u.cursor stop trail [] consecutive advances lacking mismatches enough
  refine ⟨trail', t.moveTo s.cursor, ?_⟩
  rw [run, step, skipped, andThen_done, dispatch, checkBounds_rep body bounds, andThen_done, looped]
  rfl

end Repetitions

/-! ## Sessions -/

namespace Session

/-- What is ignorable where the session stands reaches up to this cursor. -/
def SkipsUpTo (session : Session) (c : Cursor) : Prop :=
  ∃ budget t, Run.skip budget (Recognition.run budget session.toEnv) session.state = .done () t ∧
    t.cursor = c

theorem skipsUpTo_iff {session : Session} {c : Cursor} :
    session.SkipsUpTo c ↔
      ∃ budget t, Run.skip budget (run budget .recognizer session.toEnv) session.state = .done () t ∧
        t.cursor = c := by
  simp only [SkipsUpTo, Recognition.run_eq]

variable {α : Type} {session : Session} {builder : Builder α} {min max : Nat} {body : Expr}
  (marks : session.cursor.Marks session.source) (bounds : max = 0 ∨ min ≤ max)
include marks bounds

section Answers

variable (builder) {answer : Option (Reply α)}
  (answered : ∀ budget, session.budget (.rep min max body) ≤ budget →
    session.reply? (run budget builder session.toEnv (.rep min max body) session.state) = answer)
include answered

theorem repeats_of_answer {reply : Reply α} {a : α} (replied : answer = some reply)
    (succeeded : reply.outcome = .ok a) :
    ∃ start runs, session.SkipsUpTo start ∧
      session.Repeats builder.engine session.skipping min max body start runs reply.session.cursor ∧
      a = builder.gather (runs.map Prod.fst) reply.session.cursor := by
  let own := session.budget (.rep min max body)
  rw [← answered (own + 1) (Nat.le_succ own)] at replied
  obtain ⟨t, ran, rfl⟩ := done_of_reply? replied succeeded
  have ends := run_rep_ends builder body own bounds (session.state_fits marks)
  rw [ran] at ends
  obtain ⟨u, skipped, runs, repeats, gathered⟩ := ends
  exact ⟨u.cursor, runs, skipsUpTo_iff.mpr ⟨own, u, skipped, rfl⟩, repeats, gathered⟩

/-- A repetition mismatches where its body mismatches too early, and nowhere else. Its own run shows this
one way; the other way takes a budget that is enough for the skipping, too. -/
theorem mismatches_iff_fallsShort :
    (∃ reply trail, answer = some reply ∧ reply.outcome = .error (.mismatch trail)) ↔
      ∃ start, session.SkipsUpTo start ∧
        session.FallsShort builder.engine session.skipping min body start := by
  constructor
  · rintro ⟨reply, trail, replied, failed⟩
    let own := session.budget (.rep min max body)
    rw [← answered (own + 1) (Nat.le_succ own)] at replied
    obtain ⟨t, ran, rfl⟩ := failed_of_reply? replied failed
    have ends := run_rep_ends builder body own bounds (session.state_fits marks)
    rw [ran] at ends
    obtain ⟨u, skipped, short⟩ := ends rfl
    exact ⟨u.cursor, skipsUpTo_iff.mpr ⟨own, u, skipped, rfl⟩, short⟩
  · rintro ⟨start, skips, short⟩
    obtain ⟨budget, u, skipped, rfl⟩ := skipsUpTo_iff.mp skips
    let larger := session.budget (.rep min max body) + budget
    have enough : session.budget (.rep min max body) ≤ larger := Nat.le_add_right _ _
    have more : budget ≤ larger := Nat.le_add_left _ _
    obtain ⟨trail, t, ran⟩ := (session.steady enough).run_rep_mismatches builder body larger bounds
      (session.mem_reachable _ List.mem_cons_self) (session.state_fits marks)
      (skip_mono skipped more more) short
    refine ⟨⟨.error (.mismatch trail), session.leave t, t.log.reverse⟩, trail, ?_, rfl⟩
    rw [← answered (larger + 1) (Nat.le_succ_of_le enough)]
    rw [ran]
    rfl

/-- What need not match at all never mismatches for want of matches. -/
theorem not_mismatches_of_zero (zero : min = 0) {reply : Reply α} {trail : Trail}
    (replied : answer = some reply) : reply.outcome ≠ .error (.mismatch trail) := by
  intro failed
  obtain ⟨_, _, runs, _, _, _, _, few, _⟩ :=
    (mismatches_iff_fallsShort builder marks bounds answered).mp ⟨reply, trail, replied, failed⟩
  exact Nat.not_lt_zero _ (zero ▸ few)

end Answers

end Session

/-- A repetition whose bounds can be met runs its body over and over behind what is skipped in front of it.
If it matches, the cursor is left where the last of the runs ended, whatever the body skipped after that
before it mismatched, and the trees of the runs are joined in order. It mismatches exactly if the body
mismatches when it has not yet matched as often as it must, so never if it need not match at all. -/
theorem repetition_greedy (session : Session) (marks : session.cursor.Marks session.source)
    (min max : Nat) (body : Expr) (bounds : max = 0 ∨ min ≤ max) :
    (∀ reply result, session.parse (.rep min max body) = some reply → reply.outcome = .ok result →
      ∃ start runs, session.SkipsUpTo start ∧
        session.Repeats Parsing.run session.skipping min max body start runs reply.session.cursor ∧
        result = Tree.ofForest ((runs.map Prod.fst).flatMap Tree.contribution)) ∧
    (∀ reply stop, session.recognize (.rep min max body) = some reply → reply.outcome = .ok stop →
      ∃ start runs, session.SkipsUpTo start ∧
        session.Repeats Recognition.run session.skipping min max body start runs
          reply.session.cursor ∧
        stop = reply.session.cursor) ∧
    ((∃ reply trail, session.parse (.rep min max body) = some reply ∧
        reply.outcome = .error (.mismatch trail)) ↔
      ∃ start, session.SkipsUpTo start ∧
        session.FallsShort Parsing.run session.skipping min body start) ∧
    ((∃ reply trail, session.recognize (.rep min max body) = some reply ∧
        reply.outcome = .error (.mismatch trail)) ↔
      ∃ start, session.SkipsUpTo start ∧
        session.FallsShort Recognition.run session.skipping min body start) ∧
    (min = 0 → (∀ reply trail, session.parse (.rep min max body) = some reply →
        reply.outcome ≠ .error (.mismatch trail)) ∧
      ∀ reply trail, session.recognize (.rep min max body) = some reply →
        reply.outcome ≠ .error (.mismatch trail)) := by
  have parsed (budget : Nat) (enough : session.budget (.rep min max body) ≤ budget) :
      session.reply? (run budget .tree session.toEnv (.rep min max body) session.state) =
        session.parse (.rep min max body) := by
    rw [← session.parseWithin_eq, session.parseWithin_of_le marks enough]
  have recognized (budget : Nat) (enough : session.budget (.rep min max body) ≤ budget) :
      session.reply? (run budget .recognizer session.toEnv (.rep min max body) session.state) =
        session.recognize (.rep min max body) := by
    rw [← session.recognizeWithin_eq, session.recognizeWithin_of_le marks enough]
  rw [Parsing.run_eq_engine, Recognition.run_eq_engine]
  refine ⟨?_, ?_, ?_, ?_, fun zero => ⟨?_, ?_⟩⟩
  · exact fun reply result => Session.repeats_of_answer .tree marks bounds parsed
  · exact fun reply stop => Session.repeats_of_answer .recognizer marks bounds recognized
  · exact Session.mismatches_iff_fallsShort .tree marks bounds parsed
  · exact Session.mismatches_iff_fallsShort .recognizer marks bounds recognized
  · exact fun reply trail => Session.not_mismatches_of_zero .tree marks bounds parsed zero
  · exact fun reply trail => Session.not_mismatches_of_zero .recognizer marks bounds recognized zero

/-- The blank is skipped inside a run; at the end of the text there is no further run. -/
theorem sample_repetition : ∃ reply result start runs,
    Session.sample.parse (.rep 2 0 (.capture "c" .any)) = some reply ∧ reply.outcome = .ok result ∧
      Session.sample.SkipsUpTo start ∧
      Session.sample.Repeats Parsing.run Session.sample.skipping 2 0 (.capture "c" .any) start runs
        reply.session.cursor := by
  have answered : (Session.sample.parse (.rep 2 0 (.capture "c" .any))).map
      (fun reply => reply.outcome.toOption.isSome) = some true := by
    decide +kernel
  obtain ⟨⟨outcome, after, log⟩, replied, succeeded⟩ := Option.map_eq_some_iff.mp answered
  cases outcome with
  | error failure => cases succeeded
  | ok result =>
    obtain ⟨start, runs, skips, repeats, _⟩ :=
      (repetition_greedy Session.sample (Cursor.start_marks _) 2 0 (.capture "c" .any)
        (Or.inl rfl)).1 _ result replied rfl
    exact ⟨_, result, start, runs, replied, rfl, skips, repeats⟩

end PegEngine
