import PegEngine.Proofs.Mirroring

/-! Captures do not show in what is recognized. A capture skips what is ignorable before it turns to its body, and
the body skips again; nothing is left to skip by then, so a run and one without that level of nesting end alike.
One engine is followed by the other with a steady budget, in which levels that only the first one has cost nothing;
that is done both ways, since neither engine has fewer captures than the other everywhere. -/
namespace PegEngine

open Run Likeness

variable {α : Type} {env : Env} {ignore : List Expr} {s : State}

/-! ## Captures and what they capture -/

namespace Steady

variable {exprs : List Expr} {budget : Nat} (steady : Steady env ignore exprs budget)
  {v : Bool}
include steady

/-- It makes no difference to an expression if what is ignorable has been skipped before. -/
theorem skip_first (builder : Builder α) {e : Expr} (listed : e ∈ exprs) (fits : s.Fits env ignore v) :
    (run budget builder env e s).Concur Eq Eq
      (((skip budget (run budget .recognizer env) s).andThen fun _ t =>
        run budget builder env e t).orReturnTo s.cursor) := by
  cases skipped : skip budget (run budget .recognizer env) s with
  | done _ t => exact steady.run_skipped builder listed fits skipped
  | failed why t =>
    rw [steady.run_eq_step listed fits, step, skipped]
    exact .refl _
  | exhausted =>
    rw [steady.run_eq_step listed fits, step, skipped]
    exact .refl _

/-- A capture is recognized as what it captures. -/
theorem run_capture {name : String} {body : Expr} (listed : .capture name body ∈ exprs)
    (fits : s.Fits env ignore v) :
    (run budget .recognizer env (.capture name body) s).Concur Eq Eq
      (run budget .recognizer env body s) := by
  have bodyListed : body ∈ exprs := steady.closed.part listed (List.mem_singleton_self body)
  refine steady.run_concur .recognizer listed fits .recognizer bodyListed (fun _ => rfl)
    fun t fits' _ settled => ?_
  rw [dispatch_capture]
  exact steady.run_settled .recognizer bodyListed fits' settled

/-- An expression is recognized as what is below the captures around it. -/
theorem run_core {e : Expr} (listed : e ∈ exprs) (fits : s.Fits env ignore v) :
    e.core ∈ exprs ∧
      (run budget .recognizer env e s).Concur Eq Eq (run budget .recognizer env e.core s) := by
  cases e with
  | capture name body =>
    have bodyListed : body ∈ exprs := steady.closed.part listed (List.mem_singleton_self body)
    obtain ⟨coreListed, concur⟩ := run_core bodyListed fits
    refine ⟨coreListed, (steady.run_capture listed fits).trans concur ?_ ?_⟩
    · exact fun _ _ _ => Eq.trans
    · exact fun _ _ _ => Eq.trans
  | _ => exact ⟨listed, .refl _⟩

end Steady

/-! ## Whole runs -/

section Whole

variable {left : Env} (engines : left.Akin env) {exprs : List Expr} {budget n : Nat}
  (steady : Steady env ignore exprs budget) (enough : n ≤ budget)
include engines steady enough

/-- Whatever ends in the one engine ends alike in the other, which has a steady budget. The induction is on
the budget of the first run, of which a capture takes up one level; the second run stays where it is then. -/
theorem run_mirrored :
    Mirrors env ignore exprs (run n .recognizer left) (run budget .recognizer env) := by
  induction n with
  | zero => exact fun _ _ _ _ _ _ _ => .exhausted
  | succ n ih =>
    have less : n ≤ budget := Nat.le_of_succ_le enough
    intro e f akin listed s s' states
    obtain ⟨v, fits⟩ := states.fits
    rcases e.capture_or_core with ⟨name, body, rfl⟩ | bare
    · refine Mirrored.concur ?_ (steady.skip_first .recognizer listed fits).symm
      rw [run, step, ← states.cursor]
      refine Mirrored.orReturnTo ?_ states.marks
      refine (skip_mirrored (ih less) steady.closed.ignorable less states).andThen
        fun _ t t' here => ?_
      have bodyAkin : body.Akin f := akin
      rw [dispatch_capture]
      exact ih less bodyAkin listed here
    · obtain ⟨coreListed, concur⟩ := steady.run_core listed fits
      have shaped := Expr.shaped_of_akin akin
      rw [bare] at shaped
      refine Mirrored.concur ?_ concur.symm
      rw [run, steady.run_eq_step coreListed fits]
      exact step_mirrored engines (ih less) steady.closed
        (fun g t => run_settles n (rightFor_any _) left g t)
        (fun g t => run_settles budget (rightFor_any _) env g t) less
        (akin.trans f.core_akin.symm) shaped coreListed states

theorem runToEnd_mirrored :
    Mirrors env ignore exprs (runToEnd n .recognizer left) (runToEnd budget .recognizer env) := by
  intro e f akin listed s s' states
  have runs := run_mirrored engines steady enough
  rw [runToEnd, runToEnd, ← states.cursor]
  refine (runs akin listed states).andThen fun stop t t' here => ?_
  refine (Mirrored.orReturnTo ?_ states.marks).map _
  exact (skip_mirrored runs steady.closed.ignorable enough here).andThen
    fun _ u u' there => atEnd_mirrored there .eof

end Whole

/-! ## Replies -/

namespace Session

variable {session session' : Session} (same : session.uncaptured = session'.uncaptured)
  (marks : session.cursor.Marks session.source)
include same

theorem engines_akin : session.toEnv.Akin session'.toEnv where
  source := congrArg (·.source) same
  definitions := congrArg (·.definitions) same

/-- Runs that mirror each other give replies that differ in captures only. -/
theorem reply?_akin {r r' : Run α} (forth : r.Mirrored session'.toEnv session'.skipping.ignore r')
    (back : r'.Mirrored session.toEnv session.skipping.ignore r) :
    Option.Rel Reply.Akin (session.reply? r) (session'.reply? r') := by
  have leaves {s s' : State} (cursor : s.cursor = s'.cursor)
      (skipping : s.skipping.uncaptured = s'.skipping.uncaptured) :
      (session.leave s).uncaptured = (session'.leave s').uncaptured := by
    change { session.uncaptured with cursor := s.cursor, skipping := s.skipping.uncaptured } =
      { session'.uncaptured with cursor := s'.cursor, skipping := s'.skipping.uncaptured }
    rw [same, cursor, skipping]
  cases forth with
  | done states => exact .some ⟨rfl, leaves states.cursor states.skipping⟩
  | failed failures states =>
    exact .some ⟨congrArg Except.error failures.uncaptured_eq,
      leaves states.cursor states.skipping⟩
  | exhausted =>
    cases back
    exact .none

include marks

theorem marks_of_same : session'.cursor.Marks session'.source := by
  have cursor : session.cursor = session'.cursor := congrArg (·.cursor) same
  rw [← cursor, ← (engines_akin same).source]
  exact marks

theorem state_mirrored :
    session.state.Mirrored session'.toEnv session'.skipping.ignore session'.state where
  cursor := congrArg (·.cursor) same
  skipping := congrArg (·.skipping) same
  fits := ⟨_, session'.state_fits (marks_of_same same marks)⟩

/-- With one budget for both, at least what the second session gives itself, the second run mirrors the first. -/
theorem runs_mirrored {e f : Expr} (akin : e.Akin f) {budget : Nat}
    (enough : session'.budget f ≤ budget) :
    (run budget .recognizer session.toEnv e session.state).Mirrored session'.toEnv
        session'.skipping.ignore (run budget .recognizer session'.toEnv f session'.state) ∧
      (runToEnd budget .recognizer session.toEnv e session.state).Mirrored session'.toEnv
        session'.skipping.ignore (runToEnd budget .recognizer session'.toEnv f session'.state) := by
  have steady := session'.steady enough
  have listed := session'.mem_reachable f List.mem_cons_self
  have states := state_mirrored same marks
  exact ⟨run_mirrored (engines_akin same) steady (Nat.le_refl budget) akin listed states,
    runToEnd_mirrored (engines_akin same) steady (Nat.le_refl budget) akin listed states⟩

/-- Sessions that differ in captures only recognize alike what differs in captures only. -/
theorem recognizes_akin {e f : Expr} (akin : e.Akin f) :
    Option.Rel Reply.Akin (session.recognize e) (session'.recognize f) ∧
      Option.Rel Reply.Akin (session.recognizeAll e) (session'.recognizeAll f) := by
  have marks' := marks_of_same same marks
  -- Each session has a budget of its own; with the larger of the two both answer as they do.
  have left := Nat.le_max_left (session.budget e) (session'.budget f)
  have right := Nat.le_max_right (session.budget e) (session'.budget f)
  obtain ⟨forth, forthToEnd⟩ := runs_mirrored same marks akin right
  obtain ⟨back, backToEnd⟩ := runs_mirrored same.symm marks' akin.symm left
  rw [← recognizeWithin_of_le session marks left, ← recognizeWithin_of_le session' marks' right,
    ← recognizeAllWithin_of_le session marks left, ← recognizeAllWithin_of_le session' marks' right,
    recognizeWithin_eq, recognizeWithin_eq, recognizeAllWithin_eq, recognizeAllWithin_eq]
  exact ⟨reply?_akin same forth back, reply?_akin same forthToEnd backToEnd⟩

end Session

/-- Captures do not show in what is recognized. With every capture replaced by what it captures, in the
expression, in the definitions and in what is skipped, a match ends at the same cursor, or fails for the same
kind of reason: a trail has the same mismatches between the same cursors, but for the captures in their patterns,
and a fault names the same. So does a match up to the end of the text, and neither ends where the other does
not. -/
theorem captures_inert (session : Session) (marks : session.cursor.Marks session.source) (e : Expr) :
    Option.Rel Reply.Akin (session.recognize e) (session.uncaptured.recognize e.uncaptured) ∧
      Option.Rel Reply.Akin (session.recognizeAll e)
        (session.uncaptured.recognizeAll e.uncaptured) :=
  Session.recognizes_akin session.uncaptured_uncaptured.symm marks e.akin_uncaptured

/-- A session with captures in what it defines and in what it skips. -/
def Session.sampleCaptures : Session where
  source := #['a', ' ', 'b']
  definitions := ⟨[("b", .capture "b" (.char 'b'))], List.pairwise_singleton _ _⟩
  skipping := ⟨[.capture "blank" (.char ' ')], false⟩
  cursor := .start #['a', ' ', 'b']

/-- Nothing is left for the third item, and the trail says so alike with captures and without. -/
theorem sampleCaptures_inert : ∃ reply reply',
    Session.sampleCaptures.recognize (.seq [.capture "a" (.char 'a'), .ref "b", .capture "c" .any]) =
        some reply ∧
      Session.sampleCaptures.uncaptured.recognize (.seq [.char 'a', .ref "b", .any]) = some reply' ∧
      reply.outcome.toOption = none ∧ reply.Akin reply' := by
  have marks : Session.sampleCaptures.cursor.Marks Session.sampleCaptures.source :=
    ⟨by decide, rfl⟩
  have answered : (Session.sampleCaptures.recognize
      (.seq [.capture "a" (.char 'a'), .ref "b", .capture "c" .any])).map (·.outcome.toOption) =
      some none := by
    decide
  obtain ⟨reply, replied, failed⟩ := Option.map_eq_some_iff.mp answered
  have akin : Option.Rel Reply.Akin _
      (Session.sampleCaptures.uncaptured.recognize (.seq [.char 'a', .ref "b", .any])) :=
    (captures_inert Session.sampleCaptures marks
      (.seq [.capture "a" (.char 'a'), .ref "b", .capture "c" .any])).1
  rw [replied] at akin
  cases replied' : Session.sampleCaptures.uncaptured.recognize (.seq [.char 'a', .ref "b", .any]) with
  | none =>
    rw [replied'] at akin
    cases akin
  | some reply' =>
    rw [replied'] at akin
    cases akin with
    | some alike => exact ⟨reply, reply', replied, rfl, failed, alike⟩

end PegEngine
