import PegEngine.Proofs.Harvest
import PegEngine.Proofs.LineText
import PegEngine.Proofs.Repetition

/-! Line breaks as expressions and as cursors see them. An expression that matches one line break reads just as
far as it takes to be on the next line. So an expression that captures every line break up to the end of a text
captures as many as the cursor there has counted, however carriage returns and line feeds are mixed. -/
namespace PegEngine

open Run

namespace Cursor

/-- The second cursor stands at the start of the line behind that of the first. -/
structure BreaksTo (c d : Cursor) : Prop where
  line : d.line = c.line + 1
  column : d.column = 0
  lineStart : d.lineStart = d.position
  further : c.position < d.position

namespace Canonical

variable {source : Source} {c : Cursor}

theorem character_eq (canonical : c.Canonical source) : c.character = source[c.position]? :=
  congrArg Cursor.character canonical.eq_ofPosition

/-- A character with which a line ends leads to the next line. -/
theorem breaksTo_next (canonical : c.Canonical source) (breaks : source.BreaksAt c.position) :
    c.BreaksTo (c.next source) := by
  obtain ⟨p, rfl⟩ := canonical.exists_position
  have within : p < source.size := by
    by_contra beyond
    have none : source[p]? = none := Array.getElem?_eq_none (Nat.le_of_not_lt beyond)
    simp [Source.BreaksAt, ofPosition, none] at breaks
  rw [next_ofPosition within]
  exact
    { line := Source.lineNumber_succ_of_breaks breaks
      column := (congrArg (p + 1 - ·) (Source.lineStart_succ_of_breaks breaks)).trans (Nat.sub_self _)
      lineStart := Source.lineStart_succ_of_breaks breaks
      further := Nat.lt_succ_self p }

/-- Any other character leads on along the line. -/
theorem line_next (canonical : c.Canonical source) (unbroken : ¬source.BreaksAt c.position) :
    (c.next source).line = c.line := by
  cases here : c.character with
  | none => rw [next_eq_self here]
  | some a =>
    obtain ⟨p, rfl⟩ := canonical.exists_position
    obtain ⟨within, -⟩ := Array.getElem?_eq_some_iff.mp here
    rw [next_ofPosition within]
    exact Source.lineNumber_succ_of_not_breaks unbroken

end Canonical

end Cursor

/-! ## One line break -/

section OneBreak

variable {source : Source} {s : State} (canonical : s.cursor.Canonical source) (pattern : Expr)
include canonical

/-- A line break is read up to the start of the next line, or none begins here. -/
theorem lineBreak_cases :
    (∃ d : Cursor, lineBreak source pattern s = .done d (s.moveTo d) ∧ d.Canonical source ∧
      s.cursor.BreaksTo d) ∨
    lineBreak source pattern s = s.mismatch pattern ∧ ¬source.BreaksAt s.cursor.position := by
  have further := canonical.next
  rw [lineBreak]
  by_cases feed : s.cursor.character = some '\n'
  · have breaks : source.BreaksAt s.cursor.position := Or.inl (canonical.character_eq ▸ feed)
    rw [if_pos feed]
    exact Or.inl ⟨_, rfl, further, canonical.breaksTo_next breaks⟩
  · by_cases carriage : s.cursor.character = some '\r'
    · have behind : (s.cursor.next source).position = s.cursor.position + 1 := Cursor.next_position carriage
      have here : source[s.cursor.position]? = some '\r' := canonical.character_eq ▸ carriage
      rw [if_neg feed, if_pos carriage, State.next_cursor, further.character_eq, behind]
      by_cases both : source[s.cursor.position + 1]? = some '\n'
      · -- The carriage return alone breaks no line here, the line feed behind it does.
        have unbroken : ¬source.BreaksAt s.cursor.position := by simp [Source.BreaksAt, here, both]
        have breaks : source.BreaksAt (s.cursor.next source).position := by
          rw [behind]
          exact Or.inl both
        have last := further.breaksTo_next breaks
        have line := last.line
        rw [canonical.line_next unbroken] at line
        have before : s.cursor.position < (s.cursor.next source).position := behind ▸ Nat.lt_succ_self _
        rw [if_pos both]
        exact Or.inl ⟨_, rfl, further.next,
          ⟨line, last.column, last.lineStart, Nat.lt_trans before last.further⟩⟩
      · rw [if_neg both]
        exact Or.inl ⟨_, rfl, further, canonical.breaksTo_next (Or.inr ⟨here, both⟩)⟩
    · have unbroken : ¬source.BreaksAt s.cursor.position := by
        rintro (same | ⟨same, _⟩)
        · exact feed (canonical.character_eq.trans same)
        · exact carriage (canonical.character_eq.trans same)
      rw [if_neg feed, if_neg carriage]
      exact Or.inr ⟨rfl, unbroken⟩

end OneBreak

/-! ## All line breaks -/

/-- One line break, captured, or any other character. -/
def Expr.breakOrAny : Expr :=
  .choice [.capture "eol" .eol, .any]

/-- As many line breaks are named as lines lie between the cursors, and nothing else. -/
def CountsBreaks (names : List String) (c d : Cursor) : Prop :=
  ∃ count, names = List.replicate count "eol" ∧ d.line = c.line + count

namespace CountsBreaks

variable {names names' : List String} {c d e : Cursor}

theorem nil (same : d.line = c.line) : CountsBreaks [] c d :=
  ⟨0, rfl, same⟩

theorem append (first : CountsBreaks names c d) (second : CountsBreaks names' d e) :
    CountsBreaks (names ++ names') c e := by
  obtain ⟨m, rfl, line⟩ := first
  obtain ⟨n, rfl, line'⟩ := second
  exact ⟨m + n, List.replicate_append_replicate, by rw [line', line, Nat.add_assoc]⟩

theorem count_eq (counts : CountsBreaks names c d) : c.line + names.count "eol" = d.line := by
  obtain ⟨m, rfl, line⟩ := counts
  rw [List.count_replicate_self, line]

end CountsBreaks

section Unskipped

variable {env : Env} {s : State} (off : s.skipping.active = false)
include off

/-- Where nothing is skipped, an expression does what it says. -/
theorem run_inactive {α : Type} (builder : Builder α) (budget : Nat) (e : Expr) :
    run (budget + 1) builder env e s =
      (dispatch builder budget (run budget .recognizer env) (run budget builder env) env e
        s).orReturnTo s.cursor := by
  rw [run, step, skip, if_neg (Bool.eq_false_iff.mp off), andThen_done]

variable (canonical : s.cursor.Canonical env.source)
include canonical

/-- One round reads one break and names it, or reads one other character, or is at the end. -/
theorem run_breakOrAny (budget : Nat) :
    (∃ result d, run (budget + 3) .tree env .breakOrAny s = .done result (s.moveTo d) ∧
      d.Canonical env.source ∧ s.cursor.position < d.position ∧
      CountsBreaks (Tree.names result.toList) s.cursor d) ∨
    ∃ trail, run (budget + 3) .tree env .breakOrAny s = .failed (.mismatch trail) s ∧
      s.cursor.position = env.source.size := by
  rw [run_inactive off, Expr.breakOrAny, dispatch, firstOf, run_inactive off, dispatch, run_inactive off,
    dispatch]
  rcases lineBreak_cases canonical .eol with ⟨d, ran, reached, breaks⟩ | ⟨ran, unbroken⟩
  · refine Or.inl ⟨_, d, by rw [ran]; rfl, reached, breaks.further, 1, ?_, breaks.line⟩
    exact Tree.names_leaf _ _
  · rw [ran]
    dsimp only [State.mismatch, Failure.ofMismatch, map_failed, orReturnTo_failed, andThen_failed,
      State.moveTo_self]
    rw [firstOf, run_inactive off, dispatch, oneOf]
    cases here : s.cursor.character with
    | none => exact Or.inr ⟨_, rfl, canonical.character_eq_none_iff.mp here⟩
    | some a =>
      refine Or.inl ⟨none, _, rfl, canonical.next, ?_, .nil (canonical.line_next unbroken)⟩
      rw [Cursor.next_position here]
      exact Nat.lt_succ_self _

/-- So the rounds go on to the end, and name all breaks on the way. -/
theorem repetition_breaks (budget : Nat) (pattern : Expr) (start : Cursor) {rounds : Nat} (count : Nat)
    (values : List (Option Tree)) (enough : env.source.size - s.cursor.position < rounds) :
    ∃ results d, repetition (run (budget + 3) .tree env .breakOrAny) pattern 0 0 start rounds count values s =
        .done (values.reverse ++ results) (s.moveTo d) ∧
      d.Canonical env.source ∧ d.position = env.source.size ∧
      CountsBreaks (results.flatMap fun result => Tree.names result.toList) s.cursor d := by
  induction rounds generalizing s count values with
  | zero => exact absurd enough (Nat.not_lt_zero _)
  | succ rounds ih =>
    rw [repetition, if_neg (fun full => Nat.lt_irrefl 0 full.1)]
    rcases run_breakOrAny off canonical budget with ⟨result, d, ran, reached, further, counts⟩ | ⟨trail, ran, atEnd⟩
    · have within := reached.within
      obtain ⟨results, last, rest, ended, stops, more⟩ :=
        ih (s := s.moveTo d) off reached (count + 1) (result :: values)
          (by rw [State.moveTo_cursor]; omega)
      refine ⟨result :: results, last, ?_, ended, stops, ?_⟩
      · rw [ran]
        dsimp only
        rw [State.moveTo_cursor, if_neg (Nat.ne_of_gt further), rest, List.reverse_cons, List.append_assoc]
        rfl
      · rw [List.flatMap_cons]
        exact counts.append more
    · refine ⟨[], s.cursor, ?_, canonical, atEnd, .nil rfl⟩
      rw [ran, List.append_nil]
      exact if_pos ⟨rfl, Nat.zero_le _⟩

/-- The whole run ends at the end and answers a tree that names as many breaks as lines were passed. -/
theorem run_star_breakOrAny {budget : Nat} (enough : env.source.size < budget + 3) :
    ∃ result d, run (budget + 4) .tree env (.star .breakOrAny) s = .done result (s.moveTo d) ∧
      d.position = env.source.size ∧ CountsBreaks (Tree.names result.toList) s.cursor d := by
  obtain ⟨results, d, ran, _, stops, counts⟩ :=
    repetition_breaks off canonical budget (.star .breakOrAny) s.cursor 0 []
      (Nat.lt_of_le_of_lt (Nat.sub_le _ _) enough)
  refine ⟨Tree.gather results, d, ?_, stops, ?_⟩
  · rw [run_inactive off, Expr.star, dispatch, checkBounds_rep _ (Or.inl rfl), andThen_done]
    rw [Expr.star] at ran
    rw [ran]
    rfl
  · rwa [Tree.names_gather]

end Unskipped

/-- A session gives itself more budget than there are characters. -/
theorem Session.size_add_le_budget (session : Session) (e : Expr) :
    session.source.size + 4 ≤ session.budget e := by
  have positive : 0 < 2 * (e.size + Expr.sizeAll session.exprs) * (session.source.size + 1) :=
    Nat.mul_pos (Nat.mul_pos Nat.two_pos (Nat.add_pos_left e.size_pos _)) (Nat.succ_pos _)
  rw [budget]
  omega

/-- Where nothing is skipped, an expression that matches one line break ends at the start of the next line. And one
that captures every line break on its way through the text comes to the end and captures as many as lines are
passed, which from the start of the text is the number of the last line. -/
theorem breaks_agree (session : Session) (canonical : session.cursor.Canonical session.source)
    (off : session.skipping.active = false) :
    (∀ reply stop, session.recognize .eol = some reply → reply.outcome = .ok stop →
      stop.line = session.cursor.line + 1 ∧ stop.column = 0 ∧ stop.lineStart = stop.position) ∧
    ∃ reply result, session.parse (.star (.choice [.capture "eol" .eol, .any])) = some reply ∧
      reply.outcome = .ok result ∧ reply.session.cursor.position = session.source.size ∧
      session.cursor.line + (Tree.names result.toList).count "eol" = reply.session.cursor.line ∧
      (session.cursor = .start session.source →
        (Tree.names result.toList).count "eol" = reply.session.cursor.line) := by
  constructor
  · intro reply stop replied succeeded
    rw [session.recognize_eq] at replied
    obtain ⟨t, ran, _⟩ := Session.done_of_reply? replied succeeded
    rw [Session.budget, run_inactive off, dispatch] at ran
    have there : session.state.cursor.Canonical session.source := canonical
    rcases lineBreak_cases there .eol with ⟨d, broke, _, breaks⟩ | ⟨mismatched, _⟩
    · rw [broke] at ran
      cases ran
      exact ⟨breaks.line, breaks.column, breaks.lineStart⟩
    · rw [mismatched] at ran
      cases ran
  · obtain ⟨budget, large⟩ := Nat.exists_eq_add_of_le'
      (Nat.le_trans (Nat.le_add_left 4 _) (session.size_add_le_budget (.star .breakOrAny)))
    have enough : session.source.size < budget + 3 := by
      have most := session.size_add_le_budget (.star .breakOrAny)
      omega
    have there : session.state.cursor.Canonical session.source := canonical
    obtain ⟨result, d, ran, ended, counts⟩ := run_star_breakOrAny off there enough
    refine ⟨⟨.ok result, session.jump d, []⟩, result, ?_, rfl, ended, counts.count_eq, fun start => ?_⟩
    · rw [← large] at ran
      rw [session.parse_eq]
      exact congrArg session.reply? ran
    · have line := counts.count_eq
      have first : session.state.cursor.line = 0 := congrArg Cursor.line start
      rwa [first, Nat.zero_add] at line

/-- A session at the start of a text in which line feeds and carriage returns follow each other in several ways. -/
def Session.sampleBreaks : Session where
  source := #['\r', '\r', '\n', 'a', '\n', '\r']
  definitions := .empty
  skipping := ⟨[], false⟩
  cursor := .start #['\r', '\r', '\n', 'a', '\n', '\r']

/-- The first break is a carriage return alone, the second one has both characters. -/
theorem sampleBreaks_agree :
    (∃ reply stop, Session.sampleBreaks.recognize .eol = some reply ∧ reply.outcome = .ok stop ∧
      stop.line = 1) ∧
    ∃ reply result, Session.sampleBreaks.parse (.star (.choice [.capture "eol" .eol, .any])) = some reply ∧
      reply.outcome = .ok result ∧ reply.session.cursor.position = 6 ∧
      (Tree.names result.toList).count "eol" = reply.session.cursor.line := by
  have canonical : Session.sampleBreaks.cursor.Canonical Session.sampleBreaks.source :=
    Cursor.start_canonical _
  have answered : (Session.sampleBreaks.recognize .eol).map (fun reply => reply.outcome.toOption) =
      some (some ⟨some '\r', 1, 1, 0, 1⟩) := by
    decide
  obtain ⟨single, reply, result, parsed, succeeded, ended, _, counted⟩ :=
    breaks_agree Session.sampleBreaks canonical rfl
  refine ⟨?_, reply, result, parsed, succeeded, ended, counted rfl⟩
  obtain ⟨⟨outcome, after, log⟩, replied, shown⟩ := Option.map_eq_some_iff.mp answered
  cases outcome with
  | error failure => cases shown
  | ok stop => exact ⟨_, stop, replied, rfl, (single _ stop replied rfl).1⟩

end PegEngine
