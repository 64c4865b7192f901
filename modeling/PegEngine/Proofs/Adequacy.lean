import PegEngine.Proofs.Budget
import PegEngine.Proofs.ReadingComplete

/-! The engine and the relation agree. A match comes out with an outcome exactly if that is how
reading comes out from where the session stands, and is endless exactly if it does not come out at
all. Where only ignorable text may follow, the same holds of the expression with the end behind
it. -/
namespace PegEngine

open Run

section Runs

variable {α : Type} {env : Env} {ignore : List Expr} {v : Bool} {s : State} {o : Outcome}

theorem ne_exhausted_of_outcome? {r : Run α} (came : r.outcome? = some o) : r ≠ .exhausted := by
  rintro rfl
  cases came

/-- Up to the end is what is ignorable and then the end. -/
theorem outcome?_runEnd (budget : Nat) (env : Env) (s : State) :
    (runEnd budget env s).outcome? = (run (budget + 1) .recognizer env .eof s).outcome? := by
  rw [run, step, outcome?_orReturnTo, runEnd]
  cases skip budget (run budget .recognizer env) s with
  | done _ t => exact (outcome?_map _ _).symm
  | failed failure t => rfl
  | exhausted => rfl

/-- A sequence of one item is that item. -/
theorem reads_items_singleton {e : Expr} {p : Nat}
    (reads : Reads env ignore v (.items [e]) p o) : Reads env ignore v (.whole e) p o := by
  cases reads with
  | itemsCons head tail =>
    cases tail with
    | itemsNil => exact head
  | itemsMismatch head => exact head
  | itemsFault head => exact head

variable (fits : s.Fits env ignore v)
include fits

theorem exists_run_iff (builder : Builder α) (e : Expr) :
    (∃ budget, (run budget builder env e s).outcome? = some o) ↔
      Reads env ignore v (.whole e) s.cursor.position o := by
  constructor
  · rintro ⟨budget, came⟩
    exact run_answers budget builder e fits o came
  · intro reads
    obtain ⟨least, attains⟩ := reads.attained
    exact ⟨least, attains least least (Nat.le_refl _) (Nat.le_refl _) α builder s ⟨fits, rfl⟩⟩

theorem runToEnd_answers (budget : Nat) (builder : Builder α) (e : Expr) :
    (runToEnd budget builder env e s).Answers
      (Reads env ignore v (.items [e, .eof]) s.cursor.position) := by
  obtain ⟨goes, answers⟩ := run_finds budget builder e fits
  rw [runToEnd]
  cases ran : run budget builder env e s with
  | done a t =>
    rw [ran] at goes answers
    have head := answers _ rfl
    intro o came
    rw [andThen_done, outcome?_map, outcome?_orReturnTo, outcome?_runEnd] at came
    have last := run_answers (budget + 1) .recognizer .eof goes.1 o came
    cases o with
    | upTo q => exact .itemsCons head (.itemsCons last .itemsNil)
    | mismatch => exact .itemsCons head (.itemsMismatch last)
    | fault broken => exact .itemsCons head (.itemsFault last)
  | failed failure t =>
    rw [ran] at answers
    have head := answers _ rfl
    cases failure with
    | mismatch trail => exact answers_failed (.itemsMismatch head)
    | fault broken => exact answers_failed (.itemsFault head)
  | exhausted => exact answers_exhausted

theorem exists_runToEnd (builder : Builder α) {e : Expr}
    (reads : Reads env ignore v (.items [e, .eof]) s.cursor.position o) :
    ∃ budget, (runToEnd budget builder env e s).outcome? = some o := by
  cases reads with
  | itemsCons head tail =>
    obtain ⟨least, attains⟩ := head.attained.and (reads_items_singleton tail).attained
    have first := (attains least least (Nat.le_refl _) (Nat.le_refl _)).1
    obtain ⟨a, t, ran, there⟩ := first.done builder ⟨fits, rfl⟩
    have last := (attains (least + 1) (least + 1) (Nat.le_succ _) (Nat.le_succ _)).2
    refine ⟨least, ?_⟩
    rw [runToEnd, ran, andThen_done, outcome?_map, outcome?_orReturnTo, outcome?_runEnd]
    exact last Cursor .recognizer t there
  | itemsMismatch head =>
    obtain ⟨budget, came⟩ := (exists_run_iff fits builder e).mpr head
    obtain ⟨trail, t, ran⟩ := eq_mismatch_of_outcome? came
    refine ⟨budget, ?_⟩
    rw [runToEnd, ran]
    rfl
  | itemsFault head =>
    obtain ⟨budget, came⟩ := (exists_run_iff fits builder e).mpr head
    obtain ⟨t, ran⟩ := eq_fault_of_outcome? came
    refine ⟨budget, ?_⟩
    rw [runToEnd, ran]
    rfl

end Runs

/-! ## Sessions -/

namespace Reply

/-- How a reply came out: where the session is left, or why it failed. -/
def reading {α : Type} (reply : Reply α) : Outcome :=
  match reply.outcome with
  | .ok _ => .upTo reply.session.cursor.position
  | .error failure => failure.outcome

/-- How a reply came out by the cursor that it answers. -/
def answered (reply : Reply Cursor) : Outcome :=
  match reply.outcome with
  | .ok stop => .upTo stop.position
  | .error failure => failure.outcome

end Reply

namespace Session

variable {α : Type} (session : Session) (e : Expr) {o : Outcome}

/-- What there is to read from where the session stands comes out this way. -/
def Reads (task : Task) (o : Outcome) : Prop :=
  PegEngine.Reads session.toEnv session.skipping.ignore session.skipping.verbatim task
    session.cursor.position o

theorem reply?_reading (r : Run α) : (session.reply? r).map Reply.reading = r.outcome? := by
  cases r with
  | done a t => rfl
  | failed failure t => rfl
  | exhausted => rfl

/-- A recognizer answers the cursor at which it leaves the session. -/
theorem reply?_answered (budget : Nat) :
    (session.recognizeWithin budget e).map Reply.answered =
      (session.recognizeWithin budget e).map Reply.reading := by
  rw [← session.recognizeWithin_reached budget e, Option.map_map, Option.map_map]
  congr 1
  funext reply
  obtain ⟨outcome, session, log⟩ := reply
  cases outcome with
  | error failure => rfl
  | ok stop => rfl

variable (marks : session.cursor.Marks session.source)
include marks

theorem run_reading_iff (builder : Builder α) :
    (session.reply? (run (session.budget e) builder session.toEnv e session.state)).map
        Reply.reading = some o ↔ session.Reads (.whole e) o := by
  have fits := session.state_fits marks
  rw [reply?_reading]
  constructor
  · intro came
    exact run_answers _ builder e fits o came
  · intro reads
    obtain ⟨budget, came⟩ := (exists_run_iff fits builder e).mpr reads
    rw [session.run_budget e marks builder (ne_exhausted_of_outcome? came)]
    exact came

theorem runToEnd_reading_iff (builder : Builder α) :
    (session.reply? (runToEnd (session.budget e) builder session.toEnv e session.state)).map
        Reply.reading = some o ↔ session.Reads (.items [e, .eof]) o := by
  have fits := session.state_fits marks
  rw [reply?_reading]
  constructor
  · intro came
    exact runToEnd_answers fits _ builder e o came
  · intro reads
    obtain ⟨budget, came⟩ := exists_runToEnd fits builder reads
    rw [session.runToEnd_budget e marks builder (ne_exhausted_of_outcome? came)]
    exact came

theorem recognize_reading_iff :
    (session.recognize e).map Reply.reading = some o ↔ session.Reads (.whole e) o := by
  rw [session.recognize_eq]
  exact session.run_reading_iff e marks .recognizer

end Session

/-- The engine computes what there is to read: a match, with or without a tree, ends with an outcome
exactly if reading the expression from where the session stands comes out that way, and a match up to
the end exactly if reading the expression and then the end does. The cursor that a recognizer answers
is the one at which it leaves the session. -/
theorem matches_iff_reads (session : Session) (marks : session.cursor.Marks session.source)
    (e : Expr) (o : Outcome) :
    ((session.recognize e).map Reply.reading = some o ↔ session.Reads (.whole e) o) ∧
    ((session.parse e).map Reply.reading = some o ↔ session.Reads (.whole e) o) ∧
    ((session.recognizeAll e).map Reply.reading = some o ↔
      session.Reads (.items [e, .eof]) o) ∧
    ((session.parseAll e).map Reply.reading = some o ↔ session.Reads (.items [e, .eof]) o) ∧
    (session.recognize e).map Reply.answered = (session.recognize e).map Reply.reading := by
  refine ⟨?_, ?_, ?_, ?_, session.reply?_answered e _⟩
  · exact session.recognize_reading_iff e marks
  · rw [session.parse_eq]
    exact session.run_reading_iff e marks .tree
  · rw [session.recognizeAll_eq]
    exact session.runToEnd_reading_iff e marks .recognizer
  · rw [session.parseAll_eq]
    exact session.runToEnd_reading_iff e marks .tree

theorem sample_reads :
    Session.sample.Reads (.whole (.seq [.char 'a', .ref "bs"])) (.upTo 4) :=
  have marks : Session.sample.cursor.Marks Session.sample.source := Cursor.start_marks _
  (matches_iff_reads Session.sample marks _ _).1.mp (by decide)

end PegEngine
