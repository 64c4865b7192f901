import PegEngine.Failure.Report
import PegEngine.Proofs.Dialogue
import PegEngine.Proofs.Shift

/-! Cursors of other texts. A failure may be shown over a text that its cursors do not come from: they may stand beyond
its end, and their lines may begin there. All that is known of such a cursor is that its line does not begin behind
it. That is enough for the line that is shown to be a slice of the text, and the spans that a report marks lie one
behind the other whatever the cursors are. -/
namespace PegEngine

/-! ## Cursors met anywhere -/

namespace Cursor

/-- The cursors that can be met: those before the first character of some text, and those one character further in
some text, whether or not the cursor read there before. -/
inductive Met : Cursor → Prop where
  | start (source : Source) : Met (start source)
  | next (source : Source) {c : Cursor} (met : Met c) : Met (c.next source)

namespace Met

variable {source : Source} {c : Cursor}

/-- A line begins where its last break ends, in the text that was read then. So it does not begin behind the cursor. -/
theorem lineStart_le (met : c.Met) : c.lineStart ≤ c.position := by
  induction met with
  | start source => exact Nat.le_refl 0
  | @next source c met ih =>
    rw [Cursor.next]
    split
    · exact ih
    · dsimp only
      split
      · exact Nat.le_refl _
      · exact Nat.le_succ_of_le ih

theorem ofPosition {position : Nat} (within : position ≤ source.size) : (ofPosition source position).Met := by
  induction position with
  | zero => exact .start source
  | succ position ih =>
    rw [← next_ofPosition within]
    exact .next source (ih (Nat.le_of_lt within))

end Met

/-- Every cursor of a text can be met. -/
theorem Canonical.met {source : Source} {c : Cursor} (canonical : c.Canonical source) : c.Met := by
  rw [canonical.eq_ofPosition]
  exact .ofPosition canonical.within

end Cursor

/-! ## Lines -/

namespace Source

variable {source : Source} {offset : Nat}

/-- The line that is shown for a cursor is cut out of the text. -/
structure CutsLineAt (source : Source) (c : Cursor) : Prop where
  ordered : (source.lineSpan c).start ≤ (source.lineSpan c).stop
  within : (source.lineSpan c).stop ≤ source.size
  /-- The cut ends at the first line end from the cursor on, as far behind the cursor as it is found, or at the end of
  the text. -/
  stop_eq : (source.lineSpan c).stop =
    match (source.ahead (min c.position source.size)).findIdx? isLineEnd with
    | some further => c.position + further
    | none => source.size
  /-- No character of the cut is missing. -/
  length_eq : (source.lineAt c).length = (source.lineSpan c).length

theorem lineEndFrom_eq (source : Source) (offset : Nat) :
    source.lineEndFrom offset = offset + (source.ahead offset).findIdx isLineEnd := by
  have within : (source.ahead offset).findIdx isLineEnd ≤ (source.ahead offset).length := List.findIdx_le_length
  have length : ((source.ahead offset).takeWhile (!isLineEnd ·)).length = (source.ahead offset).findIdx isLineEnd := by
    rw [List.takeWhile_eq_take_findIdx_not, List.length_take]
    simpa using within
  exact congrArg (offset + ·) length

theorem lineEndFrom_le (within : offset ≤ source.size) : source.lineEndFrom offset ≤ source.size := by
  have found : (source.ahead offset).findIdx isLineEnd ≤ (source.ahead offset).length := List.findIdx_le_length
  rw [length_ahead] at found
  rw [lineEndFrom_eq]
  omega

/-- A line end is found in front of the end of the text, so there the cursor has not been moved. -/
theorem lineEndFrom_min (source : Source) (position : Nat) :
    source.lineEndFrom (min position source.size) =
      match (source.ahead (min position source.size)).findIdx? isLineEnd with
      | some further => position + further
      | none => source.size := by
  have length := source.length_ahead (min position source.size)
  rw [lineEndFrom_eq]
  cases sought : (source.ahead (min position source.size)).findIdx? isLineEnd with
  | some further =>
    obtain ⟨inside, found⟩ := List.findIdx?_eq_some_iff_findIdx_eq.mp sought
    rw [found, Nat.min_eq_left (by omega)]
  | none =>
    have missing := List.findIdx_eq_length.mpr (List.findIdx?_eq_none_iff.mp sought)
    dsimp only
    omega

/-- It is enough that the line does not begin behind the cursor. -/
theorem cutsLineAt {c : Cursor} (begins : c.lineStart ≤ c.position) : source.CutsLineAt c := by
  have clamped : min c.position source.size ≤ source.size := Nat.min_le_right _ _
  have start : (source.lineSpan c).start = min c.lineStart source.size := rfl
  have stop : (source.lineSpan c).stop = source.lineEndFrom (min c.position source.size) := rfl
  have ordered : (source.lineSpan c).start ≤ (source.lineSpan c).stop := by
    rw [start, stop, lineEndFrom_eq]
    omega
  have within : (source.lineSpan c).stop ≤ source.size := stop ▸ lineEndFrom_le clamped
  refine ⟨ordered, within, lineEndFrom_min source c.position, ?_⟩
  rw [lineAt, text_eq_take_ahead, String.length_ofList, List.length_take, length_ahead, Span.length]
  omega

end Source

/-! ## Reports -/

/-- No position lies in both spans. -/
def Span.Apart (a b : Span) : Prop :=
  ∀ i, a.start ≤ i → i < a.stop → b.start ≤ i → b.stop ≤ i

namespace Mismatch

/-- The failed span and the span in front of it, if there is one, are as a report on the mismatch has to mark them. -/
structure MarksFit (source : Source) (mismatch : Mismatch) (failed : Span) (matched? : Option Span) : Prop where
  begins : failed.start = mismatch.stop.position
  ends : failed.stop = mismatch.stop.position ∨ failed.stop = mismatch.stop.position + 1
  empty_iff : failed.start = failed.stop ↔ source.size ≤ mismatch.stop.position
  matched_iff : matched?.isSome = true ↔ mismatch.start.position < mismatch.stop.position
  meets : ∀ matched ∈ matched?, matched.start = mismatch.start.position ∧ matched.stop = failed.start
  ordered : ∀ span ∈ failed :: matched?.toList, span.start ≤ span.stop
  apart : (failed :: matched?.toList).Pairwise Span.Apart

variable (source : Source) (mismatch : Mismatch)

theorem matchedSpan?_eq_some_iff {span : Span} : mismatch.matchedSpan? = some span ↔
    mismatch.start.position < mismatch.stop.position ∧
      span = ⟨mismatch.start.position, mismatch.stop.position⟩ := by
  rw [matchedSpan?, Option.ite_none_right_eq_some, Option.some.injEq, eq_comm (a := span)]

theorem marksFit : mismatch.MarksFit source (mismatch.failedSpan source) mismatch.matchedSpan? := by
  have start : (mismatch.failedSpan source).start = mismatch.stop.position := rfl
  have stop : (mismatch.failedSpan source).stop =
      max mismatch.stop.position (min (mismatch.stop.position + 1) source.size) := rfl
  have meets : ∀ matched ∈ mismatch.matchedSpan?,
      matched.start = mismatch.start.position ∧ matched.stop = mismatch.stop.position := by
    intro matched here
    obtain ⟨_, rfl⟩ := (matchedSpan?_eq_some_iff mismatch).mp here
    exact ⟨rfl, rfl⟩
  refine ⟨start, by omega, by omega, ?_, meets, ?_, ?_⟩
  · rw [Option.isSome_iff_exists]
    simp [matchedSpan?_eq_some_iff]
  · refine List.forall_mem_cons.mpr ⟨by omega, fun matched mem => ?_⟩
    obtain ⟨before, rfl⟩ := (matchedSpan?_eq_some_iff mismatch).mp (Option.mem_toList.mp mem)
    exact Nat.le_of_lt before
  · refine List.pairwise_cons.mpr ⟨fun matched mem i begins _ _ => ?_, ?_⟩
    · rw [(meets matched (Option.mem_toList.mp mem)).2]
      exact begins
    · cases mismatch.matchedSpan? with
      | none => exact .nil
      | some matched => exact List.pairwise_singleton _ matched

end Mismatch

/-! ## Failures of matches -/

open Likeness

/-- All cursors that the failure of a reply shows, if it is one, can be met. -/
def Reply.FailsAtMet {α : Type} (reply : Reply α) : Prop :=
  ∀ failure, reply.outcome = .error failure → ∀ c ∈ failure.cursors, c.Met

/-- Reading on leads to cursors that can be met. -/
theorem Session.met_next (session : Session) (c : Cursor) (met : c.Met) : (c.next session.source).Met :=
  .next session.source met

theorem Session.failsAtMet_of_reply? {α : Type} {session : Session} {r : Run α} {reply : Reply α}
    {value : α → α → Prop} (follows : (keeping session.toEnv session.met_next).Follows value r r)
    (replied : session.reply? r = some reply) : reply.FailsAtMet := by
  intro failure failed
  obtain ⟨t, rfl, _⟩ := session.failed_of_reply? replied failed
  exact follows.hold.2

/-- A failure can be shown over any text, and cursors of any text can stand in it. The line is a slice of the text for
every cursor that can be met. A report marks a failed span at the end of the attempt, one character wide or empty, which
it is exactly where the text does not reach, and right in front of it what was matched, if that is anything; so the two
never overlap, and neither is turned round. The cursors of a text can be met, and no others than such are in the
failures of a session, also if it stands at a cursor of another text. -/
theorem failures_shown_anywhere :
    (∀ (source : Source) (c : Cursor), c.Met → source.CutsLineAt c) ∧
    (∀ (source : Source) (name : String) (mismatch : Mismatch), ∃ failed matched?,
      (mismatch.report source name).labels =
        ⟨failed, "expected " ++ mismatch.pattern.render ++ " here"⟩ ::
          (matched?.map (⟨·, "matched this far"⟩)).toList ∧
      mismatch.MarksFit source failed matched?) ∧
    (∀ (source : Source) (c : Cursor), c.Canonical source → c.Met) ∧
    ∀ session : Session, session.cursor.Met → ∀ (e : Expr) (budget : Nat),
      (∀ reply, session.recognizeWithin budget e = some reply → reply.FailsAtMet) ∧
      (∀ reply, session.recognizeAllWithin budget e = some reply → reply.FailsAtMet) ∧
      (∀ reply, session.parseWithin budget e = some reply → reply.FailsAtMet) ∧
      ∀ reply, session.parseAllWithin budget e = some reply → reply.FailsAtMet := by
  refine ⟨fun source c met => Source.cutsLineAt met.lineStart_le,
    fun source name mismatch => ⟨_, _, rfl, mismatch.marksFit source⟩,
    fun source c canonical => canonical.met, fun session met e budget => ?_⟩
  have states : (keeping session.toEnv session.met_next).States session.state session.state := states_keeping met
  apply session.forall_replies budget e (P := Reply.FailsAtMet)
  · intro α builder reply
    exact Session.failsAtMet_of_reply? (run_follows (builds_any builder builder) (Nat.le_refl budget) trivial states)
  · intro α builder reply
    exact Session.failsAtMet_of_reply?
      (runToEnd_follows (builds_any builder builder) (Nat.le_refl budget) trivial states)

/-- A session about a short text that stands at a cursor of a longer one, where it has read two lines. -/
def Session.sampleForeign : Session where
  source := #['a']
  definitions := .empty
  skipping := ⟨[], false⟩
  cursor := .ofPosition #['x', '\n', 'y', '\r', '\n', 'z'] 5

/-- Beyond the end of the text the line that is shown is empty, and so is the failed span. A match that begins there
tells of cursors still further behind. -/
theorem sampleForeign_shown :
    Session.sampleForeign.cursor.Met ∧
    (∀ source : Source, source.CutsLineAt Session.sampleForeign.cursor) ∧
    Source.lineSpan #['a'] Session.sampleForeign.cursor = ⟨1, 1⟩ ∧
    Mismatch.failedSpan #['a'] ⟨.any, .start #['a'], Session.sampleForeign.cursor⟩ = ⟨5, 5⟩ ∧
    ∃ reply, Session.sampleForeign.recognizeWithin 3 (.seq [.char 'z', .char 'a']) = some reply ∧
      reply.outcome.toOption = none ∧ reply.FailsAtMet := by
  obtain ⟨cuts, _, met, fails⟩ := failures_shown_anywhere
  have here : Session.sampleForeign.cursor.Met :=
    met #['x', '\n', 'y', '\r', '\n', 'z'] _ ⟨by decide, rfl⟩
  have answered : (Session.sampleForeign.recognizeWithin 3 (.seq [.char 'z', .char 'a'])).map
      (fun reply => reply.outcome.toOption) = some none := by
    decide
  obtain ⟨reply, replied, failed⟩ := Option.map_eq_some_iff.mp answered
  exact ⟨here, fun source => cuts source _ here, by decide, by decide, reply, replied, failed,
    (fails .sampleForeign here _ 3).1 reply replied⟩

end PegEngine
