import Mathlib.Data.List.TakeWhile
import PegEngine.Failure.Message
import PegEngine.Proofs.Dialogue
import PegEngine.Proofs.Shift
import PegEngine.Proofs.Trails

/-! The text of lines. The line that is shown for a cursor is what stands between the start of its line and the
cursor, and what follows up to the next line end. So it is the whole line without its separator, unless the
cursor stands between the halves of a two-character break: then the first half is shown, too. In every case
the column of the cursor counts characters of that text, so a caret below it stands under the character at the
cursor, or right behind the text. -/
namespace PegEngine

theorem Cursor.Canonical.exists_position {source : Source} {c : Cursor} (canonical : c.Canonical source) :
    ∃ position, c = .ofPosition source position :=
  ⟨c.position, canonical.eq_ofPosition⟩

namespace Source

/-- The characters from a position up to the first line feed or carriage return, or to the end. -/
def lineFrom (source : Source) (position : Nat) : List Char :=
  (source.ahead position).takeWhile (!isLineEnd ·)

/-- The position lies between a carriage return and the line feed that completes the break. -/
def SplitsBreakAt (source : Source) : Nat → Prop
  | 0 => False
  | previous + 1 => source[previous]? = some '\r' ∧ source[previous + 1]? = some '\n'

variable {source : Source} {p q : Nat}

theorem isLineEnd_iff {c : Char} : isLineEnd c = true ↔ c = '\n' ∨ c = '\r' := by
  simp [isLineEnd]

/-- The line of a position begins behind every break before it. -/
theorem lt_lineStart_of_breaks (breaks : source.BreaksAt p) (before : p < q) : p < source.lineStart q := by
  induction q with
  | zero => exact absurd before (Nat.not_lt_zero p)
  | succ q ih =>
    by_cases last : source.BreaksAt q
    · rwa [lineStart_succ_of_breaks last]
    · have earlier : p ≠ q := fun same => last (same ▸ breaks)
      rw [lineStart_succ_of_not_breaks last]
      exact ih (Nat.lt_of_le_of_ne (Nat.le_of_lt_succ before) earlier)

/-- A line end in front of a position lies on an earlier line, or it is the first half of a break that the position
splits. -/
theorem lt_lineStart_or_splits {c : Char} (here : source[p]? = some c) (isEnd : isLineEnd c = true)
    (before : p < q) : p < source.lineStart q ∨ p + 1 = q ∧ source.SplitsBreakAt q := by
  by_cases breaks : source.BreaksAt p
  · exact Or.inl (lt_lineStart_of_breaks breaks before)
  · rcases isLineEnd_iff.mp isEnd with rfl | rfl
    · exact absurd (Or.inl here) breaks
    · have feed : source[p + 1]? = some '\n' := by
        by_contra other
        exact breaks (Or.inr ⟨here, other⟩)
      rcases Nat.lt_or_eq_of_le (Nat.succ_le_of_lt before) with inside | rfl
      · exact Or.inl (Nat.lt_of_succ_lt (lt_lineStart_of_breaks (Or.inl feed) inside))
      · exact Or.inr ⟨rfl, here, feed⟩

/-- What lies ahead of a position begins with what stands between it and a later one. -/
theorem ahead_eq_take_append (le : p ≤ q) :
    source.ahead p = (source.ahead p).take (q - p) ++ source.ahead q := by
  conv_lhs => rw [← List.take_append_drop (q - p) (source.ahead p)]
  rw [ahead, ahead, List.drop_drop, Nat.add_sub_cancel' le]

/-- The characters between two positions are those at the positions between. -/
theorem mem_take_ahead {c : Char} (mem : c ∈ (source.ahead p).take (q - p)) :
    ∃ i, p ≤ i ∧ i < q ∧ source[i]? = some c := by
  obtain ⟨n, within, rfl⟩ := List.mem_take_iff_getElem.mp mem
  have short := Nat.lt_of_lt_of_le within (Nat.min_le_left _ _)
  refine ⟨p + n, Nat.le_add_right _ _, by omega, ?_⟩
  simp [ahead]

/-- Between the start of its line and a position there is no line end, except for the first half of a break that
the position splits. -/
theorem not_isLineEnd_of_mem {c : Char}
    (mem : c ∈ (source.ahead (source.lineStart q)).take (q - source.lineStart q))
    (whole : ¬source.SplitsBreakAt q) : isLineEnd c = false := by
  obtain ⟨i, start, before, here⟩ := mem_take_ahead mem
  by_contra isEnd
  rcases lt_lineStart_or_splits here (Bool.not_eq_false _ ▸ isEnd) before with outside | ⟨_, splits⟩
  · exact Nat.not_lt_of_le start outside
  · exact whole splits

/-- A line without line ends up to some position is, from its start on, these characters and what follows up to the
next line end. -/
theorem lineFrom_eq_append (le : p ≤ q)
    (unbroken : ∀ c ∈ (source.ahead p).take (q - p), isLineEnd c = false) :
    source.lineFrom p = (source.ahead p).take (q - p) ++ source.lineFrom q := by
  rw [lineFrom, ahead_eq_take_append le, List.takeWhile_append_of_pos, ← ahead_eq_take_append le]
  · rfl
  · simpa using unbroken

theorem lineFrom_eq_nil {c : Char} (here : source[p]? = some c) (isEnd : isLineEnd c = true) :
    source.lineFrom p = [] := by
  simp [lineFrom, ahead_eq_cons here, isEnd]

theorem not_isLineEnd_of_mem_lineFrom {c : Char} (mem : c ∈ source.lineFrom p) : isLineEnd c = false := by
  simpa using List.mem_takeWhile_imp mem

/-- The line of a position reaches from the start of its line to the next line end. -/
theorem toList_lineAt {c : Cursor} (canonical : c.Canonical source) :
    (source.lineAt c).toList =
      (source.ahead c.lineStart).take c.column ++ source.lineFrom c.position := by
  obtain ⟨position, rfl⟩ := canonical.exists_position
  have within : position ≤ source.size := canonical.within
  have start := source.lineStart_le position
  have length : position + (source.lineFrom position).length - source.lineStart position =
      (position - source.lineStart position) + (source.lineFrom position).length := by
    omega
  have rest := List.prefix_iff_eq_take.mp (List.takeWhile_prefix (!isLineEnd ·) (l := source.ahead position))
  rw [lineAt, lineSpan, text_eq_take_ahead, String.toList_ofList, Cursor.ofPosition,
    Nat.min_eq_left (Nat.le_trans start within), Nat.min_eq_left within]
  change (source.ahead (source.lineStart position)).take
    (position + (source.lineFrom position).length - source.lineStart position) = _
  rw [length, List.take_add]
  congr 1
  rw [ahead, List.drop_drop, Nat.add_sub_cancel' start]
  exact rest.symm

variable {c d : Cursor}

/-- A cursor that splits no break stands on the line from its start to the next line end. -/
theorem toList_lineAt_of_whole (canonical : c.Canonical source) (whole : ¬source.SplitsBreakAt c.position) :
    (source.lineAt c).toList = source.lineFrom c.lineStart := by
  obtain ⟨position, rfl⟩ := canonical.exists_position
  rw [toList_lineAt canonical]
  exact (lineFrom_eq_append (source.lineStart_le position)
    fun _ mem => not_isLineEnd_of_mem mem whole).symm

/-- For a cursor that splits a break the first half of the break is taken for a part of the line. -/
theorem toList_lineAt_of_splits (canonical : c.Canonical source) (splits : source.SplitsBreakAt c.position) :
    (source.lineAt c).toList = source.lineFrom c.lineStart ++ ['\r'] := by
  obtain ⟨position, rfl⟩ := canonical.exists_position
  cases position with
  | zero => exact splits.elim
  | succ previous =>
    obtain ⟨carriage, feed⟩ : source[previous]? = some '\r' ∧ source[previous + 1]? = some '\n' := splits
    have unbroken : ¬source.BreaksAt previous := by
      simp [BreaksAt, carriage, feed]
    have whole : ¬source.SplitsBreakAt previous := by
      cases previous with
      | zero => exact id
      | succ earlier =>
        rintro ⟨_, other⟩
        rw [carriage] at other
        cases other
    have start := source.lineStart_le previous
    have last : (source.ahead (source.lineStart previous))[previous - source.lineStart previous]? = some '\r' := by
      rw [ahead, List.getElem?_drop, Nat.add_sub_cancel' start, Array.getElem?_toList, carriage]
    have front := lineFrom_eq_append start fun _ mem => not_isLineEnd_of_mem mem whole
    rw [lineFrom_eq_nil carriage rfl, List.append_nil] at front
    rw [toList_lineAt canonical, Cursor.ofPosition, lineFrom_eq_nil feed rfl, List.append_nil,
      lineStart_succ_of_not_breaks unbroken, Nat.succ_sub start, List.take_add_one, last, front]
    rfl

/-- Cursors of one line have the start of the line in common. -/
theorem lineStart_eq_of_line_eq (canonical : c.Canonical source) (canonical' : d.Canonical source)
    (same : c.line = d.line) : c.lineStart = d.lineStart := by
  obtain ⟨p, rfl⟩ := canonical.exists_position
  obtain ⟨q, rfl⟩ := canonical'.exists_position
  rcases Nat.le_total p q with le | le
  · exact lineStart_eq_of_lineNumber_eq le same
  · exact (lineStart_eq_of_lineNumber_eq le same.symm).symm

end Source

/-- A cursor that splits no break shows its whole line without the separator: what lies between the start of the
line and the first line feed or carriage return, or the end of the text. So all such cursors of a line show the
same. A cursor between the halves of a break shows the first half as well. -/
theorem lines_shown (source : Source) :
    (∀ c : Cursor, c.Canonical source → ¬source.SplitsBreakAt c.position →
      (source.lineAt c).toList = source.lineFrom c.lineStart ∧
        ∀ a ∈ (source.lineAt c).toList, a ≠ '\n' ∧ a ≠ '\r') ∧
    (∀ c d : Cursor, c.Canonical source → d.Canonical source → ¬source.SplitsBreakAt c.position →
      ¬source.SplitsBreakAt d.position → c.line = d.line → source.lineAt c = source.lineAt d) ∧
    ∀ c : Cursor, c.Canonical source → source.SplitsBreakAt c.position →
      (source.lineAt c).toList = source.lineFrom c.lineStart ++ ['\r'] := by
  refine ⟨fun c canonical whole => ?_, fun c d canonical canonical' whole whole' same => ?_,
    fun c canonical splits => Source.toList_lineAt_of_splits canonical splits⟩
  · have shown := Source.toList_lineAt_of_whole canonical whole
    refine ⟨shown, fun a mem => ?_⟩
    have inside := Source.not_isLineEnd_of_mem_lineFrom (shown ▸ mem)
    simpa [Source.isLineEnd] using inside
  · apply String.toList_inj.mp
    rw [Source.toList_lineAt_of_whole canonical whole, Source.toList_lineAt_of_whole canonical' whole',
      Source.lineStart_eq_of_line_eq canonical canonical' same]

/-- A text of two lines with a break of two characters between them. -/
def Source.sampleBreak : Source :=
  #['a', 'b', '\r', '\n', 'c']

/-- On both sides of the break the line is shown without it. -/
theorem sampleBreak_lines :
    (Source.sampleBreak.lineAt (.ofPosition .sampleBreak 2)).toList = ['a', 'b'] ∧
    Source.sampleBreak.lineAt (.ofPosition .sampleBreak 0) =
      Source.sampleBreak.lineAt (.ofPosition .sampleBreak 2) ∧
    (Source.sampleBreak.lineAt (.ofPosition .sampleBreak 3)).toList = ['a', 'b'] ++ ['\r'] := by
  have canonical (p : Nat) (within : p ≤ 5) :
      (Cursor.ofPosition .sampleBreak p).Canonical .sampleBreak := ⟨within, rfl⟩
  have first : ¬Source.sampleBreak.SplitsBreakAt 0 := id
  have second : ¬Source.sampleBreak.SplitsBreakAt 2 := by
    rintro ⟨other, _⟩
    cases other
  obtain ⟨whole, alike, split⟩ := lines_shown .sampleBreak
  exact ⟨(whole _ (canonical 2 (by decide)) second).1,
    alike _ _ (canonical 0 (by decide)) (canonical 2 (by decide)) first second rfl,
    split _ (canonical 3 (by decide)) ⟨rfl, rfl⟩⟩

/-- Between the halves of the break the line shows a carriage return, which it does not at its other cursors. -/
theorem sampleBreak_shows_return : ∃ c : Cursor, c.Canonical .sampleBreak ∧
    '\r' ∈ (Source.sampleBreak.lineAt c).toList ∧
    (Source.sampleBreak.lineAt c).toList ≠ Source.sampleBreak.lineFrom c.lineStart ∧
    ∃ d : Cursor, d.Canonical .sampleBreak ∧ c.line = d.line ∧
      Source.sampleBreak.lineAt c ≠ Source.sampleBreak.lineAt d := by
  have within (p : Nat) (le : p ≤ 5) :
      (Cursor.ofPosition .sampleBreak p).Canonical .sampleBreak := ⟨le, rfl⟩
  have shown : Source.sampleBreak.lineAt (.ofPosition .sampleBreak 3) = "ab\r" := by decide
  have elsewhere : Source.sampleBreak.lineAt (.ofPosition .sampleBreak 0) = "ab" := by decide
  refine ⟨.ofPosition .sampleBreak 3, within 3 (by decide), ?_, ?_, .ofPosition .sampleBreak 0,
    within 0 (by decide), rfl, ?_⟩
  · rw [shown]
    decide
  · rw [shown]
    decide
  · rw [shown, elsewhere]
    decide

/-! ## Carets -/

/-- The caret that is put below the line of a mismatch stands under the character at which the attempt stopped,
or right behind the line if it stopped at a line end or at the end of the text. -/
structure Mismatch.CaretFits (source : Source) (mismatch : Mismatch) : Prop where
  /-- The last two rows of the message are the line, and the caret behind as many blanks as the column says. -/
  below : ∃ heading, mismatch.message source = heading ++ "\n" ++ mismatch.line source ++ "\n" ++
    String.ofList (List.replicate mismatch.stop.column ' ') ++ "^"
  reached : mismatch.stop.column ≤ (mismatch.line source).length
  under : mismatch.stop.column < (mismatch.line source).length →
    (mismatch.line source).toList[mismatch.stop.column]? = mismatch.stop.character
  behind : mismatch.stop.column = (mismatch.line source).length →
    mismatch.stop.character = some '\n' ∨ mismatch.stop.character = some '\r' ∨
      mismatch.stop.character = none

/-- The carets of all mismatches that a reply tells of fit. -/
def Reply.CaretsFit {α : Type} (source : Source) (reply : Reply α) : Prop :=
  ∀ failure, reply.outcome = .error failure → ∀ mismatch ∈ failure.entries, mismatch.CaretFits source

namespace Source

variable {source : Source} {c : Cursor}

/-- The column counts the characters of the line in front of the cursor. -/
theorem length_take_column (canonical : c.Canonical source) :
    ((source.ahead c.lineStart).take c.column).length = c.column := by
  obtain ⟨position, rfl⟩ := canonical.exists_position
  have within : position ≤ source.size := canonical.within
  have start := source.lineStart_le position
  rw [List.length_take, length_ahead, Cursor.ofPosition]
  dsimp only
  omega

theorem length_lineAt (canonical : c.Canonical source) :
    (source.lineAt c).length = c.column + (source.lineFrom c.position).length := by
  rw [← String.length_toList, toList_lineAt canonical, List.length_append, length_take_column canonical]

/-- What is shown from the cursor on begins with the character at the cursor, or there is nothing to show because
the line ends here. -/
theorem lineFrom_cases (canonical : c.Canonical source) :
    (source.lineFrom c.position ≠ [] ∧ c.character = (source.lineFrom c.position).head?) ∨
      source.lineFrom c.position = [] ∧
        (c.character = some '\n' ∨ c.character = some '\r' ∨ c.character = none) := by
  obtain ⟨position, rfl⟩ := canonical.exists_position
  rw [lineFrom, Cursor.ofPosition]
  dsimp only
  cases here : source[position]? with
  | none =>
    rw [ahead_eq_nil here]
    exact Or.inr ⟨rfl, Or.inr (Or.inr rfl)⟩
  | some a =>
    rw [ahead_eq_cons here, List.takeWhile_cons]
    cases isEnd : isLineEnd a with
    | false => exact Or.inl ⟨List.cons_ne_nil _ _, rfl⟩
    | true =>
      rcases isLineEnd_iff.mp isEnd with rfl | rfl
      · exact Or.inr ⟨rfl, Or.inl rfl⟩
      · exact Or.inr ⟨rfl, Or.inr (Or.inl rfl)⟩

end Source

theorem caretFits {source : Source} {mismatch : Mismatch} (canonical : mismatch.stop.Canonical source) :
    mismatch.CaretFits source := by
  have front := Source.length_take_column canonical
  have length : (mismatch.line source).length =
      mismatch.stop.column + (source.lineFrom mismatch.stop.position).length :=
    Source.length_lineAt canonical
  refine ⟨⟨_, by rw [Mismatch.message, Mismatch.caret, ← String.append_assoc]⟩, ?_, fun inside => ?_,
    fun stops => ?_⟩
  · rw [length]
    exact Nat.le_add_right _ _
  · rw [Mismatch.line, Source.toList_lineAt canonical, List.getElem?_append_right (Nat.le_of_eq front), front,
      Nat.sub_self, ← List.head?_eq_getElem?]
    rcases Source.lineFrom_cases canonical with ⟨_, character⟩ | ⟨nothing, _⟩
    · exact character.symm
    · rw [length, nothing] at inside
      exact absurd inside (Nat.lt_irrefl _)
  · rcases Source.lineFrom_cases canonical with ⟨nonempty, _⟩ | ⟨_, ends⟩
    · have further := List.length_pos_iff.mpr nonempty
      omega
    · exact ends

open Likeness

/-- A match that begins at a canonical cursor tells of mismatches whose carets fit. -/
theorem Session.caretsFit_of_reply? {α : Type} {session : Session} {r : Run α} {reply : Reply α}
    {value : α → α → Prop}
    {stays : ∀ c : Cursor, c.Canonical session.source → (c.next session.source).Canonical session.source}
    (follows : (keeping session.toEnv stays).Follows value r r)
    (replied : session.reply? r = some reply) : reply.CaretsFit session.source := by
  intro failure failed mismatch mem
  have nothing (a : α) (_ : value a a) (c : Cursor) (mem : c ∈ []) : c.Canonical session.source :=
    (List.not_mem_nil mem).elim
  obtain ⟨_, canonical⟩ := Session.reply?_hold nothing follows replied
  refine caretFits (canonical mismatch.stop ?_)
  rw [Reply.cursors, failed]
  exact List.mem_flatMap.mpr ⟨mismatch, mem, List.mem_cons_of_mem _ List.mem_cons_self⟩

/-- The caret of a mismatch that stopped at a canonical cursor stands under the character there, or right behind the
line if the line or the text ends there. So do the carets of all mismatches that a match tells of. -/
theorem carets_point :
    (∀ (source : Source) (mismatch : Mismatch), mismatch.stop.Canonical source →
      mismatch.CaretFits source) ∧
    ∀ session : Session, session.cursor.Canonical session.source → ∀ (e : Expr) (budget : Nat),
      (∀ reply, session.recognizeWithin budget e = some reply → reply.CaretsFit session.source) ∧
      (∀ reply, session.recognizeAllWithin budget e = some reply → reply.CaretsFit session.source) ∧
      (∀ reply, session.parseWithin budget e = some reply → reply.CaretsFit session.source) ∧
      ∀ reply, session.parseAllWithin budget e = some reply → reply.CaretsFit session.source := by
  refine ⟨fun source mismatch => caretFits, fun session canonical e budget => ?_⟩
  let alike : Likeness session.toEnv session.toEnv :=
    .keeping session.toEnv fun c (here : c.Canonical session.source) => here.next
  have states : alike.States session.state session.state := states_keeping canonical
  apply session.forall_replies budget e (P := fun reply => reply.CaretsFit session.source)
  · intro α builder reply
    exact Session.caretsFit_of_reply?
      (run_follows (builds_any builder builder) (Nat.le_refl budget) trivial states)
  · intro α builder reply
    exact Session.caretsFit_of_reply?
      (runToEnd_follows (builds_any builder builder) (Nat.le_refl budget) trivial states)

/-- A session at the start of two lines. -/
def Session.sampleLines : Session where
  source := .sampleBreak
  definitions := .empty
  skipping := ⟨[], false⟩
  cursor := .start .sampleBreak

/-- The carets of a mismatch behind the break, and of a match that stops between its halves. -/
theorem sampleLines_carets :
    Mismatch.CaretFits .sampleBreak ⟨.any, .start .sampleBreak, .ofPosition .sampleBreak 4⟩ ∧
    ∃ reply, Session.sampleLines.recognizeWithin 3 (.seq [.literal "ab\r", .char 'x']) = some reply ∧
      reply.trail?.map Trail.positions = some [0, 3, 3, 3] ∧ reply.CaretsFit .sampleBreak := by
  obtain ⟨anywhere, matched⟩ := carets_point
  have canonical : Session.sampleLines.cursor.Canonical Session.sampleLines.source :=
    Cursor.start_canonical _
  have answered : (Session.sampleLines.recognizeWithin 3 (.seq [.literal "ab\r", .char 'x'])).map
      (fun reply => reply.trail?.map Trail.positions) = some (some [0, 3, 3, 3]) := by
    decide
  obtain ⟨reply, replied, shown⟩ := Option.map_eq_some_iff.mp answered
  exact ⟨anywhere .sampleBreak _ ⟨by decide, rfl⟩, reply, replied, shown,
    (matched Session.sampleLines canonical _ 3).1 reply replied⟩

end PegEngine
