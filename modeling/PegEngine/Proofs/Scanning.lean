import PegEngine.Proofs.Checked
import PegEngine.Proofs.Unrolling

/-! Scanning for a delimiter. Any character but the start of a delimiter, over and over, leads to the first place
where the delimiter can be read, or to the end of the text if there is none. No place is missed, since each round
tries the delimiter again and goes on by a single character, however much of the delimiter was there. -/
namespace PegEngine

open Run

/-! ## Where a scan stops -/

/-- A scan for the delimiter stops at this position: the delimiter can be read there, or the text is at its end. -/
def Env.StopsScan (env : Env) (ignore : List Expr) (v : Bool) (delimiter : Expr) (p : Nat) : Prop :=
  p = env.source.size ∨ ∃ stop, Reads env ignore v (.whole delimiter) p (.upTo stop)

section Scans

variable {env : Env} {ignore : List Expr} {v : Bool} {delimiter : Expr} {p : Nat}

/-- Where reading the delimiter comes out without a fault, one round stops or goes on by one character. -/
theorem anyBut_scans (rested : Rested env ignore v p) {o : Outcome}
    (reads : Reads env ignore v (.whole delimiter) p o) (faultless : ∀ broken, o ≠ .fault broken) :
    env.StopsScan ignore v delimiter p ∧
        Reads env ignore v (.whole (.anyBut delimiter)) p .mismatch ∨
      ¬env.StopsScan ignore v delimiter p ∧ p < env.source.size ∧
        Reads env ignore v (.whole (.anyBut delimiter)) p (.upTo (p + 1)) := by
  rw [rested.whole_iff, rested.whole_iff]
  cases o with
  | upTo stop => exact Or.inl ⟨Or.inr ⟨stop, reads⟩, .anyButHere reads⟩
  | mismatch =>
    rcases Nat.eq_or_lt_of_le rested.within with atEnd | before
    · have nothing : env.source.ahead p = [] := List.drop_eq_nil_of_le (Nat.le_of_eq atEnd.symm)
      refine Or.inl ⟨Or.inl atEnd, .anyButNone reads (.unspelled rfl rfl ?_)⟩
      rw [nothing]
      rfl
    · have ahead := Source.ahead_eq_cons (Array.getElem?_eq_getElem before)
      refine Or.inr ⟨?_, before, .anyButNone reads (.spelled rfl rfl ?_)⟩
      · rintro (atEnd | ⟨stop, matched⟩)
        · exact Nat.ne_of_lt before atEnd
        · cases Reads.unique rested.within reads matched
      · rw [ahead, Expr.extent?]
  | fault broken => exact absurd rfl (faultless broken)

variable (rested : ∀ p ≤ env.source.size, Rested env ignore v p)
include rested

/-- So the rounds lead to the first position at which a scan stops. -/
theorem repeats_scan (count : Nat) (within : p ≤ env.source.size)
    (readable : ∀ q, p ≤ q → q ≤ env.source.size →
      ∃ o, Reads env ignore v (.whole delimiter) q o ∧ ∀ broken, o ≠ .fault broken) :
    ∃ k, Reads env ignore v (.repeats 0 0 (.anyBut delimiter) count) p (.upTo (p + k)) ∧
      p + k ≤ env.source.size ∧ env.StopsScan ignore v delimiter (p + k) ∧
      ∀ j < k, ¬env.StopsScan ignore v delimiter (p + j) := by
  have unbounded (count : Nat) : ¬(0 < 0 ∧ 0 ≤ count) := fun full => Nat.lt_irrefl 0 full.1
  -- The induction is on the number of characters that are left.
  generalize left : env.source.size - p = n
  induction n generalizing p count with
  | zero =>
    obtain ⟨o, reads, faultless⟩ := readable p (Nat.le_refl p) within
    rcases anyBut_scans (rested p within) reads faultless with ⟨stops, round⟩ | ⟨_, before, _⟩
    · exact ⟨0, .repeatsEnough (unbounded count) round (Nat.zero_le count), within, stops, nofun⟩
    · omega
  | succ n ih =>
    obtain ⟨o, reads, faultless⟩ := readable p (Nat.le_refl p) within
    rcases anyBut_scans (rested p within) reads faultless with ⟨stops, round⟩ | ⟨goesOn, before, round⟩
    · exact ⟨0, .repeatsEnough (unbounded count) round (Nat.zero_le count), within, stops, nofun⟩
    · obtain ⟨k, rest, reached, stops, missed⟩ :=
        ih (count + 1) before (fun q onward => readable q (Nat.le_of_succ_le onward)) (by omega)
      rw [Nat.succ_add_eq_add_succ] at rest reached stops
      refine ⟨k + 1, .repeatsMore (unbounded count) round (Nat.succ_ne_self p) rest, reached, stops,
        fun j fewer => ?_⟩
      cases j with
      | zero => exact goesOn
      | succ j =>
        have later := missed j (Nat.lt_of_succ_lt_succ fewer)
        rwa [Nat.succ_add_eq_add_succ] at later

theorem star_anyBut_scans (within : p ≤ env.source.size)
    (readable : ∀ q, p ≤ q → q ≤ env.source.size →
      ∃ o, Reads env ignore v (.whole delimiter) q o ∧ ∀ broken, o ≠ .fault broken) :
    ∃ k, Reads env ignore v (.whole (.rep 0 0 (.anyBut delimiter))) p (.upTo (p + k)) ∧
      p + k ≤ env.source.size ∧ env.StopsScan ignore v delimiter (p + k) ∧
      ∀ j < k, ¬env.StopsScan ignore v delimiter (p + j) := by
  obtain ⟨k, repeats, reached, stops, missed⟩ := repeats_scan rested 0 within readable
  refine ⟨k, ?_, reached, stops, missed⟩
  rw [(rested p within).whole_iff, bare_rep_iff (Or.inl rfl)]
  exact repeats

end Scans

/-! ## Sessions -/

namespace Cursor.Marks

variable {source : Source} {c : Cursor}

theorem advance (marks : c.Marks source) (count : Nat) : (c.advance source count).Marks source := by
  induction count with
  | zero => exact marks
  | succ count ih =>
    rw [advance_succ]
    exact ih.next

theorem advance_position (marks : c.Marks source) {count : Nat}
    (within : c.position + count ≤ source.size) :
    (c.advance source count).position = c.position + count := by
  induction count with
  | zero => rfl
  | succ count ih =>
    have before : (c.advance source count).position = c.position + count :=
      ih (Nat.le_of_succ_le within)
    have here : (c.advance source count).character = some source[c.position + count] := by
      rw [(marks.advance count).character_eq, before]
      exact Array.getElem?_eq_getElem within
    rw [advance_succ, next_position here, before]
    rfl

theorem isDone_iff (marks : c.Marks source) : c.isDone = true ↔ c.position = source.size := by
  rw [isDone, Option.isNone_iff_eq_none, marks.character_eq, Array.getElem?_eq_none_iff]
  exact ⟨Nat.le_antisymm marks.within, fun atEnd => Nat.le_of_eq atEnd.symm⟩

end Cursor.Marks

/-- A reply is without a fault if that is how it reads. -/
theorem Reply.faultless_iff {α : Type} (reply : Reply α) :
    reply.Faultless ↔ ∀ broken, reply.reading ≠ .fault broken := by
  obtain ⟨outcome, session, log⟩ := reply
  rw [Faultless, reading]
  cases outcome with
  | ok a => exact ⟨fun _ _ => nofun, fun _ _ => nofun⟩
  | error failure =>
    cases failure with
    | mismatch trail =>
      refine ⟨fun _ _ => nofun, fun _ failure same => ?_⟩
      cases same
      rfl
    | fault broken =>
      refine ⟨fun mismatches => ?_, fun never => absurd rfl (never broken)⟩
      cases mismatches _ rfl

namespace Session

/-- A scan for the delimiter stops where the session stands: the delimiter matches there, or the text is at its
end. -/
def AtDelimiter (session : Session) (delimiter : Expr) : Prop :=
  session.cursor.isDone = true ∨
    ∃ reply stop, session.recognize delimiter = some reply ∧ reply.outcome = .ok stop

variable (session : Session) (marks : session.cursor.Marks session.source) {e : Expr}
include marks

/-- Up to where there is something to read, a match succeeds and leaves the session there. -/
theorem recognize_of_reads {k : Nat} (reads : session.Reads (.whole e) (.upTo (session.cursor.position + k))) :
    ∃ reply, session.recognize e = some reply ∧ reply.outcome = .ok (session.advance k).cursor ∧
      reply.session = session.advance k := by
  have came := (session.run_reading_iff e marks .recognizer).mpr reads
  rw [reply?_reading] at came
  obtain ⟨stop, t, ran, position⟩ := eq_done_of_outcome? came
  have cursor : t.cursor = (session.advance k).cursor := by
    have reached := run_advances ran
    rwa [position, state, Nat.add_sub_cancel_left] at reached
  have settles := run_settles (session.budget e) rightFor_recognizer session.toEnv e session.state
  rw [ran] at settles
  obtain ⟨⟨kept, _⟩, ends⟩ := settles
  rw [session.recognize_eq, ran]
  refine ⟨_, rfl, congrArg Except.ok (ends.trans cursor), ?_⟩
  rw [leave, cursor, kept]
  rfl

theorem exists_ok_iff :
    (∃ reply stop, session.recognize e = some reply ∧ reply.outcome = .ok stop) ↔
      ∃ q, session.Reads (.whole e) (.upTo q) := by
  constructor
  · rintro ⟨reply, stop, replied, succeeded⟩
    refine ⟨reply.session.cursor.position, (session.recognize_reading_iff e marks).mp ?_⟩
    rw [replied, Option.map_some, Reply.reading, succeeded]
  · rintro ⟨q, reads⟩
    obtain ⟨k, rfl⟩ := Nat.exists_eq_add_of_le (Reads.notBefore reads : session.cursor.position ≤ q)
    obtain ⟨reply, replied, succeeded, _⟩ := session.recognize_of_reads marks reads
    exact ⟨reply, _, replied, succeeded⟩

/-- A match answers without a fault where reading comes out without one. -/
theorem exists_faultless_iff :
    (∃ reply, session.recognize e = some reply ∧ reply.Faultless) ↔
      ∃ o, session.Reads (.whole e) o ∧ ∀ broken, o ≠ .fault broken := by
  have reading {o : Outcome} := session.recognize_reading_iff e (o := o) marks
  simp only [← reading, Option.map_eq_some_iff]
  constructor
  · rintro ⟨reply, replied, faultless⟩
    exact ⟨_, ⟨reply, replied, rfl⟩, reply.faultless_iff.mp faultless⟩
  · rintro ⟨_, ⟨reply, replied, rfl⟩, faultless⟩
    exact ⟨reply, replied, reply.faultless_iff.mpr faultless⟩

theorem atDelimiter_advance_iff {k : Nat} (within : session.cursor.position + k ≤ session.source.size) :
    (session.advance k).AtDelimiter e ↔
      session.StopsScan session.skipping.ignore session.skipping.verbatim e
        (session.cursor.position + k) := by
  have further : (session.advance k).cursor.Marks session.source := marks.advance k
  have position : (session.advance k).cursor.position = session.cursor.position + k :=
    marks.advance_position within
  rw [AtDelimiter, (session.advance k).exists_ok_iff further, further.isDone_iff, position, Env.StopsScan]
  simp only [Session.Reads, position]
  exact Iff.rfl

/-- Where nothing is skipped and the delimiter can be tried everywhere, a scan leads to the first place where it
stops. -/
theorem scan_answers (off : session.skipping.active = false) (delimiter : Expr)
    (readable : ∀ q, session.cursor.position ≤ q → q ≤ session.source.size →
      ∃ o, PegEngine.Reads session.toEnv session.skipping.ignore session.skipping.verbatim (.whole delimiter) q o ∧
        ∀ broken, o ≠ .fault broken) :
    ∃ k reply, session.recognize (.rep 0 0 (.anyBut delimiter)) = some reply ∧
      reply.outcome = .ok (session.advance k).cursor ∧ reply.session = session.advance k ∧
      session.cursor.position + k ≤ session.source.size ∧
      session.StopsScan session.skipping.ignore session.skipping.verbatim delimiter
        (session.cursor.position + k) ∧
      ∀ j < k, ¬session.StopsScan session.skipping.ignore session.skipping.verbatim delimiter
        (session.cursor.position + j) := by
  obtain ⟨k, reads, reached, stops, missed⟩ :=
    star_anyBut_scans (fun p within => rested_of_inactive off within) marks.within readable
  obtain ⟨reply, replied, succeeded, left⟩ := session.recognize_of_reads marks reads
  exact ⟨k, reply, replied, succeeded, left, reached, stops, missed⟩

end Session

/-- Characters in a row are never at fault. -/
theorem reads_literal {env : Env} {ignore : List Expr} {v : Bool} {p : Nat}
    (rested : Rested env ignore v p) (text : String) :
    ∃ o, Reads env ignore v (.whole (.literal text)) p o ∧ ∀ broken, o ≠ .fault broken := by
  refine ⟨_, rested.whole_iff.mpr ((bare_primitive_iff rfl rfl).mpr rfl), fun broken => ?_⟩
  cases (Expr.literal text).extent? (env.source.ahead p) <;> nofun

/-- Characters in a row stop a scan where they lie ahead. -/
theorem stopsScan_literal_iff {env : Env} {ignore : List Expr} {v : Bool} {p : Nat}
    (rested : Rested env ignore v p) (text : String) :
    env.StopsScan ignore v (.literal text) p ↔
      text.toList <+: env.source.ahead p ∨ p = env.source.size := by
  rw [Env.StopsScan, or_comm]
  refine or_congr_left ?_
  simp only [rested.whole_iff, bare_primitive_iff (e := .literal text) rfl rfl, Expr.extent?]
  split
  · next here => exact ⟨fun _ => here, fun _ => ⟨_, rfl⟩⟩
  · next absent =>
    refine ⟨?_, fun here => absurd here absent⟩
    rintro ⟨stop, came⟩
    cases came

/-- Where nothing is skipped, any character but the start of a delimiter, over and over, is matched up to the first
place where the delimiter matches or the text ends, if trying the delimiter always comes out without a fault. Of
characters in a row that is so: they do not begin anywhere in what is consumed, and either they follow it or the
text is at its end. -/
theorem scan_stops_first (session : Session) (marks : session.cursor.Marks session.source)
    (off : session.skipping.active = false) :
    (∀ delimiter, (∀ k, ∃ reply, (session.advance k).recognize delimiter = some reply ∧ reply.Faultless) →
      ∃ k reply, session.recognize (.rep 0 0 (.anyBut delimiter)) = some reply ∧
        reply.outcome = .ok (session.advance k).cursor ∧ reply.session = session.advance k ∧
        (session.advance k).cursor.position = session.cursor.position + k ∧
        (session.advance k).AtDelimiter delimiter ∧
        ∀ j < k, ¬(session.advance j).AtDelimiter delimiter) ∧
    ∀ text : String,
      ∃ k reply, session.recognize (.rep 0 0 (.anyBut (.literal text))) = some reply ∧
        reply.outcome = .ok (session.advance k).cursor ∧ reply.session = session.advance k ∧
        (session.advance k).cursor.position = session.cursor.position + k ∧
        (∀ j < k, ¬text.toList <+: session.source.ahead (session.cursor.position + j)) ∧
        (text.toList <+: session.source.ahead (session.cursor.position + k) ∨
          session.cursor.position + k = session.source.size) := by
  have rested (p : Nat) (within : p ≤ session.source.size) := Session.rested_of_inactive off within
  refine ⟨fun delimiter answers => ?_, fun text => ?_⟩
  · obtain ⟨k, reply, replied, succeeded, left, reached, stops, missed⟩ :=
      session.scan_answers marks off delimiter fun q onward within => by
        obtain ⟨k, rfl⟩ := Nat.exists_eq_add_of_le onward
        obtain ⟨o, reads, never⟩ :=
          ((session.advance k).exists_faultless_iff (marks.advance k)).mp (answers k)
        refine ⟨o, ?_, never⟩
        rw [← marks.advance_position within]
        exact reads
    refine ⟨k, reply, replied, succeeded, left, marks.advance_position reached,
      (session.atDelimiter_advance_iff marks reached).mpr stops, fun j fewer => ?_⟩
    rw [session.atDelimiter_advance_iff marks (by omega)]
    exact missed j fewer
  · obtain ⟨k, reply, replied, succeeded, left, reached, stops, missed⟩ :=
      session.scan_answers marks off (.literal text) fun q _ within => reads_literal (rested q within) text
    refine ⟨k, reply, replied, succeeded, left, marks.advance_position reached, fun j fewer here => ?_,
      (stopsScan_literal_iff (rested _ reached) text).mp stops⟩
    exact missed j fewer ((stopsScan_literal_iff (rested _ (by omega)) text).mpr (Or.inl here))

/-- A session in a comment whose end has a false start in front of it. -/
def Session.sampleComment : Session where
  source := #['a', '*', '*', '/', 'c']
  definitions := .empty
  skipping := ⟨[.space], true⟩
  cursor := .start #['a', '*', '*', '/', 'c']

/-- The scan passes the first asterisk, which no slash follows, and stops at the second. -/
theorem sampleComment_scanned :
    (∀ k, ∃ reply, (Session.sampleComment.advance k).recognize (.literal "*/") = some reply ∧
      reply.Faultless) ∧
    ∃ reply, Session.sampleComment.recognize (.rep 0 0 (.anyBut (.literal "*/"))) = some reply ∧
      reply.outcome = .ok (Session.sampleComment.advance 2).cursor := by
  have marks : Session.sampleComment.cursor.Marks Session.sampleComment.source := Cursor.start_marks _
  have answers (k : Nat) : ∃ reply,
      (Session.sampleComment.advance k).recognize (.literal "*/") = some reply ∧ reply.Faultless := by
    have further : (Session.sampleComment.advance k).cursor.Marks Session.sampleComment.source :=
      marks.advance k
    exact ((Session.sampleComment.advance k).exists_faultless_iff further).mpr
      (reads_literal (Session.rested_of_inactive rfl further.within) "*/")
  obtain ⟨scans, _⟩ := scan_stops_first Session.sampleComment marks rfl
  obtain ⟨k, reply, replied, succeeded, _, position, _⟩ := scans (.literal "*/") answers
  have shown : (Session.sampleComment.recognize (.rep 0 0 (.anyBut (.literal "*/")))).map
      (fun reply => reply.outcome.toOption.map Cursor.position) = some (some 2) := by
    decide +kernel
  rw [replied, Option.map_some, succeeded] at shown
  have two : Session.sampleComment.cursor.position + k = 2 :=
    position.symm.trans (Option.some.inj (Option.some.inj shown))
  obtain rfl : k = 2 := (Nat.zero_add k).symm.trans two
  exact ⟨answers, reply, replied, succeeded⟩

end PegEngine
