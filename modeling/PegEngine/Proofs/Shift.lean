import PegEngine.Proofs.Lines
import PegEngine.Proofs.Lockstep
import PegEngine.Proofs.Steady

/-! No looking behind. What a match does depends on the text that lies ahead of its cursor, not on what
stands in front of it and not on where in its text the cursor is. So a text that is put in front of
another moves all that a match says of the other by its length, and changes nothing else. -/
namespace PegEngine

open List (Forall₂)

/-! ## Saying the same of other places -/

/-- The same event at places that stand in this relation. -/
inductive Event.Alike (related : Cursor → Cursor → Prop) : Event → Event → Prop where
  | skipped {e c c'} : related c c' → Alike related (.skipped e c) (.skipped e c')
  | resolved {name c c'} : related c c' → Alike related (.resolved name c) (.resolved name c')
  | undefined {name} : Alike related (.undefined name) (.undefined name)

/-- A mismatch of the same pattern between places that stand in this relation. -/
structure Mismatch.Alike (related : Cursor → Cursor → Prop) (m m' : Mismatch) : Prop where
  pattern : m.pattern = m'.pattern
  start : related m.start m'.start
  stop : related m.stop m'.stop

/-- The same fault, or as many mismatches that are alike one by one. -/
inductive Failure.Alike (related : Cursor → Cursor → Prop) : Failure → Failure → Prop where
  | mismatch {t t'} : Forall₂ (Mismatch.Alike related) t.entries t'.entries →
      Alike related (.mismatch t) (.mismatch t')
  | fault {broken} : Alike related (.fault broken) (.fault broken)

/-- Values that stand in a relation, or failures that are alike. -/
inductive Outcomes {α : Type} (related : Cursor → Cursor → Prop) (value : α → α → Prop) :
    Except Failure α → Except Failure α → Prop where
  | ok {a a'} : value a a' → Outcomes related value (.ok a) (.ok a')
  | error {f f'} : Failure.Alike related f f' → Outcomes related value (.error f) (.error f')

/-- Replies that say the same of places that stand in this relation. -/
structure Reply.Alike {α : Type} (related : Cursor → Cursor → Prop) (value : α → α → Prop)
    (reply reply' : Reply α) : Prop where
  outcome : Outcomes related value reply.outcome reply'.outcome
  cursor : related reply.session.cursor reply'.session.cursor
  skipping : reply.session.skipping = reply'.session.skipping
  log : Forall₂ (Event.Alike related) reply.log reply'.log

/-! ## The same text ahead -/

namespace Source

theorem length_ahead (source : Source) (p : Nat) : (source.ahead p).length = source.size - p := by
  rw [ahead, List.length_drop, Array.length_toList]

/-- The text of a span is what lies ahead of its start, as far as it reaches. -/
theorem text_eq_take_ahead (source : Source) (span : Span) :
    source.text span = String.ofList ((source.ahead span.start).take span.length) := by
  rw [text, Array.toList_extract, List.extract_eq_take_drop]
  rfl

/-- A text in front of another leaves the same ahead of a place of the other. -/
theorem ahead_append (front source : Source) (p : Nat) :
    ahead (front ++ source) (front.size + p) = source.ahead p := by
  rw [ahead, Array.toList_append, ← Array.length_toList, List.drop_append]
  simp [ahead]

end Source

namespace Cursor

/-- The cursors mark places of their texts with the same text ahead. -/
structure Aligned (source source' : Source) (c c' : Cursor) : Prop where
  marks : c.Marks source
  marks' : c'.Marks source'
  ahead_eq : source.ahead c.position = source'.ahead c'.position

namespace Aligned

variable {source source' : Source} {c c' d d' : Cursor}

theorem size_sub_eq (aligned : Aligned source source' c c') :
    source.size - c.position = source'.size - c'.position := by
  rw [← Source.length_ahead, ← Source.length_ahead, aligned.ahead_eq]

theorem character_eq (aligned : Aligned source source' c c') : c.character = c'.character := by
  rw [aligned.marks.character_eq_head?, aligned.marks'.character_eq_head?, aligned.ahead_eq]

theorem next (aligned : Aligned source source' c c') :
    Aligned source source' (c.next source) (c'.next source') := by
  refine ⟨aligned.marks.next, aligned.marks'.next, ?_⟩
  cases here : c.character with
  | none =>
    have here' : c'.character = none := aligned.character_eq ▸ here
    rw [next_eq_self here, next_eq_self here', aligned.ahead_eq]
  | some a =>
    have here' : c'.character = some a := aligned.character_eq ▸ here
    have same := aligned.ahead_eq
    rw [aligned.marks.ahead_eq_cons here, aligned.marks'.ahead_eq_cons here'] at same
    exact List.tail_eq_of_cons_eq same

theorem position_lt_iff (first : Aligned source source' c c') (second : Aligned source source' d d') :
    c.position < d.position ↔ c'.position < d'.position := by
  have sizes := first.size_sub_eq
  have sizes' := second.size_sub_eq
  have within := first.marks.within
  have within' := first.marks'.within
  have reach := second.marks.within
  have reach' := second.marks'.within
  omega

/-- Between cursors with the same text ahead lies the same text. -/
theorem text_eq (first : Aligned source source' c c') (second : Aligned source source' d d') :
    source.text ⟨c.position, d.position⟩ = source'.text ⟨c'.position, d'.position⟩ := by
  have lengths : d.position - c.position = d'.position - c'.position := by
    have sizes := first.size_sub_eq
    have sizes' := second.size_sub_eq
    have within := first.marks.within
    have within' := first.marks'.within
    have reach := second.marks.within
    have reach' := second.marks'.within
    omega
  rw [Source.text_eq_take_ahead, Source.text_eq_take_ahead, first.ahead_eq, Span.length,
    Span.length, lengths]

end Aligned

end Cursor

namespace Likeness

variable {α : Type} {env env' : Env} {definitions_eq : env'.definitions = env.definitions}

/-- Engines with the same definitions are alike at cursors with the same text ahead. -/
def aligned (definitions_eq : env'.definitions = env.definitions) : Likeness env env' where
  covers _ := True
  cursor := Cursor.Aligned env.source env'.source
  skipping := Eq
  log := Forall₂ (Event.Alike (Cursor.Aligned env.source env'.source))
  fault := Eq
  excuse _ := False
  covers_part _ _ := trivial
  character_eq := Cursor.Aligned.character_eq
  cursor_next := Cursor.Aligned.next
  position_lt_iff := Cursor.Aligned.position_lt_iff
  active_eq skippings := congrArg Skipping.active skippings
  -- Settings of skipping and faults correspond as they do within one engine.
  ignore_eq := (noted env []).ignore_eq
  suspended := rfl
  toggle := (noted env []).toggle
  skipped _ logs cursors := .cons (.skipped cursors) logs
  resolved _ logs cursors := .cons (.resolved cursors) logs
  found _ sought := ⟨definitions_eq ▸ sought, trivial⟩
  missing _ sought := Or.inr ⟨definitions_eq ▸ sought, rfl, fun logs => .cons .undefined logs⟩
  bounds := (noted env []).bounds

theorem reversible_aligned : (aligned definitions_eq).Reversible :=
  ⟨definitions_eq, fun _ => id⟩

/-- The trees of captures are equal, since the captured texts are. -/
theorem builds_aligned : (aligned definitions_eq).Builds .tree .tree Eq where
  gather := by
    rintro members members' c c' memberwise _
    rw [List.forall₂_eq_eq_eq] at memberwise
    rw [memberwise]
    rfl
  capture := by
    rintro name a _ c c' d d' rfl starts stops
    have texts := Cursor.Aligned.text_eq starts stops
    cases a with
    | none => exact congrArg (fun text => some (Tree.leaf name text)) texts
    | some inner => rfl

end Likeness

/-! ## Shifted places -/

/-- The far cursor stands so much further on than the near one, at the same character. -/
structure Cursor.Shifted (offset : Nat) (near far : Cursor) : Prop where
  position : far.position = offset + near.position
  character : far.character = near.character

theorem Cursor.Aligned.shifted {front source : Source} {c c' : Cursor}
    (aligned : Aligned source (front ++ source) c c') : c.Shifted front.size c' where
  position := by
    have sizes := aligned.size_sub_eq
    have within := aligned.marks.within
    have within' := aligned.marks'.within
    have size : (front ++ source).size = front.size + source.size := Array.size_append
    rw [size] at sizes within'
    omega
  character := aligned.character_eq.symm

theorem Event.Alike.imp {related related' : Cursor → Cursor → Prop}
    (implies : ∀ c c', related c c' → related' c c') {event event' : Event}
    (events : Alike related event event') : Alike related' event event' := by
  cases events with
  | skipped cursors => exact .skipped (implies _ _ cursors)
  | resolved cursors => exact .resolved (implies _ _ cursors)
  | undefined => exact .undefined

namespace Likeness

variable {α : Type} {env env' : Env} {alike : Likeness env env'} {related : Cursor → Cursor → Prop}
  (implies : ∀ c c', alike.cursor c c' → related c c')
include implies

theorem Trails.entries_alike {t t' : Trail} (trails : alike.Trails t t') :
    Forall₂ (Mismatch.Alike related) t.entries t'.entries := by
  have entry {m m' : Mismatch} (mismatches : alike.Mismatches m m') : m.Alike related m' :=
    ⟨mismatches.pattern, implies _ _ mismatches.start, implies _ _ mismatches.stop⟩
  induction trails with
  | single mismatches => exact .cons (entry mismatches) .nil
  | within _ mismatches ih =>
    rw [Trail.entries_within, Trail.entries_within]
    exact List.rel_append ih (.cons (entry mismatches) .nil)

theorem Failures.toAlike (faults : ∀ {f f'}, alike.fault f f' → f = f') {failure failure' : Failure}
    (failures : alike.Failures failure failure') : failure.Alike related failure' := by
  cases failures with
  | mismatch trails => exact .mismatch (trails.entries_alike implies)
  | fault alikeFaults =>
    rw [faults alikeFaults]
    exact .fault

end Likeness

open Likeness

namespace Session

variable {α : Type}

/-- The session with a text put in front of its own, at the place where it stood before. -/
def behind (session : Session) (front : Source) : Session :=
  { session with
    source := front ++ session.source
    cursor := .ofPosition (front ++ session.source) (front.size + session.cursor.position) }

variable {session : Session} {front : Source}

theorem cursor_aligned (marks : session.cursor.Marks session.source) (front : Source) :
    Cursor.Aligned session.source (front ++ session.source) session.cursor
      (session.behind front).cursor where
  marks := marks
  marks' := by
    refine ⟨?_, rfl⟩
    rw [Array.size_append]
    exact Nat.add_le_add_left marks.within _
  ahead_eq := (Source.ahead_append front session.source session.cursor.position).symm

/-- The engine of the session with a text in front is like its own. -/
def shift (session : Session) (front : Source) :
    Likeness session.toEnv (session.behind front).toEnv :=
  aligned rfl

theorem states_shift (marks : session.cursor.Marks session.source) :
    (session.shift front).States session.state (session.behind front).state :=
  ⟨cursor_aligned marks front, rfl, .nil⟩

/-- Runs that agree say the same of shifted places. -/
theorem reply?_alike {value value' : α → α → Prop} {r r' : Run α}
    (agrees : (session.shift front).Agrees value r r') (implies : ∀ a a', value a a' → value' a a') :
    Option.Rel (Reply.Alike (Cursor.Shifted front.size) value') (session.reply? r)
      ((session.behind front).reply? r') := by
  have shifted (c c' : Cursor) (cursors : (session.shift front).cursor c c') :
      c.Shifted front.size c' :=
    Cursor.Aligned.shifted cursors
  have logs {s s' : State} (states : (session.shift front).States s s') :
      Forall₂ (Event.Alike (Cursor.Shifted front.size)) s.log.reverse s'.log.reverse :=
    List.rel_reverse (states.log.imp fun _ _ => Event.Alike.imp shifted)
  cases agrees with
  | done valued states =>
    exact .some ⟨.ok (implies _ _ valued), shifted _ _ states.cursor, states.skipping, logs states⟩
  | failed failures states =>
    exact .some ⟨.error (failures.toAlike shifted id), shifted _ _ states.cursor, states.skipping,
      logs states⟩
  | exhausted => exact .none

variable (marks : session.cursor.Marks session.source) (front : Source) (budget : Nat) (e : Expr)
include marks

theorem recognizeWithin_shifted :
    Option.Rel (Reply.Alike (Cursor.Shifted front.size) (Cursor.Shifted front.size))
      (session.recognizeWithin budget e) ((session.behind front).recognizeWithin budget e) := by
  rw [recognizeWithin_eq, recognizeWithin_eq]
  exact reply?_alike
    (run_agrees reversible_aligned builds_recognizer budget trivial (states_shift marks))
    fun _ _ => Cursor.Aligned.shifted

theorem recognizeAllWithin_shifted :
    Option.Rel (Reply.Alike (Cursor.Shifted front.size) (Cursor.Shifted front.size))
      (session.recognizeAllWithin budget e) ((session.behind front).recognizeAllWithin budget e) := by
  rw [recognizeAllWithin_eq, recognizeAllWithin_eq]
  exact reply?_alike
    (runToEnd_agrees reversible_aligned builds_recognizer budget trivial (states_shift marks))
    fun _ _ => Cursor.Aligned.shifted

theorem parseWithin_shifted :
    Option.Rel (Reply.Alike (Cursor.Shifted front.size) Eq) (session.parseWithin budget e)
      ((session.behind front).parseWithin budget e) := by
  rw [parseWithin_eq, parseWithin_eq]
  exact reply?_alike
    (run_agrees reversible_aligned builds_aligned budget trivial (states_shift marks)) fun _ _ => id

theorem parseAllWithin_shifted :
    Option.Rel (Reply.Alike (Cursor.Shifted front.size) Eq) (session.parseAllWithin budget e)
      ((session.behind front).parseAllWithin budget e) := by
  rw [parseAllWithin_eq, parseAllWithin_eq]
  exact reply?_alike
    (runToEnd_agrees reversible_aligned builds_aligned budget trivial (states_shift marks))
    fun _ _ => id

omit marks in
/-- A session gives itself no smaller budget for having more text. -/
theorem budget_le_behind : session.budget e ≤ (session.behind front).budget e := by
  have sizes : session.source.size ≤ (session.behind front).source.size := by
    rw [behind, Array.size_append]
    exact Nat.le_add_left _ _
  have places : 2 * (e.size + Expr.sizeAll session.exprs) * (session.source.size + 1) ≤
      2 * (e.size + Expr.sizeAll session.exprs) * ((session.behind front).source.size + 1) :=
    Nat.mul_le_mul_left _ (Nat.succ_le_succ sizes)
  exact Nat.add_le_add_right (Nat.add_le_add places sizes) _

end Session

/-- A match does not look behind. Put a text in front of another, and every match from the same place
of the other says the same: it succeeds with the same tree, or mismatches for the same patterns, or is at
fault in the same way, and all the places it mentions, from its cursors to its log, are further on by
the length of that text and hold the same characters. So it is with every budget, and where each session
gives itself its own. -/
theorem matches_shifted (session : Session) (marks : session.cursor.Marks session.source)
    (front : Source) (e : Expr) :
    (∀ budget,
      Option.Rel (Reply.Alike (Cursor.Shifted front.size) (Cursor.Shifted front.size))
        (session.recognizeWithin budget e) ((session.behind front).recognizeWithin budget e) ∧
      Option.Rel (Reply.Alike (Cursor.Shifted front.size) (Cursor.Shifted front.size))
        (session.recognizeAllWithin budget e)
        ((session.behind front).recognizeAllWithin budget e) ∧
      Option.Rel (Reply.Alike (Cursor.Shifted front.size) Eq)
        (session.parseWithin budget e) ((session.behind front).parseWithin budget e) ∧
      Option.Rel (Reply.Alike (Cursor.Shifted front.size) Eq)
        (session.parseAllWithin budget e) ((session.behind front).parseAllWithin budget e)) ∧
    Option.Rel (Reply.Alike (Cursor.Shifted front.size) (Cursor.Shifted front.size))
      (session.recognize e) ((session.behind front).recognize e) ∧
    Option.Rel (Reply.Alike (Cursor.Shifted front.size) (Cursor.Shifted front.size))
      (session.recognizeAll e) ((session.behind front).recognizeAll e) ∧
    Option.Rel (Reply.Alike (Cursor.Shifted front.size) Eq)
      (session.parse e) ((session.behind front).parse e) ∧
    Option.Rel (Reply.Alike (Cursor.Shifted front.size) Eq)
      (session.parseAll e) ((session.behind front).parseAll e) := by
  -- Of the two budgets that the sessions give themselves, the larger one serves both.
  have enough : session.budget e ≤ (session.behind front).budget e :=
    Session.budget_le_behind front e
  refine ⟨fun budget => ⟨?_, ?_, ?_, ?_⟩, ?_, ?_, ?_, ?_⟩
  · exact Session.recognizeWithin_shifted marks front budget e
  · exact Session.recognizeAllWithin_shifted marks front budget e
  · exact Session.parseWithin_shifted marks front budget e
  · exact Session.parseAllWithin_shifted marks front budget e
  · rw [← session.recognizeWithin_of_le marks enough]
    exact Session.recognizeWithin_shifted marks front _ e
  · rw [← session.recognizeAllWithin_of_le marks enough]
    exact Session.recognizeAllWithin_shifted marks front _ e
  · rw [← session.parseWithin_of_le marks enough]
    exact Session.parseWithin_shifted marks front _ e
  · rw [← session.parseAllWithin_of_le marks enough]
    exact Session.parseAllWithin_shifted marks front _ e

/-- A session on a text that begins with a line feed. -/
def Session.sampleBroken : Session where
  source := #['\n', 'a', 'b']
  definitions := .empty
  skipping := ⟨[], false⟩
  cursor := .start #['\n', 'a', 'b']

/-- With a carriage return in front, the line feed belongs to a line break that began before it. -/
theorem sampleBroken_shifted : ∃ reply reply',
    Session.sampleBroken.parse (.seq [.eol, .capture "a" .any]) = some reply ∧
      (Session.sampleBroken.behind #['c', '\r']).parse (.seq [.eol, .capture "a" .any]) =
        some reply' ∧
      reply.outcome.toOption.isSome = true ∧ Reply.Alike (Cursor.Shifted 2) Eq reply reply' := by
  have alike := (matches_shifted Session.sampleBroken (Cursor.start_marks _) #['c', '\r']
    (.seq [.eol, .capture "a" .any])).2.2.2.1
  have answered : (Session.sampleBroken.parse (.seq [.eol, .capture "a" .any])).map
      (fun reply => reply.outcome.toOption.isSome) = some true := by
    decide +kernel
  obtain ⟨reply, replied, succeeded⟩ := Option.map_eq_some_iff.mp answered
  rw [replied] at alike
  generalize replied' : (Session.sampleBroken.behind #['c', '\r']).parse
    (.seq [.eol, .capture "a" .any]) = answer at alike
  cases alike with
  | some replies => exact ⟨reply, _, replied, rfl, succeeded, replies⟩

end PegEngine
