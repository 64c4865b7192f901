import Mathlib.Data.List.Forall2
import PegEngine.Expr.Walk
import PegEngine.Proofs.Rollback

/-! Runs of two engines side by side. A likeness says which cursors, settings of skipping, logs and
faults of two engines correspond to each other, and why these correspondences survive one step. The
main statement is that then whole runs correspond: what the first engine answers, the second answers
too, given at least the same budget. One proof over all operators serves every such comparison. -/
namespace PegEngine

open List (Forall₂)

/-- A correspondence between two engines. -/
structure Likeness (env env' : Env) where
  /-- The expressions for which the engines are compared. -/
  covers : Expr → Prop
  cursor : Cursor → Cursor → Prop
  skipping : Skipping → Skipping → Prop
  log : List Event → List Event → Prop
  fault : Fault → Fault → Prop
  /-- The faults of the first engine after which nothing is asked of the second. -/
  excuse : Fault → Prop
  covers_part : ∀ {e part}, covers e → part ∈ e.parts → covers part
  character_eq : ∀ {c c'}, cursor c c' → c.character = c'.character
  cursor_next : ∀ {c c'}, cursor c c' → cursor (c.next env.source) (c'.next env'.source)
  position_lt_iff : ∀ {c c' d d'}, cursor c c' → cursor d d' →
    (c.position < d.position ↔ c'.position < d'.position)
  active_eq : ∀ {k k'}, skipping k k' → k.active = k'.active
  ignore_eq : ∀ {k k'}, skipping k k' → k.active = true →
    k.ignore = k'.ignore ∧ ∀ e ∈ k.ignore, covers e
  suspended : skipping .suspended .suspended
  toggle : ∀ {k k'}, skipping k k' → skipping (k.toggle true) (k'.toggle true)
  skipped : ∀ {l l' c c'} e, log l l' → cursor c c' → log (.skipped e c :: l) (.skipped e c' :: l')
  resolved : ∀ {l l' c c'} name, log l l' → cursor c c' →
    log (.resolved name c :: l) (.resolved name c' :: l')
  found : ∀ {name target}, covers (.ref name) → env.definitions.find? name = some target →
    env'.definitions.find? name = some target ∧ covers target
  missing : ∀ {name}, covers (.ref name) → env.definitions.find? name = none →
    excuse (.undefined name) ∨
      env'.definitions.find? name = none ∧ fault (.undefined name) (.undefined name) ∧
        ∀ {l l'}, log l l' → log (.undefined name :: l) (.undefined name :: l')
  bounds : ∀ {e broken}, covers e → e.checkBounds = .error broken →
    excuse broken ∨ fault broken broken

namespace Likeness

variable {env env' : Env} (alike : Likeness env env') {α β γ δ : Type}

/-- States that correspond. -/
structure States (s s' : State) : Prop where
  cursor : alike.cursor s.cursor s'.cursor
  skipping : alike.skipping s.skipping s'.skipping
  log : alike.log s.log s'.log

/-- Mismatches of the same pattern between corresponding cursors. -/
structure Mismatches (m m' : Mismatch) : Prop where
  pattern : m.pattern = m'.pattern
  start : alike.cursor m.start m'.start
  stop : alike.cursor m.stop m'.stop

/-- Trails that correspond mismatch by mismatch. -/
inductive Trails : Trail → Trail → Prop where
  | single {m m' : Mismatch} : alike.Mismatches m m' → Trails (.single m) (.single m')
  | within {t t' : Trail} {m m' : Mismatch} :
      Trails t t' → alike.Mismatches m m' → Trails (.within t m) (.within t' m')

/-- Failures that correspond. -/
inductive Failures : Failure → Failure → Prop where
  | mismatch {t t' : Trail} : alike.Trails t t' → Failures (.mismatch t) (.mismatch t')
  | fault {f f' : Fault} : alike.fault f f' → Failures (.fault f) (.fault f')

/-- Failures of the first engine after which nothing is asked of the second. -/
def Excused : Failure → Prop
  | .mismatch _ => False
  | .fault broken => alike.excuse broken

/-- The second run ends as the first does, unless the first is exhausted or excuses it. -/
def Follows (value : α → β → Prop) (r : Run α) (r' : Run β) : Prop :=
  match r with
  | .done a s => ∃ b s', r' = .done b s' ∧ value a b ∧ alike.States s s'
  | .failed f s =>
    alike.Excused f ∨ ∃ f' s', r' = .failed f' s' ∧ alike.Failures f f' ∧ alike.States s s'
  | .exhausted => True

variable {alike}

/-! ## States and failures -/

theorem position_eq_iff {c c' d d' : Cursor} (first : alike.cursor c c')
    (second : alike.cursor d d') : c.position = d.position ↔ c'.position = d'.position := by
  have below := alike.position_lt_iff first second
  have above := alike.position_lt_iff second first
  omega

theorem States.next {s s' : State} (states : alike.States s s') :
    alike.States (s.next env.source) (s'.next env'.source) :=
  ⟨alike.cursor_next states.cursor, states.skipping, states.log⟩

theorem States.moveTo {s s' : State} {c c' : Cursor} (states : alike.States s s')
    (cursors : alike.cursor c c') : alike.States (s.moveTo c) (s'.moveTo c') :=
  ⟨cursors, states.skipping, states.log⟩

theorem States.withSkipping {s s' : State} {k k' : Skipping} (states : alike.States s s')
    (skippings : alike.skipping k k') : alike.States (s.withSkipping k) (s'.withSkipping k') :=
  ⟨states.cursor, skippings, states.log⟩

theorem States.isDone_eq {s s' : State} (states : alike.States s s') :
    s.cursor.isDone = s'.cursor.isDone := by
  rw [Cursor.isDone, Cursor.isDone, alike.character_eq states.cursor]

theorem Excused.within {f : Failure} (excused : alike.Excused f) (context : Mismatch) :
    alike.Excused (f.within context) := by
  cases f with
  | mismatch trail => exact excused.elim
  | fault broken => exact excused

theorem Failures.within {f f' : Failure} {m m' : Mismatch} (failures : alike.Failures f f')
    (mismatches : alike.Mismatches m m') : alike.Failures (f.within m) (f'.within m') := by
  cases failures with
  | mismatch trails => exact .mismatch (.within trails mismatches)
  | fault faults => exact .fault faults

theorem Failures.isMismatch_eq {f f' : Failure} (failures : alike.Failures f f') :
    f.isMismatch = f'.isMismatch := by
  cases failures with
  | mismatch trails => rfl
  | fault faults => rfl

/-! ## Following -/

theorem follows_done {value : α → β → Prop} {a : α} {b : β} {s s' : State} (valued : value a b)
    (states : alike.States s s') : alike.Follows value (.done a s) (.done b s') :=
  ⟨b, s', rfl, valued, states⟩

theorem follows_failed {value : α → β → Prop} {f f' : Failure} {s s' : State}
    (failures : alike.Failures f f') (states : alike.States s s') :
    alike.Follows value (.failed f s) (.failed f' s') :=
  Or.inr ⟨f', s', rfl, failures, states⟩

theorem follows_arrive {s s' : State} (states : alike.States s s') :
    alike.Follows alike.cursor s.arrive s'.arrive :=
  follows_done states.cursor states

theorem follows_mismatch {value : α → β → Prop} {s s' : State} (pattern : Expr)
    (states : alike.States s s') :
    alike.Follows value (s.mismatch pattern) (s'.mismatch pattern) :=
  follows_failed (.mismatch (.single ⟨rfl, states.cursor, states.cursor⟩)) states

section Follows

variable {value : α → β → Prop} {value' : γ → δ → Prop} {r : Run α} {r' : Run β}
  (follows : alike.Follows value r r')
include follows

theorem Follows.andThen {rest : α → State → Run γ} {rest' : β → State → Run δ}
    (next : ∀ a b s s', value a b → alike.States s s' →
      alike.Follows value' (rest a s) (rest' b s')) :
    alike.Follows value' (r.andThen rest) (r'.andThen rest') := by
  cases r with
  | done a s =>
    obtain ⟨b, s', rfl, valued, states⟩ := follows
    exact next a b s s' valued states
  | failed f s =>
    rcases follows with excused | ⟨f', s', rfl, failures, states⟩
    · exact Or.inl excused
    · exact follows_failed failures states
  | exhausted => trivial

theorem Follows.map {f : α → γ} {f' : β → δ} (valued : ∀ a b, value a b → value' (f a) (f' b)) :
    alike.Follows value' (r.map f) (r'.map f') := by
  cases r with
  | done a s =>
    obtain ⟨b, s', rfl, here, states⟩ := follows
    exact follows_done (valued a b here) states
  | failed f s =>
    rcases follows with excused | ⟨f', s', rfl, failures, states⟩
    · exact Or.inl excused
    · exact follows_failed failures states
  | exhausted => trivial

theorem Follows.orReturnTo {c c' : Cursor} (cursors : alike.cursor c c') :
    alike.Follows value (r.orReturnTo c) (r'.orReturnTo c') := by
  cases r with
  | done a s =>
    obtain ⟨b, s', rfl, valued, states⟩ := follows
    exact follows_done valued states
  | failed f s =>
    rcases follows with excused | ⟨f', s', rfl, failures, states⟩
    · exact Or.inl excused
    · exact follows_failed failures (states.moveTo cursors)
  | exhausted => trivial

/-- What is put back afterwards is put back in both. -/
theorem Follows.afterwards {mend mend' : State → State}
    (mended : ∀ t t', r.state? = some t → r'.state? = some t' → alike.States t t' →
      alike.States (mend t) (mend' t')) :
    alike.Follows value (r.afterwards mend) (r'.afterwards mend') := by
  cases r with
  | done a s =>
    obtain ⟨b, s', rfl, valued, states⟩ := follows
    exact follows_done valued (mended s s' rfl rfl states)
  | failed f s =>
    rcases follows with excused | ⟨f', s', rfl, failures, states⟩
    · exact Or.inl excused
    · exact follows_failed failures (mended s s' rfl rfl states)
  | exhausted => trivial

end Follows

open Run

/-! ## Primitives -/

section Primitives

variable {s s' : State} (states : alike.States s s')
include states

theorem checkBounds_follows {e : Expr} (covered : alike.covers e) :
    alike.Follows (fun _ _ => True) (checkBounds e s) (checkBounds e s') := by
  rw [checkBounds, checkBounds]
  cases bounds : e.checkBounds with
  | ok _ => exact follows_done trivial states
  | error broken =>
    rcases alike.bounds covered bounds with excused | faults
    · exact Or.inl excused
    · exact follows_failed (.fault faults) states

theorem oneOf_follows (pattern : Expr) (accepts : Char → Bool) :
    alike.Follows alike.cursor (oneOf env.source pattern accepts s)
      (oneOf env'.source pattern accepts s') := by
  rw [oneOf, oneOf, ← alike.character_eq states.cursor]
  cases s.cursor.character with
  | none => exact follows_mismatch pattern states
  | some c =>
    dsimp only
    split
    · exact follows_arrive states.next
    · exact follows_mismatch pattern states

theorem allOf_follows (pattern : Expr) {start start' : Cursor}
    (starts : alike.cursor start start') (chars : List Char) :
    alike.Follows alike.cursor (allOf env.source pattern start chars s)
      (allOf env'.source pattern start' chars s') := by
  induction chars generalizing s s' with
  | nil => exact follows_arrive states
  | cons c rest ih =>
    rw [allOf, allOf, ← alike.character_eq states.cursor]
    split
    · exact ih states.next
    · exact follows_failed (.mismatch (.single ⟨rfl, starts, states.cursor⟩))
        (states.moveTo starts)

theorem atEnd_follows (pattern : Expr) :
    alike.Follows alike.cursor (atEnd pattern s) (atEnd pattern s') := by
  rw [atEnd, atEnd, ← states.isDone_eq]
  split
  · exact follows_arrive states
  · exact follows_mismatch pattern states

theorem lineBreak_follows (pattern : Expr) :
    alike.Follows alike.cursor (lineBreak env.source pattern s)
      (lineBreak env'.source pattern s') := by
  rw [lineBreak, lineBreak, ← alike.character_eq states.cursor,
    ← alike.character_eq states.next.cursor]
  split
  · exact follows_arrive states.next
  · split
    · split
      · exact follows_arrive states.next.next
      · exact follows_arrive states.next
    · exact follows_mismatch pattern states

theorem blank_follows (pattern : Expr) :
    alike.Follows alike.cursor (blank env.source pattern s) (blank env'.source pattern s') := by
  rw [blank, blank, ← alike.character_eq states.cursor]
  split
  · exact follows_arrive states.next
  · exact lineBreak_follows states pattern

end Primitives

/-! ## Compounds -/

section Compounds

variable {value : α → β → Prop} {s s' : State} {start start' : Cursor}

section Lists

variable {item : Expr → State → Run α} {item' : Expr → State → Run β}
  (itemFollows : ∀ e, alike.covers e → ∀ t t', alike.States t t' →
    alike.Follows value (item e t) (item' e t'))
  (pattern : Expr) (starts : alike.cursor start start')
include itemFollows starts

theorem sequence_follows {items : List Expr} (covered : ∀ e ∈ items, alike.covers e)
    {values : List α} {values' : List β} (valued : Forall₂ value values values')
    (states : alike.States s s') :
    alike.Follows (Forall₂ value) (sequence item pattern start items values s)
      (sequence item' pattern start' items values' s') := by
  induction items generalizing values values' s s' with
  | nil => exact follows_done (List.rel_reverse valued) states
  | cons e rest ih =>
    obtain ⟨headCovered, restCovered⟩ := List.forall_mem_cons.mp covered
    have follows := itemFollows e headCovered s s' states
    rw [Run.sequence, Run.sequence]
    cases ran : item e s with
    | done a t =>
      rw [ran] at follows
      obtain ⟨b, t', ran', here, states'⟩ := follows
      rw [ran']
      exact ih restCovered (.cons here valued) states'
    | failed failure t =>
      rw [ran] at follows
      rcases follows with excused | ⟨failure', t', ran', failures, states'⟩
      · exact Or.inl (excused.within _)
      · rw [ran']
        exact follows_failed (failures.within ⟨rfl, starts, states.cursor⟩)
          (states'.moveTo starts)
    | exhausted => trivial

/-- The trails that two choices carry along, if they carry any. -/
def Lasts (alike : Likeness env env') : Option Trail → Option Trail → Prop :=
  Option.Rel alike.Trails

omit itemFollows in
theorem noAlternative_alike {last last' : Option Trail} (lasts : alike.Lasts last last') :
    alike.Failures (noAlternative pattern start last) (noAlternative pattern start' last') := by
  cases lasts with
  | some trails => exact .mismatch (.within trails ⟨rfl, starts, starts⟩)
  | none => exact .mismatch (.single ⟨rfl, starts, starts⟩)

theorem firstOf_follows {alternatives : List Expr} (covered : ∀ e ∈ alternatives, alike.covers e)
    {last last' : Option Trail} (lasts : alike.Lasts last last') (states : alike.States s s') :
    alike.Follows value (firstOf item pattern start alternatives last s)
      (firstOf item' pattern start' alternatives last' s') := by
  induction alternatives generalizing last last' s s' with
  | nil => exact follows_failed (noAlternative_alike pattern starts lasts) (states.moveTo starts)
  | cons e rest ih =>
    obtain ⟨headCovered, restCovered⟩ := List.forall_mem_cons.mp covered
    have follows := itemFollows e headCovered s s' states
    rw [firstOf, firstOf]
    cases ran : item e s with
    | done a t =>
      rw [ran] at follows
      obtain ⟨b, t', ran', here, states'⟩ := follows
      rw [ran']
      exact follows_done here states'
    | failed failure t =>
      rw [ran] at follows
      rcases follows with excused | ⟨failure', t', ran', failures, states'⟩
      · cases failure with
        | mismatch trail => exact excused.elim
        | fault broken => exact Or.inl excused
      · rw [ran']
        cases failures with
        | mismatch trails => exact ih restCovered (.some trails) states'
        | fault faults => exact follows_failed (.fault faults) states'
    | exhausted => trivial

end Lists

section Bodies

variable {body : State → Run α} {body' : State → Run β}
  (bodyFollows : ∀ t t', alike.States t t' → alike.Follows value (body t) (body' t'))
include bodyFollows

theorem optional_follows {fallback : State → Run α} {fallback' : State → Run β}
    (fallbackFollows : ∀ t t', alike.States t t' →
      alike.Follows value (fallback t) (fallback' t')) (states : alike.States s s') :
    alike.Follows value (Run.optional body fallback s) (Run.optional body' fallback' s') := by
  have follows := bodyFollows s s' states
  rw [Run.optional, Run.optional]
  cases ran : body s with
  | done a t =>
    rw [ran] at follows
    obtain ⟨b, t', ran', here, states'⟩ := follows
    rw [ran']
    exact follows_done here states'
  | failed failure t =>
    rw [ran] at follows
    rcases follows with excused | ⟨failure', t', ran', failures, states'⟩
    · cases failure with
      | mismatch trail => exact excused.elim
      | fault broken => exact Or.inl excused
    · rw [ran']
      cases failures with
      | mismatch trails => exact fallbackFollows t t' states'
      | fault faults => exact follows_failed (.fault faults) states'
  | exhausted => trivial

theorem repetition_follows (pattern : Expr) (min max : Nat) (starts : alike.cursor start start')
    {rounds rounds' : Nat} (enough : rounds ≤ rounds') (count : Nat) {values : List α}
    {values' : List β} (valued : Forall₂ value values values') (states : alike.States s s') :
    alike.Follows (Forall₂ value) (repetition body pattern min max start rounds count values s)
      (repetition body' pattern min max start' rounds' count values' s') := by
  induction rounds generalizing rounds' count values values' s s' with
  | zero => trivial
  | succ rounds ih =>
    obtain ⟨rounds', rfl⟩ := Nat.exists_eq_add_of_le' enough
    have enough' : rounds ≤ rounds' + rounds := Nat.le_add_left _ _
    have follows := bodyFollows s s' states
    rw [repetition, show rounds' + (rounds + 1) = (rounds' + rounds) + 1 from rfl, repetition]
    split
    · exact follows_done (List.rel_reverse valued) states
    · cases ran : body s with
      | done a t =>
        rw [ran] at follows
        obtain ⟨b, t', ran', here, states'⟩ := follows
        rw [ran']
        dsimp only
        have still := position_eq_iff states'.cursor states.cursor
        by_cases same : t.cursor.position = s.cursor.position
        · rw [if_pos same, if_pos (still.mp same)]
          exact follows_done (List.rel_reverse (.cons here valued)) states'
        · rw [if_neg same, if_neg fun same' => same (still.mpr same')]
          exact ih enough' (count + 1) (.cons here valued) states'
      | failed failure t =>
        rw [ran] at follows
        dsimp only
        rcases follows with excused | ⟨failure', t', ran', failures, states'⟩
        · have hard : failure.isMismatch = false := by
            cases failure with
            | mismatch trail => exact excused.elim
            | fault broken => rfl
          rw [hard, if_neg fun soft => Bool.false_ne_true soft.1]
          exact Or.inl (excused.within _)
        · rw [ran']
          dsimp only
          rw [← failures.isMismatch_eq]
          split
          · exact follows_done (List.rel_reverse valued) states'
          · exact follows_failed (failures.within ⟨rfl, starts, states.cursor⟩)
              (states'.moveTo starts)
      | exhausted => trivial

end Bodies

section Looks

variable {look look' : State → Run Cursor}
  (lookFollows : ∀ t t', alike.States t t' → alike.Follows alike.cursor (look t) (look' t'))
  (pattern : Expr) (states : alike.States s s')
include lookFollows states

theorem notAhead_follows :
    alike.Follows alike.cursor (notAhead look pattern s) (notAhead look' pattern s') := by
  have follows := lookFollows s s' states
  rw [notAhead, notAhead]
  cases ran : look s with
  | done stop t =>
    rw [ran] at follows
    obtain ⟨stop', t', ran', stops, states'⟩ := follows
    rw [ran']
    exact follows_failed (.mismatch (.single ⟨rfl, states.cursor, stops⟩))
      (states'.moveTo states.cursor)
  | failed failure t =>
    rw [ran] at follows
    rcases follows with excused | ⟨failure', t', ran', failures, states'⟩
    · cases failure with
      | mismatch trail => exact excused.elim
      | fault broken => exact Or.inl excused
    · rw [ran']
      cases failures with
      | mismatch trails => exact follows_arrive (states'.moveTo states.cursor)
      | fault faults => exact follows_failed (.fault faults) (states'.moveTo states.cursor)
  | exhausted => trivial

theorem ahead_follows :
    alike.Follows alike.cursor (ahead look pattern s) (ahead look' pattern s') := by
  have follows := lookFollows s s' states
  rw [ahead, ahead]
  cases ran : look s with
  | done stop t =>
    rw [ran] at follows
    obtain ⟨stop', t', ran', stops, states'⟩ := follows
    rw [ran']
    exact follows_arrive (states'.moveTo states.cursor)
  | failed failure t =>
    rw [ran] at follows
    rcases follows with excused | ⟨failure', t', ran', failures, states'⟩
    · exact Or.inl (excused.within _)
    · rw [ran']
      exact follows_failed (failures.within ⟨rfl, states.cursor, states.cursor⟩)
        (states'.moveTo states.cursor)
  | exhausted => trivial

theorem oneBut_follows :
    alike.Follows alike.cursor (oneBut env.source look pattern s)
      (oneBut env'.source look' pattern s') := by
  have follows := lookFollows s s' states
  rw [oneBut, oneBut]
  cases ran : look s with
  | done stop t =>
    rw [ran] at follows
    obtain ⟨stop', t', ran', stops, states'⟩ := follows
    rw [ran']
    exact follows_mismatch pattern (states'.moveTo states.cursor)
  | failed failure t =>
    rw [ran] at follows
    rcases follows with excused | ⟨failure', t', ran', failures, states'⟩
    · cases failure with
      | mismatch trail => exact excused.elim
      | fault broken => exact Or.inl excused
    · rw [ran']
      cases failures with
      | mismatch trails => exact oneOf_follows states' pattern fun _ => true
      | fault faults => exact follows_failed (.fault faults) states'
  | exhausted => trivial

end Looks

end Compounds

/-! ## Skipping -/

section Skipping

variable {recognize recognize' : Expr → State → Run Cursor}
  (recognizeFollows : ∀ e, alike.covers e → ∀ t t', alike.States t t' →
    alike.Follows alike.cursor (recognize e t) (recognize' e t'))
  {s s' : State} (states : alike.States s s')
include recognizeFollows states

theorem skipOne_follows {ignore : List Expr} (covered : ∀ e ∈ ignore, alike.covers e) :
    alike.Follows Eq (skipOne recognize ignore s) (skipOne recognize' ignore s') := by
  induction ignore generalizing s s' with
  | nil => exact follows_done rfl states
  | cons e rest ih =>
    obtain ⟨headCovered, restCovered⟩ := List.forall_mem_cons.mp covered
    have follows := recognizeFollows e headCovered s s' states
    rw [skipOne, skipOne]
    cases ran : recognize e s with
    | done stop t =>
      rw [ran] at follows
      obtain ⟨stop', t', ran', stops, states'⟩ := follows
      rw [ran']
      dsimp only
      have further := alike.position_lt_iff states.cursor stops
      by_cases moved : s.cursor.position < stop.position
      · rw [if_pos moved, if_pos (further.mp moved)]
        exact follows_done rfl
          ⟨states'.cursor, states'.skipping, alike.skipped e states'.log states.cursor⟩
      · rw [if_neg moved, if_neg fun moved' => moved (further.mpr moved')]
        exact ih states' restCovered
    | failed failure t =>
      rw [ran] at follows
      rcases follows with excused | ⟨failure', t', ran', failures, states'⟩
      · cases failure with
        | mismatch trail => exact excused.elim
        | fault broken => exact Or.inl excused
      · rw [ran']
        cases failures with
        | mismatch trails => exact ih states' restCovered
        | fault faults => exact follows_failed (.fault faults) states'
    | exhausted => trivial

theorem skipAll_follows {ignore : List Expr} (covered : ∀ e ∈ ignore, alike.covers e)
    {rounds rounds' : Nat} (enough : rounds ≤ rounds') :
    alike.Follows Eq (skipAll recognize ignore rounds s)
      (skipAll recognize' ignore rounds' s') := by
  induction rounds generalizing rounds' s s' with
  | zero => trivial
  | succ rounds ih =>
    obtain ⟨rounds', rfl⟩ := Nat.exists_eq_add_of_le' enough
    rw [skipAll, show rounds' + (rounds + 1) = (rounds' + rounds) + 1 from rfl, skipAll]
    apply (skipOne_follows recognizeFollows states covered).andThen
    rintro more _ t t' rfl states'
    cases more with
    | true => exact ih states' (Nat.le_add_left _ _)
    | false => exact follows_done rfl states'

theorem skip_follows {rounds rounds' : Nat} (enough : rounds ≤ rounds') :
    alike.Follows Eq (skip rounds recognize s) (skip rounds' recognize' s') := by
  rw [skip, skip, ← alike.active_eq states.skipping]
  cases active : s.skipping.active with
  | true =>
    obtain ⟨same, covered⟩ := alike.ignore_eq states.skipping active
    rw [if_pos rfl, if_pos rfl, ← same]
    refine Follows.afterwards (skipAll_follows recognizeFollows
      (states.withSkipping alike.suspended) covered enough) fun t t' _ _ states' => ?_
    exact states'.withSkipping states.skipping
  | false => exact follows_done rfl states

end Skipping

/-! ## The engine -/

/-- The two builders make corresponding values. -/
structure Builds (alike : Likeness env env') (builder : Builder α) (builder' : Builder β)
    (value : α → β → Prop) : Prop where
  gather : ∀ {members members' c c'}, Forall₂ value members members' → alike.cursor c c' →
    value (builder.gather members c) (builder'.gather members' c')
  capture : ∀ {name a b c c' d d'}, value a b → alike.cursor c c' → alike.cursor d d' →
    value (builder.capture name env.source ⟨c.position, d.position⟩ a)
      (builder'.capture name env'.source ⟨c'.position, d'.position⟩ b)

theorem builds_recognizer : alike.Builds .recognizer .recognizer alike.cursor where
  gather _ stops := stops
  capture values _ _ := values

/-- Any two builders will do where values do not matter. -/
theorem builds_any (builder : Builder α) (builder' : Builder β) :
    alike.Builds builder builder' fun _ _ => True where
  gather _ _ := trivial
  capture _ _ _ := trivial

section Engine

variable {value : α → β → Prop} {builder : Builder α} {builder' : Builder β}
  (builds : alike.Builds builder builder' value)
  {recognize recognize' : Expr → State → Run Cursor}
  (recognizeFollows : ∀ e, alike.covers e → ∀ t t', alike.States t t' →
    alike.Follows alike.cursor (recognize e t) (recognize' e t'))
  {build : Expr → State → Run α} {build' : Expr → State → Run β}
  (buildFollows : ∀ e, alike.covers e → ∀ t t', alike.States t t' →
    alike.Follows value (build e t) (build' e t'))
  (buildSettles : ∀ e t, Settles (fun _ _ => True) t.cursor t (build e t))
  (buildSettles' : ∀ e t, Settles (fun _ _ => True) t.cursor t (build' e t))
  {s s' : State} (states : alike.States s s')

include builds in
theorem Follows.nothing {r r' : Run Cursor} (follows : alike.Follows alike.cursor r r') :
    alike.Follows value (r.map builder.nothing) (r'.map builder'.nothing) :=
  follows.map fun _ _ stops => builds.gather .nil stops

include builds in
theorem Follows.closed {r : Run (List α)} {r' : Run (List β)}
    (follows : alike.Follows (Forall₂ value) r r') :
    alike.Follows value (r.andThen builder.close) (r'.andThen builder'.close) :=
  follows.andThen fun _ _ _ _ members states =>
    follows_done (builds.gather members states.cursor) states

include buildFollows buildSettles buildSettles' states in
theorem unskipped_follows {e : Expr} (covered : alike.covers e) :
    alike.Follows value (unskipped (build e) s) (unskipped (build' e) s') := by
  have states' := states.withSkipping (alike.toggle states.skipping)
  refine (buildFollows e covered _ _ states').afterwards fun t t' ended ended' ends => ?_
  have kept := (buildSettles e _).kept ended
  have kept' := (buildSettles' e _).kept ended'
  rw [kept, kept']
  exact ends.withSkipping states.skipping

include buildFollows states in
theorem resolve_follows {name : String} (covered : alike.covers (.ref name)) :
    alike.Follows value ((resolve env.definitions name s).andThen build)
      ((resolve env'.definitions name s').andThen build') := by
  rw [resolve, resolve]
  cases sought : env.definitions.find? name with
  | some target =>
    obtain ⟨sought', targetCovered⟩ := alike.found covered sought
    rw [sought']
    exact buildFollows target targetCovered _ _
      ⟨states.cursor, states.skipping, alike.resolved name states.log states.cursor⟩
  | none =>
    rcases alike.missing covered sought with excused | ⟨sought', faults, logs⟩
    · exact Or.inl excused
    · rw [sought']
      exact follows_failed (.fault faults) ⟨states.cursor, states.skipping, logs states.log⟩

include builds recognizeFollows buildFollows buildSettles buildSettles' states

theorem dispatch_follows {rounds rounds' : Nat} (enough : rounds ≤ rounds') {e : Expr}
    (covered : alike.covers e) :
    alike.Follows value (dispatch builder rounds recognize build env e s)
      (dispatch builder' rounds' recognize' build' env' e s') := by
  have part {body : Expr} (mem : body ∈ e.parts) : alike.covers body :=
    alike.covers_part covered mem
  cases e with
  | char c => exact (oneOf_follows states _ _).nothing builds
  | literal text => exact (allOf_follows states _ states.cursor _).nothing builds
  | seq items =>
    exact (sequence_follows buildFollows _ states.cursor (fun _ => part) .nil states).closed builds
  | choice alternatives =>
    exact firstOf_follows buildFollows _ states.cursor (fun _ => part) .none states
  | optional body =>
    exact optional_follows (buildFollows body (part (List.mem_singleton_self body)))
      (fun _ _ here => follows_done (builds.gather .nil here.cursor) here) states
  | rep min max body =>
    exact (checkBounds_follows states covered).andThen fun _ _ t t' _ here =>
      (repetition_follows (buildFollows body (part (List.mem_singleton_self body))) _ min max
        here.cursor enough 0 .nil here).closed builds
  | not body =>
    exact (notAhead_follows (recognizeFollows body (part (List.mem_singleton_self body))) _
      states).nothing builds
  | peek body =>
    exact (ahead_follows (recognizeFollows body (part (List.mem_singleton_self body))) _
      states).nothing builds
  | capture name body =>
    exact (buildFollows body (part (List.mem_singleton_self body)) s s' states).andThen
      fun _ _ _ _ valued here =>
        follows_done (builds.capture valued states.cursor here.cursor) here
  | any => exact (oneOf_follows states _ _).nothing builds
  | anyBut body =>
    exact (oneBut_follows (recognizeFollows body (part (List.mem_singleton_self body))) _
      states).nothing builds
  | range low high =>
    exact (checkBounds_follows states covered).andThen fun _ _ _ _ _ here =>
      (oneOf_follows here _ _).nothing builds
  | eof => exact (atEnd_follows states _).nothing builds
  | eol => exact (lineBreak_follows states _).nothing builds
  | space => exact (blank_follows states _).nothing builds
  | ref name => exact resolve_follows buildFollows states covered
  | verbatim body =>
    exact unskipped_follows buildFollows buildSettles buildSettles' states
      (part (List.mem_singleton_self body))

theorem step_follows {rounds rounds' : Nat} (enough : rounds ≤ rounds') {e : Expr}
    (covered : alike.covers e) :
    alike.Follows value (step builder rounds recognize build env e s)
      (step builder' rounds' recognize' build' env' e s') := by
  rw [step, step]
  refine Follows.orReturnTo ?_ states.cursor
  exact (skip_follows recognizeFollows states enough).andThen fun _ _ _ _ _ here =>
    dispatch_follows builds recognizeFollows buildFollows buildSettles buildSettles' here enough
      covered

end Engine

theorem run_follows {value : α → β → Prop} {builder : Builder α} {builder' : Builder β}
    (builds : alike.Builds builder builder' value) {budget budget' : Nat}
    (enough : budget ≤ budget') {e : Expr} (covered : alike.covers e) {s s' : State}
    (states : alike.States s s') :
    alike.Follows value (run budget builder env e s) (run budget' builder' env' e s') := by
  induction budget generalizing α β e s s' budget' with
  | zero => trivial
  | succ budget ih =>
    obtain ⟨budget', rfl⟩ := Nat.exists_eq_add_of_le' enough
    have enough' : budget ≤ budget' + budget := Nat.le_add_left _ _
    exact step_follows builds
      (fun f coveredPart t t' here => ih builds_recognizer enough' coveredPart here)
      (fun f coveredPart t t' here => ih builds enough' coveredPart here)
      (fun f t => run_settles budget (rightFor_any builder) env f t)
      (fun f t => run_settles _ (rightFor_any builder') env' f t) states enough' covered

theorem runEnd_follows {budget budget' : Nat} (enough : budget ≤ budget') {s s' : State}
    (states : alike.States s s') :
    alike.Follows alike.cursor (runEnd budget env s) (runEnd budget' env' s') :=
  (skip_follows (fun _ covered _ _ here => run_follows builds_recognizer enough covered here)
    states enough).andThen fun _ _ _ _ _ here => atEnd_follows here .eof

theorem runToEnd_follows {value : α → β → Prop} {builder : Builder α} {builder' : Builder β}
    (builds : alike.Builds builder builder' value) {budget budget' : Nat}
    (enough : budget ≤ budget') {e : Expr} (covered : alike.covers e) {s s' : State}
    (states : alike.States s s') :
    alike.Follows value (runToEnd budget builder env e s)
      (runToEnd budget' builder' env' e s') :=
  (run_follows builds enough covered states).andThen fun _ _ _ _ valued here =>
    ((runEnd_follows enough here).orReturnTo states.cursor).map fun _ _ _ => valued

end Likeness

end PegEngine
