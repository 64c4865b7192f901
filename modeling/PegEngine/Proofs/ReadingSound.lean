import PegEngine.Proofs.Reading

/-! Runs only find what there is to read: whatever a run of the engine comes out with, the relation
says of the place where the run began. Again there is one lemma for each operator, and an induction
on the budget. -/
namespace PegEngine

/-! ## Outcomes of runs -/

/-- The outcome that a failure stands for. -/
def Failure.outcome : Failure → Outcome
  | .mismatch _ => .mismatch
  | .fault broken => .fault broken

namespace Run

variable {α β : Type}

/-- How a run came out, unless it was exhausted. -/
def outcome? : Run α → Option Outcome
  | done _ t => some (.upTo t.cursor.position)
  | failed failure _ => some failure.outcome
  | exhausted => none

@[simp] theorem outcome?_map (f : α → β) (r : Run α) : (r.map f).outcome? = r.outcome? := by
  cases r with
  | done a t => rfl
  | failed failure t => rfl
  | exhausted => rfl

@[simp] theorem outcome?_orReturnTo (start : Cursor) (r : Run α) :
    (r.orReturnTo start).outcome? = r.outcome? := by
  cases r with
  | done a t => rfl
  | failed failure t => rfl
  | exhausted => rfl

theorem outcome?_andThen_stay (value : α → State → β) (r : Run α) :
    (r.andThen fun a t => done (value a t) t).outcome? = r.outcome? := by
  cases r with
  | done a t => rfl
  | failed failure t => rfl
  | exhausted => rfl

@[simp] theorem outcome?_close (builder : Builder α) (r : Run (List α)) :
    (r.andThen builder.close).outcome? = r.outcome? :=
  outcome?_andThen_stay (fun members s => builder.gather members s.cursor) r

/-- Putting skipping back does not change how a run came out. -/
theorem outcome?_afterwards (skipping : State → Skipping) (r : Run α) :
    (r.afterwards fun t => t.withSkipping (skipping t)).outcome? = r.outcome? := by
  cases r with
  | done a t => rfl
  | failed failure t => rfl
  | exhausted => rfl

/-- Whatever the run comes out with, `read` holds of. -/
def Answers (read : Outcome → Prop) (r : Run α) : Prop :=
  ∀ o, r.outcome? = some o → read o

theorem Answers.imp {read read' : Outcome → Prop} {r : Run α} (answers : r.Answers read)
    (imp : ∀ o, read o → read' o) : r.Answers read' :=
  fun o came => imp o (answers o came)

theorem Answers.of_eq {read : Outcome → Prop} {r : Run α} {r' : Run β} (answers : r.Answers read)
    (same : r'.outcome? = r.outcome?) : r'.Answers read :=
  fun o came => answers o (same.symm.trans came)

theorem answers_done {read : Outcome → Prop} {a : α} {t : State}
    (reads : read (.upTo t.cursor.position)) : (done a t).Answers read := by
  rintro o ⟨⟩
  exact reads

theorem answers_failed {read : Outcome → Prop} {failure : Failure} {t : State}
    (reads : read failure.outcome) : (failed failure t : Run α).Answers read := by
  rintro o ⟨⟩
  exact reads

theorem answers_exhausted {read : Outcome → Prop} : (exhausted : Run α).Answers read := by
  rintro o ⟨⟩

end Run

open Run

/-! ## Primitives -/

namespace Expr

theorem breakExtent?_return {rest : List Char} (other : rest.head? ≠ some '\n') :
    breakExtent? ('\r' :: rest) = some 1 := by
  cases rest with
  | nil => rfl
  | cons c rest =>
    have differs : c ≠ '\n' := fun same => other (congrArg some same)
    rw [breakExtent?]
    rintro tail ⟨⟩
    exact differs rfl

theorem breakExtent?_other {ahead : List Char} (noFeed : ahead.head? ≠ some '\n')
    (noReturn : ahead.head? ≠ some '\r') : breakExtent? ahead = none := by
  unfold breakExtent?
  split
  · exact absurd rfl noReturn
  · exact absurd rfl noReturn
  · exact absurd rfl noFeed
  · rfl

theorem extent?_space {ahead : List Char} (noSpace : ahead.head? ≠ some ' ')
    (noTab : ahead.head? ≠ some '\t') : space.extent? ahead = breakExtent? ahead := by
  cases ahead with
  | nil => rfl
  | cons c rest =>
    have notSpace : c ≠ ' ' := fun same => noSpace (congrArg some same)
    have notTab : c ≠ '\t' := fun same => noTab (congrArg some same)
    rw [extent?]
    · rintro tail ⟨⟩
      exact notSpace rfl
    · rintro tail ⟨⟩
      exact notTab rfl

end Expr

section Primitives

variable {source : Source} {s : State}

theorem outcome?_next {c : Char} (here : s.cursor.character = some c) :
    (s.next source).arrive.outcome? = some (.upTo (s.cursor.position + 1)) :=
  congrArg (fun q => some (Outcome.upTo q)) (Cursor.next_position here)

variable (marks : s.cursor.Marks source) (pattern : Expr)
include marks

theorem outcome?_oneOf (accepts : Char → Bool) :
    (oneOf source pattern accepts s).outcome? =
      some (.ofExtent? s.cursor.position
        (match source.ahead s.cursor.position with
        | c :: _ => if accepts c then some 1 else none
        | [] => none)) := by
  rw [oneOf]
  cases here : s.cursor.character with
  | none =>
    rw [marks.ahead_eq_nil here]
    rfl
  | some c =>
    rw [marks.ahead_eq_cons here]
    dsimp only
    cases accepts c with
    | true => exact outcome?_next here
    | false => rfl

theorem outcome?_oneOf_any :
    (oneOf source pattern (fun _ => true) s).outcome? =
      some (.ofExtent? s.cursor.position
        (Expr.any.extent? (source.ahead s.cursor.position))) := by
  rw [outcome?_oneOf marks]
  cases source.ahead s.cursor.position with
  | nil => rfl
  | cons c rest => rfl

theorem outcome?_allOf (start : Cursor) (chars : List Char) :
    (allOf source pattern start chars s).outcome? =
      some (.ofExtent? s.cursor.position
        (if chars <+: source.ahead s.cursor.position then some chars.length else none)) := by
  induction chars generalizing s with
  | nil =>
    rw [if_pos List.nil_prefix]
    rfl
  | cons c rest ih =>
    rw [allOf]
    by_cases here : s.cursor.character = some c
    · rw [if_pos here, ih marks.next, marks.ahead_eq_cons here, State.next_cursor,
        Cursor.next_position here, List.length_cons]
      by_cases spelled : rest <+: source.ahead (s.cursor.position + 1)
      · rw [if_pos spelled, if_pos ((List.cons_prefix_cons).mpr ⟨rfl, spelled⟩)]
        have sum : s.cursor.position + 1 + rest.length =
            s.cursor.position + (rest.length + 1) := by omega
        exact congrArg (fun q => some (Outcome.upTo q)) sum
      · rw [if_neg spelled, if_neg fun both => spelled (List.cons_prefix_cons.mp both).2]
        rfl
    · have differs : ¬(c :: rest <+: source.ahead s.cursor.position) := by
        rintro ⟨tail, same⟩
        rw [marks.character_eq_head?, ← same] at here
        exact here rfl
      rw [if_neg here, if_neg differs]
      rfl

theorem outcome?_atEnd :
    (atEnd pattern s).outcome? =
      some (.ofExtent? s.cursor.position
        (Expr.eof.extent? (source.ahead s.cursor.position))) := by
  rw [atEnd, Cursor.isDone]
  cases here : s.cursor.character with
  | none =>
    rw [marks.ahead_eq_nil here]
    rfl
  | some c =>
    rw [marks.ahead_eq_cons here]
    rfl

theorem outcome?_lineBreak :
    (lineBreak source pattern s).outcome? =
      some (.ofExtent? s.cursor.position
        (Expr.breakExtent? (source.ahead s.cursor.position))) := by
  rw [lineBreak]
  by_cases feed : s.cursor.character = some '\n'
  · rw [if_pos feed, marks.ahead_eq_cons feed]
    exact outcome?_next feed
  · rw [if_neg feed]
    by_cases carriage : s.cursor.character = some '\r'
    · have following : (s.next source).cursor.character =
          (source.ahead (s.cursor.next source).position).head? := marks.next.character_eq_head?
      rw [if_pos carriage, marks.ahead_eq_cons carriage]
      by_cases both : (s.next source).cursor.character = some '\n'
      · rw [if_pos both, marks.next.ahead_eq_cons both]
        have second : ((s.next source).next source).arrive.outcome? =
            some (.upTo ((s.next source).cursor.position + 1)) := outcome?_next both
        rw [State.next_cursor, Cursor.next_position carriage] at second
        exact second
      · rw [if_neg both, Expr.breakExtent?_return (following ▸ both)]
        exact outcome?_next carriage
    · rw [marks.character_eq_head?] at feed carriage
      rw [if_neg (by rwa [marks.character_eq_head?]), Expr.breakExtent?_other feed carriage]
      rfl

theorem outcome?_blank :
    (blank source pattern s).outcome? =
      some (.ofExtent? s.cursor.position
        (Expr.space.extent? (source.ahead s.cursor.position))) := by
  rw [blank]
  by_cases space : s.cursor.character = some ' ' ∨ s.cursor.character = some '\t'
  · rw [if_pos space]
    rcases space with here | here
    · rw [marks.ahead_eq_cons here]
      exact outcome?_next here
    · rw [marks.ahead_eq_cons here]
      exact outcome?_next here
  · rw [if_neg space, outcome?_lineBreak marks]
    rw [marks.character_eq_head?, not_or] at space
    rw [Expr.extent?_space space.1 space.2]

end Primitives

/-- A primitive expression does what its extent says. -/
theorem outcome?_primitive {α : Type} {env : Env} {s : State} (marks : s.cursor.Marks env.source)
    (builder : Builder α) (rounds : Nat) (recognize : Expr → State → Run Cursor)
    (build : Expr → State → Run α) {e : Expr} (primitive : e.isPrimitive = true)
    (bounded : e.boundsFault? = none) :
    (dispatch builder rounds recognize build env e s).outcome? =
      some (.ofExtent? s.cursor.position (e.extent? (env.source.ahead s.cursor.position))) := by
  cases e with
  | char c =>
    rw [dispatch, outcome?_map, outcome?_oneOf marks]
    cases env.source.ahead s.cursor.position with
    | nil => rfl
    | cons first rest => simp only [Expr.extent?, beq_iff_eq]
  | literal text => rw [dispatch, outcome?_map, outcome?_allOf marks, Expr.extent?]
  | any => rw [dispatch, outcome?_map, outcome?_oneOf_any marks]
  | range low high =>
    rw [dispatch, checkBounds, Expr.checkBounds, bounded]
    dsimp only
    rw [andThen_done, outcome?_map, outcome?_oneOf marks]
    cases env.source.ahead s.cursor.position with
    | nil => rfl
    | cons first rest => simp only [Expr.extent?, decide_eq_true_eq]
  | eof => rw [dispatch, outcome?_map, outcome?_atEnd marks]
  | eol => rw [dispatch, outcome?_map, outcome?_lineBreak marks, Expr.extent?]
  | space => rw [dispatch, outcome?_map, outcome?_blank marks]
  | seq items => cases primitive
  | choice alternatives => cases primitive
  | optional body => cases primitive
  | rep min max body => cases primitive
  | not body => cases primitive
  | peek body => cases primitive
  | capture name body => cases primitive
  | anyBut body => cases primitive
  | ref name => cases primitive
  | verbatim body => cases primitive

/-! ## Compounds -/

variable {α : Type} {env : Env} {ignore : List Expr} {v : Bool}

/-- A run from `s` finds what there is to read. It ends in a state that a run may meet and, if it
fails, where it began. -/
structure Run.Finds (env : Env) (ignore : List Expr) (v : Bool) (task : Task) (s : State)
    (r : Run α) : Prop where
  goes : r.Goes env ignore v s
  answers : r.Answers (Reads env ignore v task s.cursor.position)

theorem Reads.primitive {e : Expr} {p : Nat} (primitive : e.isPrimitive = true)
    (bounded : e.boundsFault? = none) :
    Reads env ignore v (.bare e) p (.ofExtent? p (e.extent? (env.source.ahead p))) := by
  cases extent : e.extent? (env.source.ahead p) with
  | none => exact .unspelled primitive bounded extent
  | some n => exact .spelled primitive bounded extent

theorem primitive_answers {e : Expr} {p : Nat} {r : Run α} (primitive : e.isPrimitive = true)
    (bounded : e.boundsFault? = none)
    (came : r.outcome? = some (.ofExtent? p (e.extent? (env.source.ahead p)))) :
    r.Answers (Reads env ignore v (.bare e) p) := by
  intro o came'
  obtain rfl := Option.some.inj (came.symm.trans came')
  exact Reads.primitive primitive bounded

section Compounds

variable {s : State} (fits : s.Fits env ignore v) (pattern : Expr)
include fits

section Lists

variable {item : Expr → State → Run α}
  (itemFinds : ∀ e t, t.Fits env ignore v → (item e t).Finds env ignore v (.whole e) t)
include itemFinds

theorem sequence_answers (start : Cursor) (es : List Expr) (values : List α) :
    (sequence item pattern start es values s).Answers
      (Reads env ignore v (.items es) s.cursor.position) := by
  induction es generalizing values s with
  | nil => exact answers_done .itemsNil
  | cons e rest ih =>
    obtain ⟨goes, answers⟩ := itemFinds e s fits
    rw [Run.sequence]
    cases ran : item e s with
    | done a t =>
      rw [ran] at goes answers
      have head := answers _ rfl
      exact (ih goes.1 (a :: values)).imp fun _ tail => .itemsCons head tail
    | failed failure t =>
      rw [ran] at answers
      have head := answers _ rfl
      cases failure with
      | mismatch trail => exact answers_failed (.itemsMismatch head)
      | fault broken => exact answers_failed (.itemsFault head)
    | exhausted => exact answers_exhausted

theorem firstOf_answers (start : Cursor) (es : List Expr) (last : Option Trail) :
    (firstOf item pattern start es last s).Answers
      (Reads env ignore v (.alternatives es) s.cursor.position) := by
  induction es generalizing last s with
  | nil =>
    apply answers_failed
    cases last with
    | none => exact .alternativesNil
    | some trail => exact .alternativesNil
  | cons e rest ih =>
    obtain ⟨goes, answers⟩ := itemFinds e s fits
    rw [firstOf]
    cases ran : item e s with
    | done a t =>
      rw [ran] at answers
      exact answers_done (.alternativesHere (answers _ rfl))
    | failed failure t =>
      rw [ran] at goes answers
      have head := answers _ rfl
      cases failure with
      | mismatch trail =>
        have tail := ih goes.1 (some trail)
        rw [goes.2] at tail
        exact tail.imp fun _ reads => .alternativesNext head reads
      | fault broken => exact answers_failed (.alternativesFault head)
    | exhausted => exact answers_exhausted

end Lists

section Bodies

variable {e : Expr} {body : State → Run α}
  (bodyFinds : ∀ t, t.Fits env ignore v → (body t).Finds env ignore v (.whole e) t)
include bodyFinds

theorem optional_answers (value : State → α) :
    (Run.optional body (fun t => done (value t) t) s).Answers
      (Reads env ignore v (.bare (.optional e)) s.cursor.position) := by
  obtain ⟨goes, answers⟩ := bodyFinds s fits
  rw [Run.optional]
  cases ran : body s with
  | done a t =>
    rw [ran] at answers
    exact answers_done (.optionalHere (answers _ rfl))
  | failed failure t =>
    rw [ran] at goes answers
    have reads := answers _ rfl
    cases failure with
    | mismatch trail =>
      apply answers_done
      rw [goes.2]
      exact .optionalNone reads
    | fault broken => exact answers_failed (.optionalFault reads)
  | exhausted => exact answers_exhausted

theorem repetition_answers (min max : Nat) (start : Cursor) (rounds count : Nat)
    (values : List α) :
    (repetition body pattern min max start rounds count values s).Answers
      (Reads env ignore v (.repeats min max e count) s.cursor.position) := by
  induction rounds generalizing count values s with
  | zero => exact answers_exhausted
  | succ rounds ih =>
    obtain ⟨goes, answers⟩ := bodyFinds s fits
    rw [repetition]
    by_cases full : 0 < max ∧ max ≤ count
    · rw [if_pos full]
      exact answers_done (.repeatsFull full)
    · rw [if_neg full]
      cases ran : body s with
      | done a t =>
        rw [ran] at goes answers
        have reads := answers _ rfl
        dsimp only
        by_cases still : t.cursor.position = s.cursor.position
        · rw [if_pos still]
          apply answers_done
          rw [still] at reads ⊢
          exact .repeatsStill full reads
        · rw [if_neg still]
          exact (ih goes.1 (count + 1) (a :: values)).imp fun _ tail =>
            .repeatsMore full reads still tail
      | failed failure t =>
        rw [ran] at goes answers
        have reads := answers _ rfl
        dsimp only
        cases failure with
        | mismatch trail =>
          by_cases enough : min ≤ count
          · rw [if_pos ⟨rfl, enough⟩]
            apply answers_done
            rw [goes.2]
            exact .repeatsEnough full reads enough
          · rw [if_neg fun both => enough both.2]
            exact answers_failed (.repeatsShort full reads (Nat.lt_of_not_le enough))
        | fault broken =>
          rw [if_neg fun both => Bool.false_ne_true both.1]
          exact answers_failed (.repeatsFault full reads)
      | exhausted => exact answers_exhausted

end Bodies

section Looks

variable {e : Expr} {look : State → Run Cursor}
  (lookFinds : ∀ t, t.Fits env ignore v → (look t).Finds env ignore v (.whole e) t)
include lookFinds

theorem notAhead_answers :
    (notAhead look pattern s).Answers (Reads env ignore v (.bare (.not e)) s.cursor.position) := by
  have answers := (lookFinds s fits).answers
  rw [notAhead]
  cases ran : look s with
  | done stop t =>
    rw [ran] at answers
    exact answers_failed (.notHere (answers _ rfl))
  | failed failure t =>
    rw [ran] at answers
    have reads := answers _ rfl
    cases failure with
    | mismatch trail => exact answers_done (.notNone reads)
    | fault broken => exact answers_failed (.notFault reads)
  | exhausted => exact answers_exhausted

theorem ahead_answers :
    (ahead look pattern s).Answers (Reads env ignore v (.bare (.peek e)) s.cursor.position) := by
  have answers := (lookFinds s fits).answers
  rw [ahead]
  cases ran : look s with
  | done stop t =>
    rw [ran] at answers
    exact answers_done (.peekHere (answers _ rfl))
  | failed failure t =>
    rw [ran] at answers
    have reads := answers _ rfl
    cases failure with
    | mismatch trail => exact answers_failed (.peekNone reads)
    | fault broken => exact answers_failed (.peekFault reads)
  | exhausted => exact answers_exhausted

theorem oneBut_answers :
    (oneBut env.source look pattern s).Answers
      (Reads env ignore v (.bare (.anyBut e)) s.cursor.position) := by
  obtain ⟨goes, answers⟩ := lookFinds s fits
  rw [oneBut]
  cases ran : look s with
  | done stop t =>
    rw [ran] at answers
    exact answers_failed (.anyButHere (answers _ rfl))
  | failed failure t =>
    rw [ran] at goes answers
    have reads := answers _ rfl
    cases failure with
    | mismatch trail =>
      rw [← goes.2] at reads ⊢
      exact (primitive_answers rfl rfl (outcome?_oneOf_any goes.1.marks pattern)).imp fun _ any =>
        .anyButNone reads any
    | fault broken => exact answers_failed (.anyButFault reads)
  | exhausted => exact answers_exhausted

end Looks

end Compounds

/-! ## Skipping -/

/-- An attempt at skipping finds what there is to skip, tells whether it read something, and never
mismatches. -/
def Run.FindsOne (env : Env) (ignore es : List Expr) (s : State) (r : Run Bool) : Prop :=
  r.Ends
    (fun more t => t.Fits env ignore true ∧
      Reads env ignore false (.skipsOne es) s.cursor.position
        (if more then .upTo t.cursor.position else .mismatch) ∧
      (more = false → t.cursor.position = s.cursor.position))
    fun failure _ => ∃ broken, failure = .fault broken ∧
      Reads env ignore false (.skipsOne es) s.cursor.position (.fault broken)

/-- What an attempt with the rest of a list finds, the attempt with the list finds, if nothing comes
of its first expression. -/
theorem Run.FindsOne.cons {e : Expr} {rest : List Expr} {s t : State} {r : Run Bool}
    (finds : r.FindsOne env ignore rest t) (still : t.cursor.position = s.cursor.position)
    (passes : ∀ o, Reads env ignore false (.skipsOne rest) s.cursor.position o →
      Reads env ignore false (.skipsOne (e :: rest)) s.cursor.position o) :
    r.FindsOne env ignore (e :: rest) s := by
  rw [FindsOne, still] at finds
  apply finds.imp
  · rintro more u ⟨fits, reads, none⟩
    exact ⟨fits, passes _ reads, none⟩
  · rintro failure u ⟨broken, fault, reads⟩
    exact ⟨broken, fault, passes _ reads⟩

/-- Skipping finds all there is to skip, and never mismatches. -/
def Run.FindsSkips (env : Env) (ignore : List Expr) (s : State) (r : Run Unit) : Prop :=
  r.Ends
    (fun _ t => Reads env ignore false .skips s.cursor.position (.upTo t.cursor.position))
    fun failure _ => ∃ broken, failure = .fault broken ∧
      Reads env ignore false .skips s.cursor.position (.fault broken)

section Skipping

variable {recognize : Expr → State → Run Cursor}
  (recognizeFinds : ∀ e t, t.Fits env ignore true →
    (recognize e t).Finds env ignore true (.whole e) t)
  (recognizeSettles : ∀ e t, Settles Eq t.cursor t (recognize e t))
include recognizeFinds recognizeSettles

theorem skipOne_finds (es : List Expr) {s : State} (fits : s.Fits env ignore true) :
    (skipOne recognize es s).FindsOne env ignore es s := by
  induction es generalizing s with
  | nil => exact ⟨fits, .skipsOneNil, fun _ => rfl⟩
  | cons e rest ih =>
    obtain ⟨goes, answers⟩ := recognizeFinds e s fits
    have settles := recognizeSettles e s
    rw [skipOne]
    cases ran : recognize e s with
    | done stop t =>
      rw [ran] at goes answers settles
      have reads := answers _ rfl
      obtain rfl : stop = t.cursor := settles.2
      dsimp only
      by_cases further : s.cursor.position < t.cursor.position
      · rw [if_pos further]
        exact ⟨goes.1.kept goes.1.marks rfl, .skipsOneHere reads further, fun none => by cases none⟩
      · have still : t.cursor.position = s.cursor.position :=
          Nat.le_antisymm (Nat.le_of_not_lt further) reads.notBefore
        rw [if_neg further]
        rw [still] at reads
        exact (ih goes.1).cons still fun _ rest => .skipsOneEmpty reads rest
    | failed failure t =>
      rw [ran] at goes answers
      have reads := answers _ rfl
      cases failure with
      | mismatch trail =>
        exact (ih goes.1).cons (congrArg Cursor.position goes.2) fun _ rest =>
          .skipsOneNext reads rest
      | fault broken => exact ⟨broken, rfl, .skipsOneFault reads⟩
    | exhausted => trivial

theorem skipAll_finds (rounds : Nat) {s : State} (fits : s.Fits env ignore true) :
    (skipAll recognize ignore rounds s).FindsSkips env ignore s := by
  induction rounds generalizing s with
  | zero => trivial
  | succ rounds ih =>
    have one := skipOne_finds recognizeFinds recognizeSettles ignore fits
    rw [skipAll]
    cases ran : skipOne recognize ignore s with
    | done more t =>
      rw [ran] at one
      obtain ⟨fits', reads, still⟩ := one
      rw [andThen_done]
      cases more with
      | true =>
        apply (ih fits').imp
        · intro _ u rest
          exact .skipsMore reads rest
        · rintro failure u ⟨broken, fault, rest⟩
          exact ⟨broken, fault, .skipsMore reads rest⟩
      | false =>
        change Reads env ignore false .skips s.cursor.position (.upTo t.cursor.position)
        rw [still rfl]
        exact .skipsEnd reads
    | failed failure t =>
      rw [ran] at one
      obtain ⟨broken, fault, reads⟩ := one
      exact ⟨broken, fault, .skipsFault reads⟩
    | exhausted => trivial

theorem skip_finds (rounds : Nat) {s : State} (fits : s.Fits env ignore false) :
    (skip rounds recognize s).FindsSkips env ignore s := by
  have list : s.skipping.ignore = ignore := fits.ignore_eq rfl
  rw [skip]
  cases active : s.skipping.active with
  | true =>
    have off : Skipping.suspended.verbatim = true := rfl
    rw [if_pos rfl, list]
    exact (skipAll_finds recognizeFinds recognizeSettles rounds (fits.off off)).afterwards
      (fun _ _ reads => reads) fun _ _ reads => reads
  | false =>
    rw [Skipping.active, fits.verbatim_eq, list, Bool.not_false, Bool.true_and, Bool.not_eq_false',
      List.isEmpty_iff] at active
    have nothing : Reads env ignore false (.skipsOne ignore) s.cursor.position .mismatch := by
      rw [active]
      exact .skipsOneNil
    exact .skipsEnd nothing

end Skipping

/-! ## The engine -/

theorem checked_answers {e : Expr} {s : State} {rest : State → Run α}
    (restAnswers : e.boundsFault? = none →
      (rest s).Answers (Reads env ignore v (.bare e) s.cursor.position)) :
    ((checkBounds e s).andThen fun _ t => rest t).Answers
      (Reads env ignore v (.bare e) s.cursor.position) := by
  rw [checkBounds, Expr.checkBounds]
  cases bounds : e.boundsFault? with
  | none => exact restAnswers bounds
  | some why => exact answers_failed (.illBounded bounds)

section Engine

variable {builder : Builder α} {rounds : Nat} {recognize : Expr → State → Run Cursor}
  {build : Expr → State → Run α}
  (recognizeFinds : ∀ v e t, t.Fits env ignore v → (recognize e t).Finds env ignore v (.whole e) t)
  (buildFinds : ∀ v e t, t.Fits env ignore v → (build e t).Finds env ignore v (.whole e) t)
  {s : State} (fits : s.Fits env ignore v)
include recognizeFinds buildFinds fits

/-- Whatever an expression says, a run of it finds what there is to read. -/
theorem dispatch_answers (e : Expr) :
    (dispatch builder rounds recognize build env e s).Answers
      (Reads env ignore v (.bare e) s.cursor.position) := by
  have spells {e : Expr} (primitive : e.isPrimitive = true) (bounded : e.boundsFault? = none) :
      (dispatch builder rounds recognize build env e s).Answers
        (Reads env ignore v (.bare e) s.cursor.position) :=
    primitive_answers primitive bounded
      (outcome?_primitive fits.marks builder rounds recognize build primitive bounded)
  cases e with
  | seq items =>
    exact ((sequence_answers fits _ (buildFinds v) s.cursor items []).of_eq
      (outcome?_close builder _)).imp fun _ => .seq
  | choice alternatives =>
    exact (firstOf_answers fits _ (buildFinds v) s.cursor alternatives none).imp fun _ => .choice
  | optional body => exact optional_answers fits (buildFinds v body) _
  | rep min max body =>
    refine checked_answers fun bounded => ?_
    exact ((repetition_answers fits _ (buildFinds v body) min max s.cursor rounds 0 []).of_eq
      (outcome?_close builder _)).imp fun _ => .rep bounded
  | not body =>
    exact (notAhead_answers fits _ (recognizeFinds v body)).of_eq (outcome?_map _ _)
  | peek body => exact (ahead_answers fits _ (recognizeFinds v body)).of_eq (outcome?_map _ _)
  | capture name body =>
    rw [dispatch]
    have answers := (buildFinds v body s fits).answers
    exact (answers.of_eq (outcome?_andThen_stay _ _)).imp fun _ => .capture
  | anyBut body => exact (oneBut_answers fits _ (recognizeFinds v body)).of_eq (outcome?_map _ _)
  | ref name =>
    rw [dispatch, resolve]
    cases found : env.definitions.find? name with
    | some target =>
      have noted : (s.note (.resolved name s.cursor)).Fits env ignore v := fits.kept fits.marks rfl
      exact (buildFinds v target _ noted).answers.imp fun _ reads => .ref found reads
    | none => exact answers_failed (.refUndefined found)
  | verbatim body =>
    have off : (s.skipping.toggle true).verbatim = true := rfl
    have answers := (buildFinds true body _ (fits.off off)).answers
    rw [dispatch, unskipped]
    exact (answers.of_eq (outcome?_afterwards
      (fun t => t.skipping.toggle s.skipping.verbatim) _)).imp fun _ => .verbatim
  | range low high =>
    cases bounds : (Expr.range low high).boundsFault? with
    | none => exact spells rfl bounds
    | some why =>
      rw [dispatch, checkBounds, Expr.checkBounds, bounds]
      exact answers_failed (.illBounded bounds)
  | char c => exact spells rfl rfl
  | literal text => exact spells rfl rfl
  | any => exact spells rfl rfl
  | eof => exact spells rfl rfl
  | eol => exact spells rfl rfl
  | space => exact spells rfl rfl

end Engine

/-- With skipping off nothing is skipped. -/
theorem skip_off {s : State} (fits : s.Fits env ignore true) (rounds : Nat)
    (recognize : Expr → State → Run Cursor) : skip rounds recognize s = done () s := by
  rw [skip, Skipping.active, fits.verbatim_eq]
  rfl

/-- A run of the engine finds what there is to read. -/
theorem run_answers (budget : Nat) (builder : Builder α) (e : Expr) {s : State}
    (fits : s.Fits env ignore v) :
    (run budget builder env e s).Answers (Reads env ignore v (.whole e) s.cursor.position) := by
  induction budget generalizing α e s v with
  | zero => exact answers_exhausted
  | succ budget ih =>
    have recognizeFinds (v : Bool) (f : Expr) (t : State) (fits : t.Fits env ignore v) :
        (run budget .recognizer env f t).Finds env ignore v (.whole f) t :=
      ⟨run_goes fits budget .recognizer f, ih .recognizer f fits⟩
    have buildFinds (v : Bool) (f : Expr) (t : State) (fits : t.Fits env ignore v) :
        (run budget builder env f t).Finds env ignore v (.whole f) t :=
      ⟨run_goes fits budget builder f, ih builder f fits⟩
    refine Answers.of_eq ?_ (outcome?_orReturnTo s.cursor _)
    cases v with
    | true =>
      rw [skip_off fits, andThen_done]
      exact (dispatch_answers recognizeFinds buildFinds fits e).imp fun _ => .wholeVerbatim
    | false =>
      have fits' := skip_fits fits budget budget
      have skips := skip_finds (recognizeFinds true)
        (fun f t => run_settles budget rightFor_recognizer env f t) budget fits
      cases ran : skip budget (run budget .recognizer env) s with
      | done _ t =>
        rw [ran] at fits' skips
        exact (dispatch_answers recognizeFinds buildFinds fits' e).imp fun _ bare =>
          .whole skips bare
      | failed failure t =>
        rw [ran] at skips
        obtain ⟨broken, rfl, reads⟩ := skips
        exact answers_failed (.wholeFault reads)
      | exhausted => exact answers_exhausted

theorem run_finds (budget : Nat) (builder : Builder α) (e : Expr) {s : State}
    (fits : s.Fits env ignore v) :
    (run budget builder env e s).Finds env ignore v (.whole e) s :=
  ⟨run_goes fits budget builder e, run_answers budget builder e fits⟩

end PegEngine
