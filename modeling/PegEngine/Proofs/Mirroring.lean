import PegEngine.Proofs.Concurrence
import PegEngine.Proofs.Uncaptured

/-! Engines that differ in captures only, step by step. What the one does with an expression, the other does with
an expression of the same shape, if the parts are treated alike: it ends at the same cursor, or fails with the same
trail but for the captures in its patterns. The second engine may have more rounds to spare than the first. -/
namespace PegEngine

open List (Forall₂)
open Run Likeness

/-- The engines differ in captures only. -/
structure Env.Akin (env env' : Env) : Prop where
  source : env.source = env'.source
  definitions : env.definitions.uncaptured = env'.definitions.uncaptured

/-- The states differ in captures only, and the second is one that a run of this engine may meet. -/
structure State.Mirrored (env : Env) (ignore : List Expr) (s s' : State) : Prop where
  cursor : s.cursor = s'.cursor
  skipping : s.skipping.uncaptured = s'.skipping.uncaptured
  fits : ∃ v, s'.Fits env ignore v

/-- The second run, one of this engine, ends as the first does but for captures, unless the first is
exhausted. -/
inductive Run.Mirrored {α : Type} (env : Env) (ignore : List Expr) : Run α → Run α → Prop where
  | done {a s s'} : s.Mirrored env ignore s' → Mirrored env ignore (.done a s) (.done a s')
  | failed {f f' s s'} : f.Akin f' → s.Mirrored env ignore s' →
      Mirrored env ignore (.failed f s) (.failed f' s')
  | exhausted {r'} : Mirrored env ignore .exhausted r'

variable {α β : Type} {env : Env} {ignore : List Expr} {s s' : State}

/-! ## States -/

namespace State.Mirrored

variable (states : s.Mirrored env ignore s')
include states

theorem marks : s.cursor.Marks env.source := by
  obtain ⟨v, fits⟩ := states.fits
  exact states.cursor ▸ fits.marks

theorem next : (s.next env.source).Mirrored env ignore (s'.next env.source) where
  cursor := congrArg (Cursor.next env.source) states.cursor
  skipping := states.skipping
  fits := states.fits.imp fun _ fits => fits.next

theorem moveTo {c : Cursor} (marks : c.Marks env.source) :
    (s.moveTo c).Mirrored env ignore (s'.moveTo c) where
  cursor := rfl
  skipping := states.skipping
  fits := states.fits.imp fun _ fits => fits.kept marks rfl

theorem off {k k' : Skipping} (akin : k.uncaptured = k'.uncaptured) (isOff : k'.verbatim = true) :
    (s.withSkipping k).Mirrored env ignore (s'.withSkipping k') where
  cursor := states.cursor
  skipping := akin
  fits := states.fits.imp' (fun _ => true) fun _ fits => fits.off isOff

/-- The setting of skipping is put back. -/
theorem restore {t t' : State} (ends : t.Mirrored env ignore t') :
    (t.withSkipping s.skipping).Mirrored env ignore (t'.withSkipping s'.skipping) where
  cursor := ends.cursor
  skipping := states.skipping
  fits := states.fits.imp fun _ fits => fits.kept (ends.cursor ▸ ends.marks) rfl

theorem note (event event' : Event) :
    (s.note event).Mirrored env ignore (s'.note event') where
  cursor := states.cursor
  skipping := states.skipping
  fits := states.fits.imp fun _ fits => fits.kept fits.marks rfl

theorem beside {t : State} (beside : s'.Beside t) : s.Mirrored env ignore t where
  cursor := states.cursor.trans beside.cursor
  skipping := by rw [states.skipping, beside.skipping]
  fits := states.fits.imp fun _ fits => fits.beside beside

end State.Mirrored

/-! ## Runs -/

namespace Run

namespace Mirrored

variable {r r' : Run α} (mirrored : r.Mirrored env ignore r')
include mirrored

theorem andThen {rest rest' : α → State → Run β}
    (rests : ∀ a t t', t.Mirrored env ignore t' →
      (rest a t).Mirrored env ignore (rest' a t')) :
    (r.andThen rest).Mirrored env ignore (r'.andThen rest') := by
  cases mirrored with
  | done states => exact rests _ _ _ states
  | failed failures states => exact .failed failures states
  | exhausted => exact .exhausted

theorem map (f : α → β) : (r.map f).Mirrored env ignore (r'.map f) := by
  cases mirrored with
  | done states => exact .done states
  | failed failures states => exact .failed failures states
  | exhausted => exact .exhausted

theorem orReturnTo {c : Cursor} (marks : c.Marks env.source) :
    (r.orReturnTo c).Mirrored env ignore (r'.orReturnTo c) := by
  cases mirrored with
  | done states => exact .done states
  | failed failures states => exact .failed failures (states.moveTo marks)
  | exhausted => exact .exhausted

theorem afterwards {mend mend' : State → State}
    (mended : ∀ t t', r.state? = some t → r'.state? = some t' → t.Mirrored env ignore t' →
      (mend t).Mirrored env ignore (mend' t')) :
    (r.afterwards mend).Mirrored env ignore (r'.afterwards mend') := by
  cases mirrored with
  | done states => exact .done (mended _ _ rfl rfl states)
  | failed failures states => exact .failed failures (mended _ _ rfl rfl states)
  | exhausted => exact .exhausted

/-- A run that concurs with the mirroring one mirrors, too. -/
theorem concur {r'' : Run α} (concur : r'.Concur Eq Eq r'') : r.Mirrored env ignore r'' := by
  cases mirrored with
  | done states =>
    cases concur with
    | done same beside => exact same ▸ .done (states.beside beside)
  | failed failures states =>
    cases concur with
    | failed same beside => exact .failed (same ▸ failures) (states.beside beside)
  | exhausted => exact .exhausted

end Mirrored

section Primitives

variable (states : s.Mirrored env ignore s')
include states

theorem arrive_mirrored : s.arrive.Mirrored env ignore s'.arrive := by
  rw [State.arrive, State.arrive, states.cursor]
  exact .done states

theorem mismatch_mirrored {pattern pattern' : Expr} (akin : pattern.Akin pattern') :
    (s.mismatch pattern : Run α).Mirrored env ignore (s'.mismatch pattern') := by
  rw [State.mismatch, State.mismatch, ← states.cursor]
  exact .failed (.mismatch (congrArg Trail.single (akin.mismatch _ _))) states

theorem checkBounds_mirrored {e f : Expr} (akin : e.Akin f)
    (bounds : e.boundsFault? = f.boundsFault?) :
    (checkBounds e s).Mirrored env ignore (checkBounds f s') := by
  rw [checkBounds, checkBounds, Expr.checkBounds, Expr.checkBounds, bounds]
  cases f.boundsFault? with
  | none => exact .done states
  | some why => exact .failed (.fault (congrArg (Fault.bounds · why) akin)) states

theorem oneOf_mirrored {pattern pattern' : Expr} (akin : pattern.Akin pattern')
    (accepts : Char → Bool) :
    (oneOf env.source pattern accepts s).Mirrored env ignore
      (oneOf env.source pattern' accepts s') := by
  rw [oneOf, oneOf, ← states.cursor]
  cases s.cursor.character with
  | none => exact mismatch_mirrored states akin
  | some c =>
    dsimp only
    split
    · exact arrive_mirrored states.next
    · exact mismatch_mirrored states akin

variable (pattern : Expr)

theorem allOf_mirrored {start : Cursor} (marks : start.Marks env.source) (chars : List Char) :
    (allOf env.source pattern start chars s).Mirrored env ignore
      (allOf env.source pattern start chars s') := by
  induction chars generalizing s s' with
  | nil => exact arrive_mirrored states
  | cons c rest ih =>
    rw [allOf, allOf, ← states.cursor]
    split
    · exact ih states.next
    · exact .failed (.mismatch rfl) (states.moveTo marks)

theorem atEnd_mirrored : (atEnd pattern s).Mirrored env ignore (atEnd pattern s') := by
  rw [atEnd, atEnd, ← states.cursor]
  split
  · exact arrive_mirrored states
  · exact mismatch_mirrored states rfl

theorem lineBreak_mirrored :
    (lineBreak env.source pattern s).Mirrored env ignore (lineBreak env.source pattern s') := by
  rw [lineBreak, lineBreak, ← states.cursor, ← states.next.cursor]
  split
  · exact arrive_mirrored states.next
  · split
    · split
      · exact arrive_mirrored states.next.next
      · exact arrive_mirrored states.next
    · exact mismatch_mirrored states rfl

theorem blank_mirrored :
    (blank env.source pattern s).Mirrored env ignore (blank env.source pattern s') := by
  rw [blank, blank, ← states.cursor]
  split
  · exact arrive_mirrored states.next
  · exact lineBreak_mirrored states pattern

end Primitives

/-! ## Compounds -/

/-- Runs of the one kind are mirrored by runs of the other, for expressions that are akin, the second of which is
one of these. -/
def Mirrors (env : Env) (ignore exprs : List Expr) (item item' : Expr → State → Run α) : Prop :=
  ∀ ⦃e f⦄, e.Akin f → f ∈ exprs → ∀ ⦃s s'⦄, s.Mirrored env ignore s' →
    (item e s).Mirrored env ignore (item' f s')

section Compounds

variable {exprs : List Expr} {pattern pattern' : Expr} (patterns : pattern.Akin pattern')
  {start : Cursor}

section Lists

variable {item item' : Expr → State → Run α} (items : Mirrors env ignore exprs item item')
  (marks : start.Marks env.source)
include patterns items marks

theorem sequence_mirrored {es fs : List Expr} (parts : Forall₂ Expr.Akin es fs)
    (covered : ∀ f ∈ fs, f ∈ exprs) (values : List α) (states : s.Mirrored env ignore s') :
    (sequence item pattern start es values s).Mirrored env ignore
      (sequence item' pattern' start fs values s') := by
  induction parts generalizing values s s' with
  | nil => exact .done states
  | @cons e f es fs akin _ ih =>
    obtain ⟨headCovered, restCovered⟩ := List.forall_mem_cons.mp covered
    have mirrored := items akin headCovered states
    rw [Run.sequence, Run.sequence, ← states.cursor]
    generalize item e s = r, item' f s' = r' at mirrored ⊢
    cases mirrored with
    | done states' => exact ih restCovered _ states'
    | failed failures states' =>
      exact .failed (failures.within (patterns.mismatch _ _)) (states'.moveTo marks)
    | exhausted => exact .exhausted

omit items marks in
theorem noAlternative_akin {last last' : Option Trail}
    (lasts : last.map Trail.uncaptured = last'.map Trail.uncaptured) :
    (noAlternative pattern start last).Akin (noAlternative pattern' start last') := by
  cases last with
  | none =>
    rw [Option.map_eq_none_iff.mp lasts.symm]
    exact .mismatch (congrArg Trail.single (patterns.mismatch _ _))
  | some trail =>
    obtain ⟨trail', rfl, trails⟩ := Option.map_eq_some_iff.mp lasts.symm
    exact .mismatch (congrArg₂ Trail.within trails.symm (patterns.mismatch _ _))

theorem firstOf_mirrored {es fs : List Expr} (parts : Forall₂ Expr.Akin es fs)
    (covered : ∀ f ∈ fs, f ∈ exprs) {last last' : Option Trail}
    (lasts : last.map Trail.uncaptured = last'.map Trail.uncaptured)
    (states : s.Mirrored env ignore s') :
    (firstOf item pattern start es last s).Mirrored env ignore
      (firstOf item' pattern' start fs last' s') := by
  induction parts generalizing last last' s s' with
  | nil => exact .failed (noAlternative_akin patterns lasts) (states.moveTo marks)
  | @cons e f es fs akin _ ih =>
    obtain ⟨headCovered, restCovered⟩ := List.forall_mem_cons.mp covered
    have mirrored := items akin headCovered states
    rw [firstOf, firstOf]
    generalize item e s = r, item' f s' = r' at mirrored ⊢
    cases mirrored with
    | done states' => exact .done states'
    | failed failures states' =>
      cases failures with
      | mismatch trails => exact ih restCovered (congrArg some trails) states'
      | fault faults => exact .failed (.fault faults) states'
    | exhausted => exact .exhausted

end Lists

section Bodies

variable {body body' : State → Run α}
  (bodies : ∀ t t', t.Mirrored env ignore t' → (body t).Mirrored env ignore (body' t'))
include bodies

theorem optional_mirrored {fallback fallback' : State → Run α}
    (fallbacks : ∀ t t', t.Mirrored env ignore t' →
      (fallback t).Mirrored env ignore (fallback' t')) (states : s.Mirrored env ignore s') :
    (optional body fallback s).Mirrored env ignore (optional body' fallback' s') := by
  have mirrored := bodies s s' states
  rw [optional, optional]
  generalize body s = r, body' s' = r' at mirrored ⊢
  cases mirrored with
  | done states' => exact .done states'
  | failed failures states' =>
    cases failures with
    | mismatch trails => exact fallbacks _ _ states'
    | fault faults => exact .failed (.fault faults) states'
  | exhausted => exact .exhausted

include patterns in
theorem repetition_mirrored (min max : Nat) (marks : start.Marks env.source) {rounds rounds' : Nat}
    (enough : rounds ≤ rounds') (count : Nat) (values : List α)
    (states : s.Mirrored env ignore s') :
    (repetition body pattern min max start rounds count values s).Mirrored env ignore
      (repetition body' pattern' min max start rounds' count values s') := by
  induction rounds generalizing rounds' count values s s' with
  | zero => exact .exhausted
  | succ rounds ih =>
    obtain ⟨rounds', rfl⟩ := Nat.exists_eq_add_of_le' enough
    have mirrored := bodies s s' states
    rw [repetition, ← Nat.add_assoc, repetition, ← states.cursor]
    split
    · exact .done states
    · generalize body s = r, body' s' = r' at mirrored ⊢
      cases mirrored with
      | done states' =>
        dsimp only
        rw [← states'.cursor]
        split
        · exact .done states'
        · exact ih (Nat.le_add_left _ _) (count + 1) _ states'
      | failed failures states' =>
        dsimp only
        rw [← failures.isMismatch_eq]
        split
        · exact .done states'
        · exact .failed (failures.within (patterns.mismatch _ _)) (states'.moveTo marks)
      | exhausted => exact .exhausted

end Bodies

section Looks

variable {look look' : State → Run Cursor}
  (looks : ∀ t t', t.Mirrored env ignore t' → (look t).Mirrored env ignore (look' t'))
  (states : s.Mirrored env ignore s')
include patterns looks states

theorem notAhead_mirrored :
    (notAhead look pattern s).Mirrored env ignore (notAhead look' pattern' s') := by
  have mirrored := looks s s' states
  rw [notAhead, notAhead, ← states.cursor]
  generalize look s = r, look' s' = r' at mirrored ⊢
  cases mirrored with
  | done states' =>
    exact .failed (.mismatch (congrArg Trail.single (patterns.mismatch _ _)))
      (states'.moveTo states.marks)
  | failed failures states' =>
    cases failures with
    | mismatch trails => exact arrive_mirrored (states'.moveTo states.marks)
    | fault faults => exact .failed (.fault faults) (states'.moveTo states.marks)
  | exhausted => exact .exhausted

theorem ahead_mirrored :
    (ahead look pattern s).Mirrored env ignore (ahead look' pattern' s') := by
  have mirrored := looks s s' states
  rw [ahead, ahead, ← states.cursor]
  generalize look s = r, look' s' = r' at mirrored ⊢
  cases mirrored with
  | done states' => exact arrive_mirrored (states'.moveTo states.marks)
  | failed failures states' =>
    exact .failed (failures.within (patterns.mismatch _ _)) (states'.moveTo states.marks)
  | exhausted => exact .exhausted

theorem oneBut_mirrored :
    (oneBut env.source look pattern s).Mirrored env ignore
      (oneBut env.source look' pattern' s') := by
  have mirrored := looks s s' states
  rw [oneBut, oneBut, ← states.cursor]
  generalize look s = r, look' s' = r' at mirrored ⊢
  cases mirrored with
  | done states' => exact mismatch_mirrored (states'.moveTo states.marks) patterns
  | failed failures states' =>
    cases failures with
    | mismatch trails => exact oneOf_mirrored states' patterns fun _ => true
    | fault faults => exact .failed (.fault faults) states'
  | exhausted => exact .exhausted

end Looks

end Compounds

/-! ## Skipping -/

section Skipping

variable {exprs : List Expr} {recognize recognize' : Expr → State → Run Cursor}
  (recognizes : Mirrors env ignore exprs recognize recognize')
include recognizes

theorem skipOne_mirrored {es fs : List Expr} (parts : Forall₂ Expr.Akin es fs)
    (covered : ∀ f ∈ fs, f ∈ exprs) (states : s.Mirrored env ignore s') :
    (skipOne recognize es s).Mirrored env ignore (skipOne recognize' fs s') := by
  induction parts generalizing s s' with
  | nil => exact .done states
  | @cons e f es fs akin _ ih =>
    obtain ⟨headCovered, restCovered⟩ := List.forall_mem_cons.mp covered
    have mirrored := recognizes akin headCovered states
    rw [skipOne, skipOne, ← states.cursor]
    generalize recognize e s = r, recognize' f s' = r' at mirrored ⊢
    cases mirrored with
    | done states' =>
      dsimp only
      split
      · exact .done (states'.note _ _)
      · exact ih restCovered states'
    | failed failures states' =>
      cases failures with
      | mismatch trails => exact ih restCovered states'
      | fault faults => exact .failed (.fault faults) states'
    | exhausted => exact .exhausted

theorem skipAll_mirrored {es fs : List Expr} (parts : Forall₂ Expr.Akin es fs)
    (covered : ∀ f ∈ fs, f ∈ exprs) {rounds rounds' : Nat} (enough : rounds ≤ rounds')
    (states : s.Mirrored env ignore s') :
    (skipAll recognize es rounds s).Mirrored env ignore (skipAll recognize' fs rounds' s') := by
  induction rounds generalizing rounds' s s' with
  | zero => exact .exhausted
  | succ rounds ih =>
    obtain ⟨rounds', rfl⟩ := Nat.exists_eq_add_of_le' enough
    rw [skipAll, ← Nat.add_assoc, skipAll]
    refine (skipOne_mirrored recognizes parts covered states).andThen fun more t t' states' => ?_
    cases more with
    | true => exact ih (Nat.le_add_left _ _) states'
    | false => exact .done states'

/-- What is ignorable in the one engine is akin to what is ignorable in the other, so skipping ends alike. -/
theorem skip_mirrored (ignorable : ∀ f ∈ ignore, f ∈ exprs) {rounds rounds' : Nat}
    (enough : rounds ≤ rounds') (states : s.Mirrored env ignore s') :
    (skip rounds recognize s).Mirrored env ignore (skip rounds' recognize' s') := by
  have active : s.skipping.active = s'.skipping.active := by
    rw [← s.skipping.uncaptured_active, states.skipping, s'.skipping.uncaptured_active]
  have parts : Forall₂ Expr.Akin s.skipping.ignore s'.skipping.ignore :=
    Expr.forall₂_akin_iff.mpr (congrArg Skipping.ignore states.skipping)
  rw [skip, skip, ← active]
  split
  · next isActive =>
    have covered : ∀ f ∈ s'.skipping.ignore, f ∈ exprs := by
      -- Skipping is on, so the list is the one that the engine began with.
      obtain ⟨v, fits⟩ := states.fits
      rw [active, Skipping.active, Bool.and_eq_true, Bool.not_eq_true', fits.verbatim_eq] at isActive
      rw [fits.ignore_eq isActive.1]
      exact ignorable
    exact (skipAll_mirrored recognizes parts covered enough (states.off rfl rfl)).afterwards
      fun t t' _ _ ends => states.restore ends
  · exact .done states

end Skipping

/-! ## The engine -/

/-- Without a tree to build, a capture says what its body says. -/
theorem dispatch_capture (rounds : Nat) (recognize build : Expr → State → Run Cursor) (env : Env)
    (name : String) (body : Expr) (s : State) :
    dispatch .recognizer rounds recognize build env (.capture name body) s = build body s := by
  rw [dispatch]
  cases build body s with
  | done stop t => rfl
  | failed failure t => rfl
  | exhausted => rfl

section Engine

variable {left : Env} (engines : left.Akin env) {exprs : List Expr}

theorem unskipped_mirrored {body body' : State → Run α}
    (bodies : ∀ t t', t.Mirrored env ignore t' → (body t).Mirrored env ignore (body' t'))
    (settles : ∀ t, Settles (fun _ _ => True) t.cursor t (body t))
    (settles' : ∀ t, Settles (fun _ _ => True) t.cursor t (body' t))
    (states : s.Mirrored env ignore s') :
    (unskipped body s).Mirrored env ignore (unskipped body' s') := by
  have toggled : (s.skipping.toggle true).uncaptured = (s'.skipping.toggle true).uncaptured :=
    congrArg (Skipping.toggle · true) states.skipping
  refine (bodies _ _ (states.off toggled rfl)).afterwards fun t t' ended ended' ends => ?_
  rw [(settles _).kept ended, (settles' _).kept ended']
  exact states.restore ends

include engines

theorem resolve_mirrored (closed : Closed env ignore (· ∈ exprs)) {build build' : Expr → State → Run α}
    (builds : Mirrors env ignore exprs build build') (name : String)
    (states : s.Mirrored env ignore s') :
    ((resolve left.definitions name s).andThen build).Mirrored env ignore
      ((resolve env.definitions name s').andThen build') := by
  have found := Definitions.find?_akin engines.definitions name
  rw [resolve, resolve]
  cases sought : env.definitions.find? name with
  | none =>
    rw [sought] at found
    generalize left.definitions.find? name = target at found ⊢
    cases found
    exact .failed (.fault rfl) (states.note _ _)
  | some target' =>
    rw [sought] at found
    generalize left.definitions.find? name = target at found ⊢
    cases found with
    | some akin => exact builds akin (closed.definition sought) (states.note _ _)

theorem dispatch_primitive_mirrored {e : Expr} (primitive : e.isPrimitive = true)
    (rounds rounds' : Nat) (recognize recognize' : Expr → State → Run Cursor)
    (states : s.Mirrored env ignore s') :
    (dispatch .recognizer rounds recognize recognize left e s).Mirrored env ignore
      (dispatch .recognizer rounds' recognize' recognize' env e s') := by
  have akin : e.Akin e := rfl
  have bounds := checkBounds_mirrored states akin rfl
  cases e with
  | char c =>
    rw [dispatch, dispatch, engines.source]
    exact (oneOf_mirrored states akin _).map _
  | literal text =>
    rw [dispatch, dispatch, engines.source, ← states.cursor]
    exact (allOf_mirrored states _ states.marks _).map _
  | any =>
    rw [dispatch, dispatch, engines.source]
    exact (oneOf_mirrored states akin _).map _
  | range low high =>
    rw [dispatch, dispatch, engines.source]
    exact bounds.andThen fun _ _ _ here => (oneOf_mirrored here akin _).map _
  | eof => exact (atEnd_mirrored states _).map _
  | eol =>
    rw [dispatch, dispatch, engines.source]
    exact (lineBreak_mirrored states _).map _
  | space =>
    rw [dispatch, dispatch, engines.source]
    exact (blank_mirrored states _).map _
  | seq _ | choice _ | optional _ | rep _ _ _ | not _ | peek _ | capture _ _ | anyBut _ | ref _
  | verbatim _ => cases primitive

variable {recognize recognize' : Expr → State → Run Cursor}
  (recognizes : Mirrors env ignore exprs recognize recognize')
  (closed : Closed env ignore (· ∈ exprs))
  (settles : ∀ e t, Settles (fun _ _ => True) t.cursor t (recognize e t))
  (settles' : ∀ e t, Settles (fun _ _ => True) t.cursor t (recognize' e t))
  {rounds rounds' : Nat} (enough : rounds ≤ rounds') {e f : Expr} (akin : e.Akin f)
  (shaped : e.Shaped f) (listed : f ∈ exprs) (states : s.Mirrored env ignore s')
include recognizes closed settles settles' enough akin shaped listed states

theorem dispatch_mirrored :
    (dispatch .recognizer rounds recognize recognize left e s).Mirrored env ignore
      (dispatch .recognizer rounds' recognize' recognize' env f s') := by
  have part {body : Expr} (mem : body ∈ f.parts) : body ∈ exprs := closed.part listed mem
  have only {body : Expr} (parts : f.parts = [body]) : body ∈ exprs :=
    part (parts ▸ List.mem_singleton_self body)
  have marks := states.marks
  have close {members : List Cursor} (t t' : State) (here : t.Mirrored env ignore t') :
      (Builder.recognizer.close members t).Mirrored env ignore
        (Builder.recognizer.close members t') := arrive_mirrored here
  cases shaped with
  | primitive primitive =>
    exact dispatch_primitive_mirrored engines primitive rounds rounds' recognize recognize' states
  | @ref name => exact resolve_mirrored engines closed recognizes name states
  | seq parts =>
    rw [dispatch, dispatch, ← states.cursor]
    exact (sequence_mirrored akin recognizes marks parts (fun _ => part) [] states).andThen
      fun _ => close
  | choice parts =>
    rw [dispatch, dispatch, ← states.cursor]
    exact firstOf_mirrored akin recognizes marks parts (fun _ => part) rfl states
  | optional body =>
    exact optional_mirrored (recognizes body (only rfl)) close states
  | rep body =>
    rw [dispatch, dispatch]
    refine (checkBounds_mirrored states akin rfl).andThen fun _ t t' here => ?_
    rw [← here.cursor]
    exact (repetition_mirrored akin (recognizes body (only rfl)) _ _
      here.marks enough 0 [] here).andThen fun _ => close
  | not body =>
    exact (notAhead_mirrored akin (recognizes body (only rfl)) states).map _
  | peek body =>
    exact (ahead_mirrored akin (recognizes body (only rfl)) states).map _
  | anyBut body =>
    rw [dispatch, dispatch, engines.source]
    exact (oneBut_mirrored akin (recognizes body (only rfl)) states).map _
  | verbatim body =>
    exact unskipped_mirrored (recognizes body (only rfl)) (settles _) (settles' _) states

theorem step_mirrored :
    (step .recognizer rounds recognize recognize left e s).Mirrored env ignore
      (step .recognizer rounds' recognize' recognize' env f s') := by
  rw [step, step, ← states.cursor]
  refine Mirrored.orReturnTo ?_ states.marks
  exact (skip_mirrored recognizes closed.ignorable enough states).andThen fun _ t t' here =>
    dispatch_mirrored engines recognizes closed settles settles' enough akin shaped listed here

end Engine

end Run

end PegEngine
