import Mathlib.Data.Finset.Prod
import Mathlib.Data.Fintype.Card
import Mathlib.Order.Monotone.Basic
import PegEngine.Proofs.Agreement
import PegEngine.Proofs.Marks

/-! The budget. How a run ends is settled by its place: by the expression, the position and whether
skipping is off. There are only so many of these, and one more level of nesting that settles no
further place settles none ever after. So a budget for every place suffices, if any does. -/
namespace PegEngine

open Run Likeness

namespace Run

variable {α : Type}

/-- Whether the run came to an end. -/
def isOver : Run α → Bool
  | done _ _ | failed _ _ => true
  | exhausted => false

theorem isOver_iff {r : Run α} : r.isOver = true ↔ r ≠ .exhausted := by
  cases r with
  | done a s => exact ⟨fun _ => nofun, fun _ => rfl⟩
  | failed failure s => exact ⟨fun _ => nofun, fun _ => rfl⟩
  | exhausted => exact ⟨nofun, fun ne => absurd rfl ne⟩

end Run

/-! ## Rounds

Where every further round reads something, there are no more rounds than characters. -/

section Rounds

variable {α : Type} {env : Env} {ignore : List Expr} {v : Bool}

theorem repetition_rounds {body : State → Run α}
    (bodyGoes : ∀ t, t.Fits env ignore v → (body t).Goes env ignore v t) (pattern : Expr)
    (min max : Nat) (start : Cursor) (rounds count : Nat) (values : List α) {s : State}
    (fits : s.Fits env ignore v) (enough : env.source.size < rounds + s.cursor.position) :
    repetition body pattern min max start (rounds + 1) count values s =
      repetition body pattern min max start rounds count values s := by
  induction rounds generalizing count values s with
  | zero =>
    have within := fits.marks.within
    omega
  | succ rounds ih =>
    have goes := bodyGoes s fits
    rw [repetition, repetition]
    by_cases full : 0 < max ∧ max ≤ count
    · rw [if_pos full, if_pos full]
    · rw [if_neg full, if_neg full]
      cases ran : body s with
      | done a t =>
        rw [ran] at goes
        obtain ⟨fits', onward⟩ := goes
        dsimp only
        by_cases still : t.cursor.position = s.cursor.position
        · rw [if_pos still, if_pos still]
        · rw [if_neg still, if_neg still]
          exact ih (count + 1) (a :: values) fits' (by omega)
      | failed failure t => rfl
      | exhausted => rfl

theorem skipAll_rounds (budget : Nat) (es : List Expr) (rounds : Nat) {s : State}
    (fits : s.Fits env ignore v) (enough : env.source.size < rounds + s.cursor.position) :
    skipAll (run budget .recognizer env) es (rounds + 1) s =
      skipAll (run budget .recognizer env) es rounds s := by
  induction rounds generalizing s with
  | zero =>
    have within := fits.marks.within
    omega
  | succ rounds ih =>
    have goes := skipOne_goes fits budget es
    rw [skipAll, skipAll]
    cases ran : skipOne (run budget .recognizer env) es s with
    | done more t =>
      rw [ran] at goes
      obtain ⟨fits', less⟩ := goes
      rw [andThen_done, andThen_done]
      cases more with
      | true =>
        have further := less rfl
        exact ih fits' (by omega)
      | false => rfl
    | failed failure t => rfl
    | exhausted => rfl

variable {s : State} (fits : s.Fits env ignore v) {rounds : Nat}
  (enough : env.source.size < rounds)
include fits enough

theorem skip_rounds (budget : Nat) :
    skip (rounds + 1) (run budget .recognizer env) s =
      skip rounds (run budget .recognizer env) s := by
  have off : Skipping.suspended.verbatim = true := rfl
  rw [skip, skip, skipAll_rounds budget _ rounds (fits.off off)
    (Nat.lt_of_lt_of_le enough (Nat.le_add_right _ _))]

theorem dispatch_rounds (budget : Nat) (builder : Builder α) (e : Expr) :
    dispatch builder (rounds + 1) (run budget .recognizer env) (run budget builder env) env e s =
      dispatch builder rounds (run budget .recognizer env) (run budget builder env) env e s := by
  cases e with
  | rep min max body =>
    rw [dispatch, dispatch, checkBounds]
    cases (Expr.rep min max body).checkBounds with
    | ok _ =>
      rw [andThen_done, andThen_done, repetition_rounds
        (fun t here => run_goes here budget builder body) _ min max s.cursor rounds 0 [] fits
        (Nat.lt_of_lt_of_le enough (Nat.le_add_right _ _))]
    | error broken => rfl
  | _ => rfl

/-- With more rounds than characters one more changes nothing. -/
theorem step_rounds (budget : Nat) (builder : Builder α) (e : Expr) :
    step builder (rounds + 1) (run budget .recognizer env) (run budget builder env) env e s =
      step builder rounds (run budget .recognizer env) (run budget builder env) env e s := by
  have ends := skip_fits fits rounds budget
  rw [step, step, skip_rounds fits enough]
  cases ran : skip rounds (run budget .recognizer env) s with
  | done _ t =>
    rw [ran] at ends
    rw [andThen_done, andThen_done, dispatch_rounds ends enough]
  | failed failure t => rfl
  | exhausted => rfl

end Rounds

/-! ## Levels of nesting -/

section Levels

variable {α β : Type} {env : Env} {ignore : List Expr} {covers : Expr → Prop} {v : Bool}

theorem Likeness.Follows.isOver {closed : Closed env ignore covers} {value : α → β → Prop}
    {r : Run α} {r' : Run β} (follows : (placed closed).Follows value r r')
    (ended : r.isOver = true) : r'.isOver = true := by
  cases r with
  | done a t =>
    obtain ⟨b, t', rfl, _, _⟩ := follows
    rfl
  | failed failure t =>
    rcases follows with excused | ⟨failure', t', rfl, _, _⟩
    · cases failure with
      | mismatch trail => exact excused.elim
      | fault broken => exact excused.elim
    · rfl
  | exhausted => cases ended

/-- Every run of these expressions that ends within the upper budget ends within the lower. -/
def Suffices (env : Env) (ignore : List Expr) (covers : Expr → Prop) (lower upper : Nat) : Prop :=
  ∀ v e s, covers e → s.Fits env ignore v → (run upper .recognizer env e s).isOver = true →
    (run lower .recognizer env e s).isOver = true

theorem suffices_of_le {lower upper : Nat} (le : upper ≤ lower) :
    Suffices env ignore covers lower upper := by
  intro v e s _ _ ended
  rw [isOver_iff] at ended
  rw [run_mono le ended, isOver_iff]
  exact ended

variable (closed : Closed env ignore covers)
include closed

/-- Whether a run ends depends neither on the builder nor on the state at the place. -/
theorem run_isOver (budget : Nat) (builder : Builder α) (builder' : Builder β) {e : Expr}
    (covered : covers e) {s s' : State} (fits : s.Fits env ignore v) (fits' : s'.Fits env ignore v)
    (same : s.cursor.position = s'.cursor.position)
    (ended : (run budget builder env e s).isOver = true) :
    (run budget builder' env e s').isOver = true := by
  have states := states_placed closed fits fits' same
  exact (run_follows (builds_any builder builder') (Nat.le_refl budget) covered states).isOver ended

theorem Suffices.follows {lower upper : Nat} (sufficing : Suffices env ignore covers lower upper)
    (le : lower ≤ upper) {value : α → β → Prop} {builder : Builder α} {builder' : Builder β}
    (builds : (placed closed).Builds builder builder' value) {e : Expr} (covered : covers e)
    {s s' : State} (states : (placed closed).States s s') :
    (placed closed).Follows value (run upper builder env e s) (run lower builder' env e s') := by
  have follows := run_follows builds (Nat.le_refl upper) covered states
  obtain ⟨_, fits'⟩ := states.fits
  cases ended : (run upper builder env e s).isOver with
  | true =>
    have overUpper := run_isOver closed upper builder' .recognizer covered fits' fits' rfl
      (follows.isOver ended)
    have overLower := run_isOver closed lower .recognizer builder' covered fits' fits' rfl
      (sufficing _ e s' covered fits' overUpper)
    rw [isOver_iff] at overLower
    rw [run_mono le overLower] at follows
    exact follows
  | false =>
    cases ran : run upper builder env e s with
    | done a t =>
      rw [ran] at ended
      cases ended
    | failed failure t =>
      rw [ran] at ended
      cases ended
    | exhausted => trivial

/-- A level of nesting that settles no further place is followed by none that does. -/
theorem Suffices.succ {budget : Nat} (sufficing : Suffices env ignore covers budget (budget + 1))
    (enough : env.source.size < budget) :
    Suffices env ignore covers (budget + 1) (budget + 2) := by
  intro v e s covered fits ended
  have states := states_placed closed fits fits rfl
  have inner (f : Expr) (here : covers f) (t t' : State) (states : (placed closed).States t t') :=
    sufficing.follows closed (Nat.le_succ budget) builds_recognizer here states
  have follows := step_follows builds_recognizer inner inner
    (fun f t => run_settles _ (rightFor_any Builder.recognizer) env f t)
    (fun f t => run_settles _ (rightFor_any Builder.recognizer) env f t)
    states (Nat.le_refl budget) covered
  rw [← step_rounds fits enough] at follows
  exact follows.isOver ended

end Levels

/-! ## Places -/

/-- A state at a position. -/
def State.sample (env : Env) (ignore : List Expr) (v : Bool) (p : Nat) : State :=
  ⟨⟨env.source[p]?, p, 0, 0, 0⟩, ⟨ignore, v⟩, []⟩

section Places

variable {env : Env} {ignore exprs : List Expr} {v : Bool}

theorem sample_fits (v : Bool) {p : Nat} (within : p ≤ env.source.size) :
    (State.sample env ignore v p).Fits env ignore v :=
  ⟨⟨within, rfl⟩, rfl, fun _ => rfl⟩

/-- All places where runs of these expressions may begin. -/
def places (source : Source) (exprs : List Expr) : Finset (Bool × Expr × Nat) :=
  Finset.univ ×ˢ exprs.toFinset ×ˢ Finset.range (source.size + 1)

theorem mem_places {source : Source} {e : Expr} {p : Nat} :
    (v, e, p) ∈ places source exprs ↔ e ∈ exprs ∧ p ≤ source.size := by
  rw [places, Finset.mem_product, Finset.mem_product, List.mem_toFinset, Finset.mem_range,
    Nat.lt_succ_iff]
  exact and_iff_right (Finset.mem_univ v)

theorem card_places_le (source : Source) (exprs : List Expr) :
    (places source exprs).card ≤ 2 * exprs.length * (source.size + 1) := by
  have distinct := exprs.toFinset_card_le
  rw [places, Finset.card_product, Finset.card_product, Finset.card_univ, Fintype.card_bool,
    Finset.card_range, Nat.mul_assoc]
  exact Nat.mul_le_mul_left 2 (Nat.mul_le_mul_right _ distinct)

/-- The places whose runs end within the budget. -/
def settled (env : Env) (ignore exprs : List Expr) (budget : Nat) : Finset (Bool × Expr × Nat) :=
  (places env.source exprs).filter fun place =>
    (run budget .recognizer env place.2.1 (State.sample env ignore place.1 place.2.2)).isOver = true

theorem mem_settled {budget : Nat} {e : Expr} {p : Nat} :
    (v, e, p) ∈ settled env ignore exprs budget ↔ (e ∈ exprs ∧ p ≤ env.source.size) ∧
      (run budget .recognizer env e (State.sample env ignore v p)).isOver = true := by
  rw [settled, Finset.mem_filter, mem_places]

theorem settled_mono {budget budget' : Nat} (le : budget ≤ budget') :
    settled env ignore exprs budget ⊆ settled env ignore exprs budget' := by
  rintro ⟨v, e, p⟩ mem
  rw [mem_settled] at mem ⊢
  refine ⟨mem.1, ?_⟩
  have ended := isOver_iff.mp mem.2
  rw [run_mono le ended]
  exact mem.2

variable (closed : Closed env ignore (· ∈ exprs))
include closed

theorem suffices_iff {lower upper : Nat} :
    Suffices env ignore (· ∈ exprs) lower upper ↔
      settled env ignore exprs upper ⊆ settled env ignore exprs lower := by
  constructor
  · rintro sufficing ⟨v, e, p⟩ mem
    rw [mem_settled] at mem ⊢
    exact ⟨mem.1, sufficing v e _ mem.1.1 (sample_fits v mem.1.2) mem.2⟩
  · intro subset v e s covered fits ended
    have within := fits.marks.within
    have overSample := run_isOver closed upper .recognizer .recognizer covered fits
      (sample_fits v within) rfl ended
    have mem := subset (mem_settled.mpr ⟨⟨covered, within⟩, overSample⟩)
    exact run_isOver closed lower .recognizer .recognizer covered (sample_fits v within) fits rfl
      (mem_settled.mp mem).2

/-- A budget for every place, and for as many rounds as there are characters, suffices. -/
theorem suffices_of_places {budget : Nat}
    (enough : env.source.size + 1 + 2 * exprs.length * (env.source.size + 1) ≤ budget)
    (upper : Nat) : Suffices env ignore (· ∈ exprs) budget upper := by
  let least := env.source.size + 1
  let count (level : Nat) : Nat := (settled env ignore exprs (least + level)).card
  have monotone : Monotone count := fun level level' le =>
    Finset.card_le_card (settled_mono (Nat.add_le_add_left le least))
  have bounded (level : Nat) : count level ≤ 2 * exprs.length * (env.source.size + 1) :=
    (Finset.card_filter_le _ _).trans (card_places_le env.source exprs)
  have same {level level' : Nat} (le : level ≤ level') (equal : count level = count level') :
      settled env ignore exprs (least + level) = settled env ignore exprs (least + level') :=
    Finset.eq_of_subset_of_card_le (settled_mono (Nat.add_le_add_left le least))
      (Nat.le_of_eq equal.symm)
  -- A level that settles no further place is the same engine as the one below it.
  have stable (level : Nat) (equal : count level = count (level + 1)) :
      count (level + 1) = count (level + 2) := by
    have sufficing := (suffices_iff closed).mpr (same (Nat.le_succ level) equal).symm.subset
    have further := (suffices_iff closed).mp (sufficing.succ closed (by omega))
    exact Nat.le_antisymm (monotone (Nat.le_succ _)) (Finset.card_le_card further)
  by_cases le : upper ≤ budget
  · exact suffices_of_le le
  · obtain ⟨level, rfl⟩ := Nat.exists_eq_add_of_le (show least ≤ budget by omega)
    obtain ⟨level', rfl⟩ := Nat.exists_eq_add_of_le (show least ≤ upper by omega)
    have settles := Nat.stabilises_of_monotone monotone bounded stable (show _ ≤ level by omega)
    have settles' := Nat.stabilises_of_monotone monotone bounded stable (show _ ≤ level' by omega)
    rw [suffices_iff closed, same (show level ≤ level' by omega) (settles.trans settles'.symm)]

/-- Between one budget that suffices and any other there is no difference. -/
theorem run_eq_of_suffices {α : Type} {lower upper : Nat}
    (sufficing : Suffices env ignore (· ∈ exprs) lower upper) {builder : Builder α} {e : Expr}
    (covered : e ∈ exprs) {s : State} (fits : s.Fits env ignore v)
    (ended : run upper builder env e s ≠ .exhausted) :
    run lower builder env e s = run upper builder env e s := by
  have overUpper := run_isOver closed upper builder .recognizer covered fits fits rfl
    (isOver_iff.mpr ended)
  have overLower := isOver_iff.mp (run_isOver closed lower .recognizer builder covered fits fits rfl
    (sufficing v e s covered fits overUpper))
  rcases Nat.le_total lower upper with le | le
  · exact (run_mono le overLower).symm
  · exact run_mono le ended

end Places

/-! ## Up to the end -/

section End

variable {α : Type} {env : Env} {ignore : List Expr} {covers : Expr → Prop} {v : Bool}

theorem skip_rounds_of_le {s : State} (fits : s.Fits env ignore v) {rounds rounds' : Nat}
    (enough : env.source.size < rounds) (le : rounds ≤ rounds') (budget : Nat) :
    skip rounds' (run budget .recognizer env) s = skip rounds (run budget .recognizer env) s := by
  induction rounds', le using Nat.le_induction with
  | base => rfl
  | succ rounds' le ih => rw [skip_rounds fits (Nat.lt_of_lt_of_le enough le), ih]

variable (closed : Closed env ignore covers)
include closed

theorem Suffices.runEnd_follows {lower upper : Nat}
    (sufficing : Suffices env ignore covers lower upper) (le : lower ≤ upper)
    (enough : env.source.size < lower) {s s' : State}
    (states : (placed closed).States s s') :
    (placed closed).Follows (placed closed).cursor (runEnd upper env s) (runEnd lower env s') := by
  rw [runEnd, skip_rounds_of_le states.fits.1 enough le]
  have inner (f : Expr) (here : covers f) (t t' : State) (states : (placed closed).States t t') :=
    sufficing.follows closed le builds_recognizer here states
  exact (skip_follows inner states (Nat.le_refl lower)).andThen fun _ _ _ _ _ here =>
    atEnd_follows here .eof

theorem runToEnd_eq_of_suffices {lower upper : Nat}
    (sufficing : Suffices env ignore covers lower upper) (enough : env.source.size < lower)
    {builder : Builder α} {e : Expr} (covered : covers e) {s : State} (fits : s.Fits env ignore v)
    (ended : runToEnd upper builder env e s ≠ .exhausted) :
    runToEnd lower builder env e s = runToEnd upper builder env e s := by
  rcases Nat.le_total lower upper with le | le
  · have follows : (placed closed).Follows (fun _ _ => True) (runToEnd upper builder env e s)
        (runToEnd lower builder env e s) :=
      (sufficing.follows closed le (builds_any builder builder) covered
        (states_placed closed fits fits rfl)).andThen fun _ _ _ _ _ here =>
          ((sufficing.runEnd_follows closed le enough here).orReturnTo
            ⟨fits.marks, fits.marks, rfl⟩).map fun _ _ _ => trivial
    have overLower := isOver_iff.mp (follows.isOver (isOver_iff.mpr ended))
    exact (runToEnd_mono le overLower).symm
  · exact runToEnd_mono le ended

end End

/-! ## Sessions -/

namespace Session

variable {α : Type} (session : Session) (e : Expr)

/-- All expressions that a match may turn to. -/
def reachable : List Expr :=
  Expr.preorderAll (e :: session.exprs)

theorem length_reachable : (session.reachable e).length = e.size + Expr.sizeAll session.exprs := by
  rw [reachable, Expr.length_preorderAll, Expr.sizeAll]

theorem mem_reachable {f : Expr} (owned : f ∈ e :: session.exprs) : f ∈ session.reachable e := by
  rw [reachable, Expr.preorderAll_eq_flatMap, List.mem_flatMap]
  exact ⟨f, owned, f.mem_preorder_self⟩

theorem closed_reachable :
    Closed session.toEnv session.skipping.ignore (· ∈ session.reachable e) where
  part := by
    intro f part listed mem
    rw [reachable, Expr.preorderAll_eq_flatMap, List.mem_flatMap] at listed ⊢
    obtain ⟨root, rootMem, rootListed⟩ := listed
    exact ⟨root, rootMem, Expr.mem_preorder_of_mem_parts rootListed mem⟩
  definition found := session.mem_reachable e (List.mem_cons_of_mem _ (List.mem_append_left _
    (Definitions.mem_exprs_of_find? found)))
  ignorable _ mem := session.mem_reachable e (List.mem_cons_of_mem _ (List.mem_append_right _ mem))

/-- The budget of a session suffices for every run that ends at all. -/
theorem suffices_budget (upper : Nat) :
    Suffices session.toEnv session.skipping.ignore (· ∈ session.reachable e) (session.budget e)
      upper := by
  refine suffices_of_places (session.closed_reachable e) ?_ upper
  rw [length_reachable, budget]
  omega

variable (marks : session.cursor.Marks session.source)
include marks

theorem state_fits :
    session.state.Fits session.toEnv session.skipping.ignore session.skipping.verbatim :=
  ⟨marks, rfl, fun _ => rfl⟩

theorem run_budget (builder : Builder α) {n : Nat}
    (ended : run n builder session.toEnv e session.state ≠ .exhausted) :
    run (session.budget e) builder session.toEnv e session.state =
      run n builder session.toEnv e session.state :=
  run_eq_of_suffices (session.closed_reachable e) (session.suffices_budget e n)
    (session.mem_reachable e List.mem_cons_self) (session.state_fits marks) ended

theorem runToEnd_budget (builder : Builder α) {n : Nat}
    (ended : runToEnd n builder session.toEnv e session.state ≠ .exhausted) :
    runToEnd (session.budget e) builder session.toEnv e session.state =
      runToEnd n builder session.toEnv e session.state := by
  have enough : session.source.size < session.budget e := by
    rw [budget]
    omega
  exact runToEnd_eq_of_suffices (session.closed_reachable e) (session.suffices_budget e n)
    enough (session.mem_reachable e List.mem_cons_self) (session.state_fits marks) ended

end Session

end PegEngine
