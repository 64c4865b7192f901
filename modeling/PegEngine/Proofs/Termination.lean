import PegEngine.Proofs.Adequacy

/-! Termination. A definition that meets its own name again before it has surely read something would
go on forever. Where names can be ranked so that this cannot happen, every match ends: each step
leaves less text, or reaches a name of lower rank, or a smaller expression; and what is skipped is
matched with skipping off, so that it is not skipped in front of again. -/
namespace PegEngine

namespace Expr

mutual

/-- Whether every match of the expression surely reads something. -/
def consumes : Expr → Bool
  | char _ | any | anyBut _ | range _ _ | eol | space => true
  | literal text => !text.toList.isEmpty
  | seq items => someConsumes items
  | choice alternatives => allConsume alternatives
  | rep min _ body => decide (0 < min) && body.consumes
  | capture _ body | verbatim body => body.consumes
  | optional _ | not _ | peek _ | eof | ref _ => false

def someConsumes : List Expr → Bool
  | [] => false
  | e :: rest => e.consumes || someConsumes rest

def allConsume : List Expr → Bool
  | [] => true
  | e :: rest => e.consumes && allConsume rest

end

mutual

/-- The names that may be met before anything has been read. -/
def heads : Expr → List String
  | ref name => [name]
  | seq items => headsInOrder items
  | choice alternatives => headsOfAll alternatives
  | optional body | rep _ _ body | not body | peek body | capture _ body | anyBut body
  | verbatim body => body.heads
  | char _ | literal _ | any | range _ _ | eof | eol | space => []

/-- Behind an item that surely reads something no name counts. -/
def headsInOrder : List Expr → List String
  | [] => []
  | e :: rest => e.heads ++ if e.consumes then [] else headsInOrder rest

def headsOfAll : List Expr → List String
  | [] => []
  | e :: rest => e.heads ++ headsOfAll rest

end

/-! ## Extents -/

theorem breakExtent?_bounds {ahead : List Char} {n : Nat} (extent : breakExtent? ahead = some n) :
    n ≤ ahead.length ∧ 0 < n := by
  unfold breakExtent? at extent
  split at extent
  case h_4 => cases extent
  all_goals
    cases extent
    simp

/-- A primitive reads no more than there is, and something if it surely reads something. -/
theorem extent?_bounds {e : Expr} {ahead : List Char} {n : Nat}
    (extent : e.extent? ahead = some n) :
    n ≤ ahead.length ∧ (e.consumes = true → 0 < n) := by
  have one (c : Char) (rest : List Char) : 1 ≤ (c :: rest).length ∧ (e.consumes = true → 0 < 1) :=
    ⟨Nat.le_add_left 1 rest.length, fun _ => Nat.one_pos⟩
  unfold extent? at extent
  split at extent
  case h_1 =>
    split at extent
    · cases extent
      exact one _ _
    · cases extent
  case h_2 text =>
    split at extent
    · next spelled =>
      cases extent
      refine ⟨spelled.length_le, fun consumes => ?_⟩
      rw [Expr.consumes, Bool.not_eq_true', List.isEmpty_eq_false_iff] at consumes
      exact List.length_pos_of_ne_nil consumes
    · cases extent
  case h_3 =>
    cases extent
    exact one _ _
  case h_4 =>
    split at extent
    · cases extent
      exact one _ _
    · cases extent
  case h_5 =>
    cases extent
    exact ⟨Nat.le_refl _, fun consumes => by cases consumes⟩
  case h_6 =>
    have bounds := breakExtent?_bounds extent
    exact ⟨bounds.1, fun _ => bounds.2⟩
  case h_7 =>
    cases extent
    exact one _ _
  case h_8 =>
    cases extent
    exact one _ _
  case h_9 =>
    have bounds := breakExtent?_bounds extent
    exact ⟨bounds.1, fun _ => bounds.2⟩
  case h_10 => cases extent

end Expr

/-! ## What surely reads something -/

/-- Whether the task surely reads something where it does not mismatch. -/
def Task.consumes : Task → Bool
  | .whole e | .bare e => e.consumes
  | .items es => Expr.someConsumes es
  | .alternatives es => Expr.allConsume es
  | .repeats min _ body count => decide (count = 0) && (decide (0 < min) && body.consumes)
  | .skipsOne _ => true
  | .skips => false

theorem Task.consumes_repeats {min max : Nat} {body : Expr} {count : Nat}
    (consumes : (Task.repeats min max body count).consumes = true) :
    count = 0 ∧ 0 < min ∧ body.consumes = true := by
  simpa [Task.consumes] using consumes

namespace Reads

variable {env : Env} {ignore : List Expr} {v : Bool} {task : Task} {p q : Nat} {o : Outcome}

/-- Reading does not leave the source. -/
theorem within (reads : Reads env ignore v task p (.upTo q)) (here : p ≤ env.source.size) :
    q ≤ env.source.size := by
  have along : (Outcome.upTo q).Along
      (fun p q => p ≤ env.source.size → q ≤ env.source.size) p := by
    refine reads.along (fun _ here => here) (fun first second here => second (first here)) ?_
    intro e p n extent here
    have enough := (Expr.extent?_bounds extent).1
    rw [Source.ahead, List.length_drop, Array.length_toList] at enough
    omega
  exact along here

/-- What surely reads something ends behind its start, if it matches. -/
theorem onward (reads : Reads env ignore v task p o) (consumes : task.consumes = true) :
    o.Along (· < ·) p := by
  induction reads with
  | wholeVerbatim _ ih => exact ih consumes
  | whole skips _ _ ih =>
    exact (ih consumes).imp fun _ => Nat.lt_of_le_of_lt skips.notBefore
  | wholeFault _ _ => trivial
  | skipsMore _ _ _ _ => cases consumes
  | skipsEnd _ _ => cases consumes
  | skipsFault _ _ => trivial
  | skipsOneNil => trivial
  | skipsOneHere _ less _ => exact less
  | skipsOneEmpty _ _ _ ih => exact ih rfl
  | skipsOneNext _ _ _ ih => exact ih rfl
  | skipsOneFault _ _ => trivial
  | spelled _ _ extent =>
    exact Nat.lt_add_of_pos_right ((Expr.extent?_bounds extent).2 consumes)
  | unspelled _ _ _ => trivial
  | illBounded _ => trivial
  | seq _ ih => exact ih consumes
  | itemsNil => cases consumes
  | itemsCons head tail ihHead ih =>
    rcases Bool.or_eq_true_iff.mp consumes with first | later
    · exact tail.notBefore.imp fun _ => Nat.lt_of_lt_of_le (ihHead first)
    · exact (ih later).imp fun _ => Nat.lt_of_le_of_lt head.notBefore
  | itemsMismatch _ _ => trivial
  | itemsFault _ _ => trivial
  | choice _ ih => exact ih consumes
  | alternativesNil => trivial
  | alternativesHere _ ih => exact ih (Bool.and_eq_true_iff.mp consumes).1
  | alternativesNext _ _ _ ih => exact ih (Bool.and_eq_true_iff.mp consumes).2
  | alternativesFault _ _ => trivial
  | optionalHere _ _ => cases consumes
  | optionalNone _ _ => cases consumes
  | optionalFault _ _ => trivial
  | rep _ _ ih => exact ih consumes
  | repeatsFull full =>
    obtain ⟨rfl, _, _⟩ := Task.consumes_repeats consumes
    exact absurd full.1 (Nat.not_lt_of_le full.2)
  | repeatsStill _ _ ih =>
    obtain ⟨_, _, inner⟩ := Task.consumes_repeats consumes
    exact ih inner
  | repeatsMore _ _ _ tail ihBody _ =>
    obtain ⟨_, _, inner⟩ := Task.consumes_repeats consumes
    exact tail.notBefore.imp fun _ => Nat.lt_of_lt_of_le (ihBody inner)
  | repeatsEnough _ _ enough _ =>
    obtain ⟨rfl, some, _⟩ := Task.consumes_repeats consumes
    exact absurd some (Nat.not_lt_of_le enough)
  | repeatsShort _ _ _ _ => trivial
  | repeatsFault _ _ _ => trivial
  | notHere _ _ => trivial
  | notNone _ _ => cases consumes
  | notFault _ _ => trivial
  | peekHere _ _ => cases consumes
  | peekNone _ _ => trivial
  | peekFault _ _ => trivial
  | anyButHere _ _ => trivial
  | anyButNone _ _ _ ih => exact ih rfl
  | anyButFault _ _ => trivial
  | capture _ ih => exact ih consumes
  | ref _ _ _ => cases consumes
  | refUndefined _ => trivial
  | verbatim _ ih => exact ih consumes

end Reads

/-! ## Ranks -/

namespace Definitions

/-- Each name that a definition may meet before anything has been read has a lower rank than the
name that is defined. -/
def Ranked (defs : Definitions) (rank : String → Nat) : Prop :=
  ∀ name target head inner, defs.find? name = some target → head ∈ target.heads →
    defs.find? head = some inner → rank head < rank name

/-- The least number above the ranks of those names that are defined. -/
def height (defs : Definitions) (rank : String → Nat) : List String → Nat
  | [] => 0
  | name :: rest =>
    max (if (defs.find? name).isSome then rank name + 1 else 0) (height defs rank rest)

variable {defs : Definitions} {rank : String → Nat}

theorem height_le_iff {names : List String} {bound : Nat} :
    defs.height rank names ≤ bound ↔
      ∀ name ∈ names, ∀ e, defs.find? name = some e → rank name < bound := by
  induction names with
  | nil => exact ⟨fun _ => nofun, fun _ => Nat.zero_le _⟩
  | cons name rest ih =>
    rw [height, Nat.max_le, ih, List.forall_mem_cons]
    refine and_congr_left fun _ => ?_
    cases found : defs.find? name with
    | none => exact ⟨fun _ => nofun, fun _ => Nat.zero_le _⟩
    | some e => exact ⟨fun below _ _ => below, fun below => below e rfl⟩

theorem height_mono {names names' : List String} (subset : names ⊆ names') :
    defs.height rank names ≤ defs.height rank names' :=
  height_le_iff.mpr fun name mem => height_le_iff.mp (Nat.le_refl _) name (subset mem)

/-- What stands for a name is lower than the name. -/
theorem Ranked.height_lt (ranked : defs.Ranked rank) {name : String} {target : Expr}
    (found : defs.find? name = some target) :
    defs.height rank target.heads < defs.height rank [name] := by
  have above : rank name < defs.height rank [name] :=
    height_le_iff.mp (Nat.le_refl _) name List.mem_cons_self target found
  have below : defs.height rank target.heads ≤ rank name :=
    height_le_iff.mpr fun head mem inner foundHead =>
      ranked name target head inner found mem foundHead
  exact Nat.lt_of_le_of_lt below above

end Definitions

/-! ## The measure -/

namespace Task

/-- The names that may be met before anything has been read. -/
def heads : Task → List String
  | whole e | bare e => e.heads
  | items es => Expr.headsInOrder es
  | alternatives es => Expr.headsOfAll es
  | repeats _ _ body _ => body.heads
  | skips | skipsOne _ => []

/-- How much there is of the task; what it turns to at once weighs less. -/
def weight : Task → Nat
  | whole e => 4 * e.size + 1
  | bare e => 4 * e.size
  | items es | alternatives es => 4 * Expr.sizeAll es + 2
  | repeats _ _ body _ => 4 * body.size + 2
  | skips | skipsOne _ => 0

/-- The first task, at the first position, is nearer to the end than the second at the second. -/
inductive Nearer (defs : Definitions) (rank : String → Nat) : Task → Nat → Task → Nat → Prop where
  | onward {task' task p' p} : p < p' → Nearer defs rank task' p' task p
  | lower {task' task p} : defs.height rank task'.heads < defs.height rank task.heads →
      Nearer defs rank task' p task p
  | smaller {task' task p} : task'.heads ⊆ task.heads → task'.weight < task.weight →
      Nearer defs rank task' p task p

/-- There is no end to coming nearer but the end. -/
theorem nearer_induction {defs : Definitions} {rank : String → Nat} {size : Nat}
    {holds : Task → Nat → Prop}
    (step : ∀ task p, p ≤ size →
      (∀ task' p', p' ≤ size → Nearer defs rank task' p' task p → holds task' p') → holds task p)
    (task : Task) (p : Nat) (within : p ≤ size) : holds task p :=
  step task p within fun task' p' within' _ => nearer_induction step task' p' within'
termination_by (size - p, defs.height rank task.heads, task.weight)
decreasing_by
  rename_i nearer
  cases nearer with
  | onward less => exact .left _ _ (by omega)
  | lower less => exact .right _ (.left _ _ less)
  | smaller subset less =>
    rcases Nat.lt_or_eq_of_le (Definitions.height_mono subset) with lower | same
    · exact .right _ (.left _ _ lower)
    · rw [same]
      exact .right _ (.right _ less)

end Task

/-! ## Everything comes out -/

/-- Reading the task comes out in some way. Skipping, which is another matter, is left out. -/
def Comes (env : Env) (ignore : List Expr) (v : Bool) (task : Task) (p : Nat) : Prop :=
  match task with
  | .skips | .skipsOne _ => True
  | task => ∃ o, Reads env ignore v task p o

section Total

variable {env : Env} {ignore : List Expr} {v : Bool} {rank : String → Nat} {p : Nat}
  (within : p ≤ env.source.size)

/-- All that is nearer to the end comes out. -/
def NearerCome (env : Env) (ignore : List Expr) (v : Bool) (rank : String → Nat) (task : Task)
    (p : Nat) : Prop :=
  ∀ task' p', p' ≤ env.source.size → Task.Nearer env.definitions rank task' p' task p →
    Comes env ignore v task' p'

include within

/-- A part with the heads of the whole comes out where the whole stands. -/
theorem comes_part {e body : Expr} (nearerCome : NearerCome env ignore v rank (.bare e) p)
    (heads : body.heads ⊆ e.heads) (size : e.size = body.size + 1) :
    ∃ o, Reads env ignore v (.whole body) p o := by
  refine nearerCome (.whole body) p within (.smaller heads ?_)
  rw [Task.weight, Task.weight, size]
  omega

theorem items_come {es : List Expr} (nearerCome : NearerCome env ignore v rank (.items es) p) :
    ∃ o, Reads env ignore v (.items es) p o := by
  cases es with
  | nil => exact ⟨_, .itemsNil⟩
  | cons e rest =>
    have nearerHead : Task.Nearer env.definitions rank (.whole e) p (.items (e :: rest)) p := by
      apply Task.Nearer.smaller (List.subset_append_left _ _)
      simp only [Task.weight, Expr.sizeAll]
      omega
    obtain ⟨o, head⟩ : ∃ o, Reads env ignore v (.whole e) p o :=
      nearerCome (.whole e) p within nearerHead
    cases o with
    | upTo q =>
      have nearerTail :
          Task.Nearer env.definitions rank (.items rest) q (.items (e :: rest)) p := by
        rcases Nat.lt_or_eq_of_le (show p ≤ q from head.notBefore) with less | rfl
        · exact .onward less
        -- The head has read nothing, so the names behind it count as heads of the sequence, too.
        · have empty : e.consumes = false := by
            cases consumes : e.consumes with
            | false => rfl
            | true => exact absurd (head.onward consumes) (Nat.lt_irrefl p)
          apply Task.Nearer.smaller
          · rw [Task.heads, Task.heads, Expr.headsInOrder, empty, if_neg Bool.false_ne_true]
            exact List.subset_append_right _ _
          · have positive := e.size_pos
            simp only [Task.weight, Expr.sizeAll]
            omega
      obtain ⟨o, tail⟩ : ∃ o, Reads env ignore v (.items rest) q o :=
        nearerCome (.items rest) q (head.within within) nearerTail
      exact ⟨o, .itemsCons head tail⟩
    | mismatch => exact ⟨_, .itemsMismatch head⟩
    | fault broken => exact ⟨_, .itemsFault head⟩

theorem alternatives_come {es : List Expr}
    (nearerCome : NearerCome env ignore v rank (.alternatives es) p) :
    ∃ o, Reads env ignore v (.alternatives es) p o := by
  cases es with
  | nil => exact ⟨_, .alternativesNil⟩
  | cons e rest =>
    have positive := e.size_pos
    have nearerHead :
        Task.Nearer env.definitions rank (.whole e) p (.alternatives (e :: rest)) p := by
      apply Task.Nearer.smaller (List.subset_append_left _ _)
      simp only [Task.weight, Expr.sizeAll]
      omega
    have nearerTail :
        Task.Nearer env.definitions rank (.alternatives rest) p (.alternatives (e :: rest)) p := by
      apply Task.Nearer.smaller (List.subset_append_right _ _)
      simp only [Task.weight, Expr.sizeAll]
      omega
    obtain ⟨o, head⟩ : ∃ o, Reads env ignore v (.whole e) p o :=
      nearerCome (.whole e) p within nearerHead
    cases o with
    | upTo q => exact ⟨_, .alternativesHere head⟩
    | mismatch =>
      obtain ⟨o, tail⟩ : ∃ o, Reads env ignore v (.alternatives rest) p o :=
        nearerCome (.alternatives rest) p within nearerTail
      exact ⟨o, .alternativesNext head tail⟩
    | fault broken => exact ⟨_, .alternativesFault head⟩

theorem repeats_come {min max : Nat} {body : Expr} {count : Nat}
    (nearerCome : NearerCome env ignore v rank (.repeats min max body count) p) :
    ∃ o, Reads env ignore v (.repeats min max body count) p o := by
  by_cases full : 0 < max ∧ max ≤ count
  · exact ⟨_, .repeatsFull full⟩
  · have nearerBody :
        Task.Nearer env.definitions rank (.whole body) p (.repeats min max body count) p :=
      .smaller (List.Subset.refl _) (Nat.lt_succ_self _)
    obtain ⟨o, inner⟩ : ∃ o, Reads env ignore v (.whole body) p o :=
      nearerCome (.whole body) p within nearerBody
    cases o with
    | upTo q =>
      by_cases still : q = p
      · subst still
        exact ⟨_, .repeatsStill full inner⟩
      · have less : p < q := Nat.lt_of_le_of_ne inner.notBefore (Ne.symm still)
        obtain ⟨o, tail⟩ : ∃ o, Reads env ignore v (.repeats min max body (count + 1)) q o :=
          nearerCome (.repeats min max body (count + 1)) q (inner.within within) (.onward less)
        exact ⟨o, .repeatsMore full inner still tail⟩
    | mismatch =>
      by_cases enough : min ≤ count
      · exact ⟨_, .repeatsEnough full inner enough⟩
      · exact ⟨_, .repeatsShort full inner (Nat.lt_of_not_le enough)⟩
    | fault broken => exact ⟨_, .repeatsFault full inner⟩

/-- Whatever an expression says comes out, if names are ranked, and if what is read with skipping off
comes out where skipping is on. -/
theorem bare_comes (ranked : env.definitions.Ranked rank)
    (verbatimComes : v = false → ∀ e, ∃ o, Reads env ignore true (.whole e) p o) {e : Expr}
    (nearerCome : NearerCome env ignore v rank (.bare e) p) :
    ∃ o, Reads env ignore v (.bare e) p o := by
  have part (body : Expr) (heads : body.heads ⊆ e.heads) (size : e.size = body.size + 1) :
      ∃ o, Reads env ignore v (.whole body) p o := comes_part within nearerCome heads size
  cases e with
  | seq items =>
    have nearer : Task.Nearer env.definitions rank (.items items) p (.bare (.seq items)) p := by
      refine .smaller (List.Subset.refl _) ?_
      simp only [Task.weight, Expr.size]
      omega
    obtain ⟨o, reads⟩ : ∃ o, Reads env ignore v (.items items) p o := nearerCome _ p within nearer
    exact ⟨o, .seq reads⟩
  | choice alternatives =>
    have nearer : Task.Nearer env.definitions rank (.alternatives alternatives) p
        (.bare (.choice alternatives)) p := by
      refine .smaller (List.Subset.refl _) ?_
      simp only [Task.weight, Expr.size]
      omega
    obtain ⟨o, reads⟩ : ∃ o, Reads env ignore v (.alternatives alternatives) p o :=
      nearerCome _ p within nearer
    exact ⟨o, .choice reads⟩
  | optional body =>
    obtain ⟨o, reads⟩ := part body (List.Subset.refl _) rfl
    cases o with
    | upTo q => exact ⟨_, .optionalHere reads⟩
    | mismatch => exact ⟨_, .optionalNone reads⟩
    | fault broken => exact ⟨_, .optionalFault reads⟩
  | rep min max body =>
    cases bounds : (Expr.rep min max body).boundsFault? with
    | some why => exact ⟨_, .illBounded bounds⟩
    | none =>
      have nearer : Task.Nearer env.definitions rank (.repeats min max body 0) p
          (.bare (.rep min max body)) p := by
        refine .smaller (List.Subset.refl _) ?_
        simp only [Task.weight, Expr.size]
        omega
      obtain ⟨o, reads⟩ : ∃ o, Reads env ignore v (.repeats min max body 0) p o :=
        nearerCome _ p within nearer
      exact ⟨o, .rep bounds reads⟩
  | not body =>
    obtain ⟨o, reads⟩ := part body (List.Subset.refl _) rfl
    cases o with
    | upTo q => exact ⟨_, .notHere reads⟩
    | mismatch => exact ⟨_, .notNone reads⟩
    | fault broken => exact ⟨_, .notFault reads⟩
  | peek body =>
    obtain ⟨o, reads⟩ := part body (List.Subset.refl _) rfl
    cases o with
    | upTo q => exact ⟨_, .peekHere reads⟩
    | mismatch => exact ⟨_, .peekNone reads⟩
    | fault broken => exact ⟨_, .peekFault reads⟩
  | anyBut body =>
    obtain ⟨o, reads⟩ := part body (List.Subset.refl _) rfl
    cases o with
    | upTo q => exact ⟨_, .anyButHere reads⟩
    | mismatch => exact ⟨_, .anyButNone reads (.primitive rfl rfl)⟩
    | fault broken => exact ⟨_, .anyButFault reads⟩
  | capture name body =>
    obtain ⟨o, reads⟩ := part body (List.Subset.refl _) rfl
    exact ⟨o, .capture reads⟩
  | ref name =>
    cases found : env.definitions.find? name with
    | some target =>
      obtain ⟨o, reads⟩ : ∃ o, Reads env ignore v (.whole target) p o :=
        nearerCome (.whole target) p within (.lower (ranked.height_lt found))
      exact ⟨o, .ref found reads⟩
    | none => exact ⟨_, .refUndefined found⟩
  | verbatim body =>
    cases v with
    | true =>
      obtain ⟨o, reads⟩ := part body (List.Subset.refl _) rfl
      exact ⟨o, .verbatim reads⟩
    | false =>
      obtain ⟨o, reads⟩ := verbatimComes rfl body
      exact ⟨o, .verbatim reads⟩
  | range low high =>
    cases bounds : (Expr.range low high).boundsFault? with
    | some why => exact ⟨_, .illBounded bounds⟩
    | none => exact ⟨_, .primitive rfl bounds⟩
  | char c => exact ⟨_, .primitive rfl rfl⟩
  | literal text => exact ⟨_, .primitive rfl rfl⟩
  | any => exact ⟨_, .primitive rfl rfl⟩
  | eof => exact ⟨_, .primitive rfl rfl⟩
  | eol => exact ⟨_, .primitive rfl rfl⟩
  | space => exact ⟨_, .primitive rfl rfl⟩

end Total

/-- An expression comes out where skipping in front of it does. -/
theorem whole_comes {env : Env} {ignore : List Expr} {v : Bool} {rank : String → Nat} {p : Nat}
    (within : p ≤ env.source.size)
    (skipsCome : v = false → (∃ q, Reads env ignore false .skips p (.upTo q)) ∨
      ∃ broken, Reads env ignore false .skips p (.fault broken)) {e : Expr}
    (nearerCome : NearerCome env ignore v rank (.whole e) p) :
    ∃ o, Reads env ignore v (.whole e) p o := by
  cases v with
  | true =>
    obtain ⟨o, bare⟩ : ∃ o, Reads env ignore true (.bare e) p o :=
      nearerCome (.bare e) p within (.smaller (List.Subset.refl _) (Nat.lt_succ_self _))
    exact ⟨o, .wholeVerbatim bare⟩
  | false =>
    rcases skipsCome rfl with ⟨q, skips⟩ | ⟨broken, skips⟩
    · have nearer : Task.Nearer env.definitions rank (.bare e) q (.whole e) p := by
        rcases Nat.lt_or_eq_of_le (show p ≤ q from skips.notBefore) with less | rfl
        · exact .onward less
        · exact .smaller (List.Subset.refl _) (Nat.lt_succ_self _)
      obtain ⟨o, bare⟩ : ∃ o, Reads env ignore false (.bare e) q o :=
        nearerCome (.bare e) q (skips.within within) nearer
      exact ⟨o, .whole skips bare⟩
    · exact ⟨_, .wholeFault skips⟩

section Ranked

variable {env : Env} {ignore : List Expr} {rank : String → Nat}
  (ranked : env.definitions.Ranked rank)
include ranked

/-- With ranked names everything comes out, if skipping does and what is read with skipping off. -/
theorem comes {v : Bool}
    (skipsCome : v = false → ∀ p, p ≤ env.source.size →
      (∃ q, Reads env ignore false .skips p (.upTo q)) ∨
        ∃ broken, Reads env ignore false .skips p (.fault broken))
    (verbatimComes : v = false → ∀ p, p ≤ env.source.size → ∀ e,
      ∃ o, Reads env ignore true (.whole e) p o)
    (task : Task) {p : Nat} (within : p ≤ env.source.size) : Comes env ignore v task p := by
  have step (task : Task) (p : Nat) (within : p ≤ env.source.size)
      (nearerCome : NearerCome env ignore v rank task p) : Comes env ignore v task p := by
    cases task with
    | whole e => exact whole_comes within (fun on => skipsCome on p within) nearerCome
    | bare e =>
      exact bare_comes within ranked (fun on => verbatimComes on p within) nearerCome
    | items es => exact items_come within nearerCome
    | alternatives es => exact alternatives_come within nearerCome
    | repeats min max body count => exact repeats_come within nearerCome
    | skips => trivial
    | skipsOne es => trivial
  exact Task.nearer_induction step task p within

/-- With skipping off everything comes out. -/
theorem verbatim_comes (ignore : List Expr) (e : Expr) {p : Nat} (within : p ≤ env.source.size) :
    ∃ o, Reads env ignore true (.whole e) p o := by
  have whole : Comes env ignore true (.whole e) p :=
    comes ranked (fun on => by cases on) (fun on => by cases on) (.whole e) within
  exact whole

theorem skipsOne_come (es : List Expr) {p : Nat} (within : p ≤ env.source.size) :
    ∃ o, Reads env ignore false (.skipsOne es) p o := by
  induction es with
  | nil => exact ⟨_, .skipsOneNil⟩
  | cons e rest ih =>
    obtain ⟨o, others⟩ := ih
    obtain ⟨o', reads⟩ := verbatim_comes ranked ignore e within
    cases o' with
    | upTo q =>
      rcases Nat.lt_or_eq_of_le (show p ≤ q from reads.notBefore) with less | rfl
      · exact ⟨_, .skipsOneHere reads less⟩
      · exact ⟨o, .skipsOneEmpty reads others⟩
    | mismatch => exact ⟨o, .skipsOneNext reads others⟩
    | fault broken => exact ⟨_, .skipsOneFault reads⟩

/-- Skipping comes to an end: each expression skipped leaves less text. -/
theorem skips_come {p : Nat} (within : p ≤ env.source.size) :
    (∃ q, Reads env ignore false .skips p (.upTo q)) ∨
      ∃ broken, Reads env ignore false .skips p (.fault broken) := by
  obtain ⟨o, one⟩ : ∃ o, Reads env ignore false (.skipsOne ignore) p o :=
    skipsOne_come ranked ignore within
  cases o with
  | upTo q =>
    have less : p < q := one.onward rfl
    rcases skips_come (one.within within) with ⟨stop, more⟩ | ⟨broken, more⟩
    · exact Or.inl ⟨stop, .skipsMore one more⟩
    · exact Or.inr ⟨broken, .skipsMore one more⟩
  | mismatch => exact Or.inl ⟨p, .skipsEnd one⟩
  | fault broken => exact Or.inr ⟨broken, .skipsFault one⟩
termination_by env.source.size - p
decreasing_by
  have stays := one.within within
  omega

/-- With ranked names everything comes out, whether skipping is off or on. -/
theorem everything_comes (v : Bool) (task : Task) {p : Nat} (within : p ≤ env.source.size) :
    Comes env ignore v task p :=
  comes ranked (fun _ _ here => skips_come ranked here)
    (fun _ _ here e => verbatim_comes ranked ignore e here) task within

end Ranked

/-! ## Sessions -/

namespace Session

variable {α : Type} {session : Session} (marks : session.cursor.Marks session.source)
  {rank : String → Nat} (ranked : session.definitions.Ranked rank) (e : Expr)

theorem reply?_isSome {r : Run α} (ended : r ≠ .exhausted) : (session.reply? r).isSome = true := by
  cases r with
  | done a s => rfl
  | failed failure s => rfl
  | exhausted => exact absurd rfl ended

include marks ranked

theorem run_ne_exhausted (builder : Builder α) {budget : Nat} (enough : session.budget e ≤ budget) :
    run budget builder session.toEnv e session.state ≠ .exhausted := by
  have fits := session.state_fits marks
  obtain ⟨o, reads⟩ : ∃ o, session.Reads (.whole e) o :=
    everything_comes ranked session.skipping.verbatim (.whole e) marks.within
  obtain ⟨level, came⟩ := (exists_run_iff fits builder e).mpr reads
  have ended := ne_exhausted_of_outcome? came
  rw [← session.run_budget e marks builder ended] at ended
  rw [run_mono enough ended]
  exact ended

theorem runToEnd_ne_exhausted (builder : Builder α) {budget : Nat}
    (enough : session.budget e ≤ budget) :
    runToEnd budget builder session.toEnv e session.state ≠ .exhausted := by
  have fits := session.state_fits marks
  obtain ⟨o, reads⟩ : ∃ o, session.Reads (.items [e, .eof]) o :=
    everything_comes ranked session.skipping.verbatim (.items [e, .eof]) marks.within
  obtain ⟨level, came⟩ := exists_runToEnd fits builder reads
  have ended := ne_exhausted_of_outcome? came
  rw [← session.runToEnd_budget e marks builder ended] at ended
  rw [runToEnd_mono enough ended]
  exact ended

end Session

/-- Where names are ranked every match ends, whatever is matched and whatever may be skipped: with the
budget that a session gives it, and with any larger one, each of the four answers. -/
theorem matches_end (session : Session) (marks : session.cursor.Marks session.source)
    (rank : String → Nat) (ranked : session.definitions.Ranked rank) (e : Expr) (budget : Nat)
    (enough : session.budget e ≤ budget) :
    (session.recognizeWithin budget e).isSome = true ∧
    (session.recognizeAllWithin budget e).isSome = true ∧
    (session.parseWithin budget e).isSome = true ∧
    (session.parseAllWithin budget e).isSome = true := by
  refine ⟨?_, ?_, ?_, ?_⟩
  · rw [session.recognizeWithin_eq]
    exact Session.reply?_isSome (Session.run_ne_exhausted marks ranked e .recognizer enough)
  · rw [session.recognizeAllWithin_eq]
    exact Session.reply?_isSome (Session.runToEnd_ne_exhausted marks ranked e .recognizer enough)
  · rw [session.parseWithin_eq]
    exact Session.reply?_isSome (Session.run_ne_exhausted marks ranked e .tree enough)
  · rw [session.parseAllWithin_eq]
    exact Session.reply?_isSome (Session.runToEnd_ne_exhausted marks ranked e .tree enough)

/-- A session whose one definition meets its own name behind a character. -/
def Session.sampleRecursive : Session where
  source := #['0', '0', '1']
  definitions := ⟨[("bits", .choice [.seq [.char '0', .ref "bits"], .literal "1"])],
    List.pairwise_singleton _ _⟩
  skipping := ⟨[.optional .space], false⟩
  cursor := .start #['0', '0', '1']

theorem sampleRecursive_ends :
    (Session.sampleRecursive.parse (.star (.ref "bits"))).isSome = true := by
  have marks : Session.sampleRecursive.cursor.Marks Session.sampleRecursive.source :=
    Cursor.start_marks _
  have ranked : Session.sampleRecursive.definitions.Ranked fun _ => 0 := by
    intro name target head inner found mem _
    have defined := Definitions.mem_exprs_of_find? found
    rw [Definitions.exprs, Session.sampleRecursive, List.map_cons, List.map_nil,
      List.mem_singleton] at defined
    subst defined
    cases mem
  exact (matches_end Session.sampleRecursive marks _ ranked _ _ (Nat.le_refl _)).2.2.1

end PegEngine
