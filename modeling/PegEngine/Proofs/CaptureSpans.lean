import PegEngine.Proofs.Gathering

/-! Where captures lie. The captures that make the leaves of a tree follow each other in the text, inside
what was read. Each of them spans what its body matched, and if skipping was on when it was entered,
there was nothing left to skip at its start. -/
namespace PegEngine

/-! ## Spans in order -/

namespace Span

/-- The spans lie between the positions one after the other. They may touch, and they may be empty. -/
def InOrder : Nat → List Span → Nat → Prop
  | p, [], q => p ≤ q
  | p, span :: rest, q => p ≤ span.start ∧ span.start ≤ span.stop ∧ InOrder span.stop rest q

namespace InOrder

variable {p q r : Nat} {spans spans' : List Span}

theorem le (inOrder : InOrder p spans q) : p ≤ q := by
  induction spans generalizing p with
  | nil => exact inOrder
  | cons span rest ih =>
    obtain ⟨before, inside, behind⟩ := inOrder
    exact before.trans (inside.trans (ih behind))

theorem from_before (inOrder : InOrder q spans r) (before : p ≤ q) : InOrder p spans r := by
  cases spans with
  | nil => exact before.trans inOrder
  | cons span rest =>
    obtain ⟨first, inside, behind⟩ := inOrder
    exact ⟨before.trans first, inside, behind⟩

theorem append (inOrder : InOrder p spans q) (inOrder' : InOrder q spans' r) :
    InOrder p (spans ++ spans') r := by
  induction spans generalizing p with
  | nil => exact inOrder'.from_before inOrder
  | cons span rest ih =>
    obtain ⟨before, inside, behind⟩ := inOrder
    exact ⟨before, inside, ih behind⟩

end InOrder

end Span

/-- A member in front of a group keeps the order, also if the group takes nothing on of it. -/
theorem Harvest.makers_inOrder_cons {source : Source} {p q r : Nat} {h : Harvest} {hs : List Harvest}
    (first : Span.InOrder p ((h.makers source).map (·.span)) q)
    (rest : Span.InOrder q (((group hs).makers source).map (·.span)) r) :
    Span.InOrder p (((group (h :: hs)).makers source).map (·.span)) r := by
  rw [makers, makersAll, List.map_append]
  refine Span.InOrder.append ?_ rest
  split
  · exact first.le
  · exact first

/-! ## Nothing left to skip -/

/-- Nothing that may be skipped reads anything here. -/
def Rests (env : Env) (ignore : List Expr) (p : Nat) : Prop :=
  ∀ e ∈ ignore, ∀ q, Reads env ignore true (.whole e) p (.upTo q) → q ≤ p

section Rests

variable {env : Env} {ignore : List Expr} {p q : Nat}

/-- Skipping goes on until no attempt comes to anything. -/
theorem Reads.skips_end (reads : Reads env ignore false .skips p (.upTo q)) :
    Reads env ignore false (.skipsOne ignore) q .mismatch := by
  generalize switch : false = v at reads
  generalize task_eq : Task.skips = task at reads
  generalize outcome_eq : Outcome.upTo q = o at reads
  induction reads with
  | skipsMore _ _ _ ih => exact ih switch task_eq outcome_eq
  | skipsEnd none =>
    cases outcome_eq
    exact none
  | skipsFault _ _ => cases outcome_eq
  | _ => cases task_eq

/-- An attempt that comes to nothing has tried all that it could. -/
theorem Reads.skipsOne_none {es : List Expr}
    (reads : Reads env ignore false (.skipsOne es) p .mismatch) :
    ∀ e ∈ es, Reads env ignore true (.whole e) p (.upTo p) ∨
      Reads env ignore true (.whole e) p .mismatch := by
  induction es with
  | nil => exact fun _ => nofun
  | cons first rest ih =>
    rw [List.forall_mem_cons]
    cases reads with
    | skipsOneEmpty empty others => exact ⟨.inl empty, ih others⟩
    | skipsOneNext none others => exact ⟨.inr none, ih others⟩

/-- Where skipping ends, nothing is left to skip. -/
theorem Reads.rests (reads : Reads env ignore false .skips p (.upTo q))
    (here : p ≤ env.source.size) : Rests env ignore q := by
  intro e mem r more
  have there : q ≤ env.source.size := reads.within here
  rcases reads.skips_end.skipsOne_none e mem with empty | none
  · exact Nat.le_of_eq (Outcome.upTo.inj (Reads.unique there more empty))
  · exact Outcome.noConfusion (Reads.unique there more none)

end Rests

/-! ## Captures of a reading -/

namespace Capture

/-- What was captured is what the body matches there, and if skipping was on, it begins where nothing
is left to skip. -/
structure Fits (env : Env) (ignore : List Expr) (entered : Capture) : Prop where
  matched : Reads env ignore entered.verbatim (.whole entered.body) entered.span.start
    (.upTo entered.span.stop)
  rests : entered.verbatim = false → Rests env ignore entered.span.start

end Capture

namespace Gathers

variable {env : Env} {ignore : List Expr} {v : Bool} {task : Task} {p q : Nat} {h : Harvest}

/-- The makers of leaves follow each other between where the reading began and where it ended. -/
theorem makers_inOrder (gathers : Gathers env ignore v task p q h) :
    Span.InOrder p ((h.makers env.source).map (·.span)) q := by
  induction gathers with
  | wholeVerbatim _ ih => exact ih
  | whole skips _ ih => exact ih.from_before skips.notBefore
  | nothing _ reads => exact reads.notBefore
  | seq _ ih => exact ih
  | itemsNil => exact Nat.le_refl _
  | itemsCons _ _ ihHead ih => exact Harvest.makers_inOrder_cons ihHead ih
  | choice _ ih => exact ih
  | alternativesHere _ ih => exact ih
  | alternativesNext _ _ ih => exact ih
  | optionalHere _ ih => exact ih
  | optionalNone _ => exact Nat.le_refl _
  | rep _ _ ih => exact ih
  | repeatsFull _ => exact Nat.le_refl _
  | repeatsStill _ _ ih => exact Harvest.makers_inOrder_cons ih (Nat.le_refl _)
  | repeatsMore _ _ _ _ ihBody ih => exact Harvest.makers_inOrder_cons ihBody ih
  | repeatsEnough _ _ _ => exact Nat.le_refl _
  | capture inner ih =>
    rw [Harvest.makers]
    split
    · exact ⟨Nat.le_refl _, inner.notBefore, Nat.le_refl _⟩
    · exact ih
  | ref _ _ ih => exact ih
  | verbatim _ ih => exact ih

/-- All captures fit. An expression that stands where it is, skipping on, must for that stand where
nothing is left to skip; everything else skips first itself. -/
theorem captures_fit (gathers : Gathers env ignore v task p q h) (here : p ≤ env.source.size)
    (rests : ∀ e, task = .bare e → v = false → Rests env ignore p) :
    ∀ entered ∈ h.captures, entered.Fits env ignore := by
  induction gathers with
  | wholeVerbatim _ ih => exact ih here fun _ _ => nofun
  | whole skips _ ih => exact ih (skips.within here) fun _ _ _ => skips.rests here
  | nothing _ _ => exact fun _ => nofun
  | seq _ ih => exact ih here fun _ => nofun
  | itemsNil => exact fun _ => nofun
  | itemsCons head _ ihHead ih =>
    rw [Harvest.captures, Harvest.capturesAll, List.forall_mem_append]
    exact ⟨ihHead here fun _ => nofun, ih (head.within here) fun _ => nofun⟩
  | choice _ ih => exact ih here fun _ => nofun
  | alternativesHere _ ih => exact ih here fun _ => nofun
  | alternativesNext _ _ ih => exact ih here fun _ => nofun
  | optionalHere _ ih => exact ih here fun _ => nofun
  | optionalNone _ => exact fun _ => nofun
  | rep _ _ ih => exact ih here fun _ => nofun
  | repeatsFull _ => exact fun _ => nofun
  | repeatsStill _ _ ih =>
    rw [Harvest.captures, Harvest.capturesAll, List.forall_mem_append]
    exact ⟨ih here fun _ => nofun, fun _ => nofun⟩
  | repeatsMore _ inner _ _ ihBody ih =>
    rw [Harvest.captures, Harvest.capturesAll, List.forall_mem_append]
    exact ⟨ihBody here fun _ => nofun, ih (inner.within here) fun _ => nofun⟩
  | repeatsEnough _ _ _ => exact fun _ => nofun
  | capture inner ih =>
    rw [Harvest.captures, List.forall_mem_cons]
    exact ⟨⟨inner.reads, rests _ rfl⟩, ih here fun _ => nofun⟩
  | ref _ _ ih => exact ih here fun _ => nofun
  | verbatim _ ih => exact ih here fun _ => nofun

end Gathers

end PegEngine
