import PegEngine.Proofs.Harvest
import PegEngine.Proofs.ReadingComplete
import PegEngine.Proofs.Termination

/-! Gathering. A successful reading enters captures, one inside or after the other, and leaves a harvest
of them behind; attempts that were given up, lookahead and what was skipped leave nothing. The relation
tells what is gathered beside how far is read, again without an engine. Whatever gathers also reads, and
from one place only one harvest is gathered. -/
namespace PegEngine

/-- There is something to read from this position up to that one, when skipping is off or on, and the
harvest is gathered on the way. -/
inductive Gathers (env : Env) (ignore : List Expr) : Bool → Task → Nat → Nat → Harvest → Prop where
  -- An expression, with what is skipped in front of it.
  | wholeVerbatim {e p q h} : Gathers env ignore true (.bare e) p q h →
      Gathers env ignore true (.whole e) p q h
  | whole {e p q r h} : Reads env ignore false .skips p (.upTo q) →
      Gathers env ignore false (.bare e) q r h → Gathers env ignore false (.whole e) p r h
  -- Characters and lookahead.
  | nothing {v e p q} : e.canCapture = false → Reads env ignore v (.bare e) p (.upTo q) →
      Gathers env ignore v (.bare e) p q (.group [])
  -- All items contribute, in their order.
  | seq {v es p q h} : Gathers env ignore v (.items es) p q h →
      Gathers env ignore v (.bare (.seq es)) p q h
  | itemsNil {v p} : Gathers env ignore v (.items []) p p (.group [])
  | itemsCons {v e rest p q r h hs} : Gathers env ignore v (.whole e) p q h →
      Gathers env ignore v (.items rest) q r (.group hs) →
      Gathers env ignore v (.items (e :: rest)) p r (.group (h :: hs))
  -- Only the alternative that matches contributes.
  | choice {v es p q h} : Gathers env ignore v (.alternatives es) p q h →
      Gathers env ignore v (.bare (.choice es)) p q h
  | alternativesHere {v e rest p q h} : Gathers env ignore v (.whole e) p q h →
      Gathers env ignore v (.alternatives (e :: rest)) p q h
  | alternativesNext {v e rest p q h} : Reads env ignore v (.whole e) p .mismatch →
      Gathers env ignore v (.alternatives rest) p q h →
      Gathers env ignore v (.alternatives (e :: rest)) p q h
  | optionalHere {v body p q h} : Gathers env ignore v (.whole body) p q h →
      Gathers env ignore v (.bare (.optional body)) p q h
  | optionalNone {v body p} : Reads env ignore v (.whole body) p .mismatch →
      Gathers env ignore v (.bare (.optional body)) p p (.group [])
  -- All iterations that match contribute, in their order.
  | rep {v min max body p q h} : (Expr.rep min max body).boundsFault? = none →
      Gathers env ignore v (.repeats min max body 0) p q h →
      Gathers env ignore v (.bare (.rep min max body)) p q h
  | repeatsFull {v min max body count p} : 0 < max ∧ max ≤ count →
      Gathers env ignore v (.repeats min max body count) p p (.group [])
  | repeatsStill {v min max body count p h} : ¬(0 < max ∧ max ≤ count) →
      Gathers env ignore v (.whole body) p p h →
      Gathers env ignore v (.repeats min max body count) p p (.group [h])
  | repeatsMore {v min max body count p q r h hs} : ¬(0 < max ∧ max ≤ count) →
      Gathers env ignore v (.whole body) p q h → q ≠ p →
      Gathers env ignore v (.repeats min max body (count + 1)) q r (.group hs) →
      Gathers env ignore v (.repeats min max body count) p r (.group (h :: hs))
  | repeatsEnough {v min max body count p} : ¬(0 < max ∧ max ≤ count) →
      Reads env ignore v (.whole body) p .mismatch → min ≤ count →
      Gathers env ignore v (.repeats min max body count) p p (.group [])
  -- A capture is entered in front of all that is inside it.
  | capture {v name body p q h} : Gathers env ignore v (.whole body) p q h →
      Gathers env ignore v (.bare (.capture name body)) p q
        (.capture ⟨name, body, v, ⟨p, q⟩⟩ h)
  | ref {v name target p q h} : env.definitions.find? name = some target →
      Gathers env ignore v (.whole target) p q h → Gathers env ignore v (.bare (.ref name)) p q h
  | verbatim {v body p q h} : Gathers env ignore true (.whole body) p q h →
      Gathers env ignore v (.bare (.verbatim body)) p q h

/-- From one place there is only one outcome: it is that of a run with enough budget. -/
theorem Reads.unique {env : Env} {ignore : List Expr} {v : Bool} {task : Task} {p : Nat}
    {o o' : Outcome} (within : p ≤ env.source.size) (reads : Reads env ignore v task p o)
    (reads' : Reads env ignore v task p o') : o = o' := by
  obtain ⟨least, attains⟩ := reads.attained.and reads'.attained
  obtain ⟨first, second⟩ := attains least least (Nat.le_refl _) (Nat.le_refl _)
  have here (v : Bool) : (State.sample env ignore v p).At env ignore v p :=
    ⟨sample_fits v within, rfl⟩
  cases task with
  | whole e =>
    have one := first _ .recognizer _ (here v)
    exact Option.some.inj (one.symm.trans (second _ .recognizer _ (here v)))
  | bare e =>
    have one := first _ .recognizer _ (here v)
    exact Option.some.inj (one.symm.trans (second _ .recognizer _ (here v)))
  | items es =>
    have one := first _ .recognizer .eof (.start #[]) [] _ (here v)
    exact Option.some.inj (one.symm.trans (second _ .recognizer .eof (.start #[]) [] _ (here v)))
  | alternatives es =>
    have one := first _ .recognizer .eof (.start #[]) none _ (here v)
    exact Option.some.inj (one.symm.trans (second _ .recognizer .eof (.start #[]) none _ (here v)))
  | repeats min max body count =>
    have one := first _ .recognizer .eof (.start #[]) [] _ (here v)
    exact Option.some.inj (one.symm.trans (second _ .recognizer .eof (.start #[]) [] _ (here v)))
  | skips =>
    have one := first _ (here true)
    exact Option.some.inj (one.symm.trans (second _ (here true)))
  | skipsOne es =>
    have one := first _ (here true)
    exact Option.some.inj (one.symm.trans (second _ (here true)))

namespace Gathers

variable {env : Env} {ignore : List Expr} {v : Bool} {task : Task} {p q : Nat} {h : Harvest}

/-- Where something is gathered, there is something to read. -/
theorem reads (gathers : Gathers env ignore v task p q h) :
    Reads env ignore v task p (.upTo q) := by
  induction gathers with
  | wholeVerbatim _ ih => exact .wholeVerbatim ih
  | whole skips _ ih => exact .whole skips ih
  | nothing _ reads => exact reads
  | seq _ ih => exact .seq ih
  | itemsNil => exact .itemsNil
  | itemsCons _ _ ihHead ih => exact .itemsCons ihHead ih
  | choice _ ih => exact .choice ih
  | alternativesHere _ ih => exact .alternativesHere ih
  | alternativesNext reads _ ih => exact .alternativesNext reads ih
  | optionalHere _ ih => exact .optionalHere ih
  | optionalNone reads => exact .optionalNone reads
  | rep bounded _ ih => exact .rep bounded ih
  | repeatsFull full => exact .repeatsFull full
  | repeatsStill notFull _ ih => exact .repeatsStill notFull ih
  | repeatsMore notFull _ further _ ihBody ih => exact .repeatsMore notFull ihBody further ih
  | repeatsEnough notFull reads enough => exact .repeatsEnough notFull reads enough
  | capture _ ih => exact .capture ih
  | ref found _ ih => exact .ref found ih
  | verbatim _ ih => exact .verbatim ih

theorem notBefore (gathers : Gathers env ignore v task p q h) : p ≤ q :=
  gathers.reads.notBefore

theorem within (gathers : Gathers env ignore v task p q h) (here : p ≤ env.source.size) :
    q ≤ env.source.size :=
  gathers.reads.within here

/-- Gathering the task from one place ends at one place only. -/
theorem stop_unique {q' : Nat} {h' : Harvest} (here : p ≤ env.source.size)
    (gathers : Gathers env ignore v task p q h) (gathers' : Gathers env ignore v task p q' h') :
    q = q' :=
  Outcome.upTo.inj (Reads.unique here gathers.reads gathers'.reads)

theorem not_mismatch (here : p ≤ env.source.size) (gathers : Gathers env ignore v task p q h)
    (reads : Reads env ignore v task p .mismatch) : False :=
  Outcome.noConfusion (Reads.unique here gathers.reads reads)

/-- From one place only one harvest is gathered. -/
theorem unique {q' : Nat} {h' : Harvest} (here : p ≤ env.source.size)
    (gathers : Gathers env ignore v task p q h) (gathers' : Gathers env ignore v task p q' h') :
    h = h' := by
  induction gathers generalizing q' h' with
  | wholeVerbatim _ ih =>
    cases gathers' with
    | wholeVerbatim inner' => exact ih here inner'
  | whole skips _ ih =>
    cases gathers' with
    | whole skips' inner' =>
      cases Reads.unique here skips skips'
      exact ih (skips.within here) inner'
  | nothing cannot _ =>
    cases gathers' with
    | nothing _ _ => rfl
    | _ => cases cannot
  | seq _ ih =>
    cases gathers' with
    | nothing cannot _ => cases cannot
    | seq inner' => exact ih here inner'
  | itemsNil =>
    cases gathers' with
    | itemsNil => rfl
  | itemsCons head _ ihHead ih =>
    cases gathers' with
    | itemsCons head' tail' =>
      cases stop_unique here head head'
      cases ihHead here head'
      cases ih (head.within here) tail'
      rfl
  | choice _ ih =>
    cases gathers' with
    | nothing cannot _ => cases cannot
    | choice inner' => exact ih here inner'
  | alternativesHere inner ih =>
    cases gathers' with
    | alternativesHere inner' => exact ih here inner'
    | alternativesNext reads' _ => exact (inner.not_mismatch here reads').elim
  | alternativesNext reads _ ih =>
    cases gathers' with
    | alternativesHere inner' => exact (inner'.not_mismatch here reads).elim
    | alternativesNext _ inner' => exact ih here inner'
  | optionalHere inner ih =>
    cases gathers' with
    | nothing cannot _ => cases cannot
    | optionalHere inner' => exact ih here inner'
    | optionalNone reads' => exact (inner.not_mismatch here reads').elim
  | optionalNone reads =>
    cases gathers' with
    | nothing cannot _ => cases cannot
    | optionalHere inner' => exact (inner'.not_mismatch here reads).elim
    | optionalNone _ => rfl
  | rep _ _ ih =>
    cases gathers' with
    | nothing cannot _ => cases cannot
    | rep _ inner' => exact ih here inner'
  | repeatsFull full =>
    cases gathers' with
    | repeatsFull _ => rfl
    | repeatsStill notFull' _ => exact absurd full notFull'
    | repeatsMore notFull' _ _ _ => exact absurd full notFull'
    | repeatsEnough notFull' _ _ => exact absurd full notFull'
  | repeatsStill notFull inner ih =>
    cases gathers' with
    | repeatsFull full' => exact absurd full' notFull
    | repeatsStill _ inner' =>
      cases ih here inner'
      rfl
    | repeatsMore _ inner' further' _ =>
      exact absurd (stop_unique here inner' inner) further'
    | repeatsEnough _ reads' _ => exact (inner.not_mismatch here reads').elim
  | repeatsMore notFull inner further _ ihBody ih =>
    cases gathers' with
    | repeatsFull full' => exact absurd full' notFull
    | repeatsStill _ inner' => exact absurd (stop_unique here inner inner') further
    | repeatsMore _ inner' _ tail' =>
      cases stop_unique here inner inner'
      cases ihBody here inner'
      cases ih (inner.within here) tail'
      rfl
    | repeatsEnough _ reads' _ => exact (inner.not_mismatch here reads').elim
  | repeatsEnough notFull reads _ =>
    cases gathers' with
    | repeatsFull full' => exact absurd full' notFull
    | repeatsStill _ inner' => exact (inner'.not_mismatch here reads).elim
    | repeatsMore _ inner' _ _ => exact (inner'.not_mismatch here reads).elim
    | repeatsEnough _ _ _ => rfl
  | capture inner ih =>
    cases gathers' with
    | nothing cannot _ => cases cannot
    | capture inner' =>
      cases stop_unique here inner inner'
      cases ih here inner'
      rfl
  | ref found _ ih =>
    cases gathers' with
    | nothing cannot _ => cases cannot
    | ref found' inner' =>
      cases found.symm.trans found'
      exact ih here inner'
  | verbatim _ ih =>
    cases gathers' with
    | nothing cannot _ => cases cannot
    | verbatim inner' => exact ih here inner'

end Gathers

end PegEngine
