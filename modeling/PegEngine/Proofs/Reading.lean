import PegEngine.Proofs.Marks

/-! Reading. What a parsing expression reads, without an engine: a relation between a place in the
text and an outcome, in which nothing is changed and nothing has to be put back. Its only inputs are
the source, the definitions, what may be skipped and whether skipping is off. -/
namespace PegEngine

/-- How reading something from a place comes out. -/
inductive Outcome where
  /-- It reads the text up to a position. -/
  | upTo (stop : Nat)
  | mismatch
  | fault (fault : Fault)
  deriving DecidableEq, Repr

namespace Outcome

/-- The outcome of reading so many characters from a position, or of not matching. -/
def ofExtent? (position : Nat) : Option Nat → Outcome
  | some extent => upTo (position + extent)
  | none => mismatch

/-- If a position is reached, then one that stands in this relation to where reading began. -/
def Along (related : Nat → Nat → Prop) (position : Nat) : Outcome → Prop
  | upTo stop => related position stop
  | mismatch | fault _ => True

theorem Along.imp {related related' : Nat → Nat → Prop} {p q : Nat} {o : Outcome}
    (along : o.Along related q) (implies : ∀ stop, related q stop → related' p stop) :
    o.Along related' p := by
  cases o with
  | upTo stop => exact implies stop along
  | mismatch => trivial
  | fault broken => trivial

end Outcome

namespace Expr

/-- Whether an expression looks at characters only. -/
def isPrimitive : Expr → Bool
  | char _ | literal _ | any | range _ _ | eof | eol | space => true
  | seq _ | choice _ | optional _ | rep _ _ _ | not _ | peek _ | capture _ _ | anyBut _ | ref _
  | verbatim _ => false

/-- How many characters one line break takes up at the front of a text, if there is one. -/
def breakExtent? : List Char → Option Nat
  | '\r' :: '\n' :: _ => some 2
  | '\r' :: _ => some 1
  | '\n' :: _ => some 1
  | _ => none

/-- How many characters a primitive expression reads at the front of a text, if it matches. -/
def extent? : Expr → List Char → Option Nat
  | char c, first :: _ => if first = c then some 1 else none
  | literal text, ahead => if text.toList <+: ahead then some text.toList.length else none
  | any, _ :: _ => some 1
  | range low high, first :: _ => if low ≤ first ∧ first ≤ high then some 1 else none
  | eof, [] => some 0
  | eol, ahead => breakExtent? ahead
  | space, ' ' :: _ => some 1
  | space, '\t' :: _ => some 1
  | space, ahead => breakExtent? ahead
  | _, _ => none

end Expr

/-- What can be read from a place. -/
inductive Task where
  /-- An expression, behind what is skipped in front of it. -/
  | whole (e : Expr)
  /-- An expression right here. -/
  | bare (e : Expr)
  /-- All of these, one after the other. -/
  | items (es : List Expr)
  /-- The first of these that matches. -/
  | alternatives (es : List Expr)
  /-- An expression over and over, after `count` times. -/
  | repeats (min max : Nat) (body : Expr) (count : Nat)
  /-- All that may be skipped. -/
  | skips
  /-- The first of these that reads something. -/
  | skipsOne (es : List Expr)

/-- What there is to read comes out this way from this position, when skipping is off or on. -/
inductive Reads (env : Env) (ignore : List Expr) : Bool → Task → Nat → Outcome → Prop where
  -- An expression, with what is skipped in front of it.
  | wholeVerbatim {e p o} : Reads env ignore true (.bare e) p o →
      Reads env ignore true (.whole e) p o
  | whole {e p q o} : Reads env ignore false .skips p (.upTo q) →
      Reads env ignore false (.bare e) q o → Reads env ignore false (.whole e) p o
  | wholeFault {e p f} : Reads env ignore false .skips p (.fault f) →
      Reads env ignore false (.whole e) p (.fault f)
  -- What is skipped. It is itself read with skipping off.
  | skipsMore {p q o} : Reads env ignore false (.skipsOne ignore) p (.upTo q) →
      Reads env ignore false .skips q o → Reads env ignore false .skips p o
  | skipsEnd {p} : Reads env ignore false (.skipsOne ignore) p .mismatch →
      Reads env ignore false .skips p (.upTo p)
  | skipsFault {p f} : Reads env ignore false (.skipsOne ignore) p (.fault f) →
      Reads env ignore false .skips p (.fault f)
  | skipsOneNil {p} : Reads env ignore false (.skipsOne []) p .mismatch
  | skipsOneHere {e rest p q} : Reads env ignore true (.whole e) p (.upTo q) → p < q →
      Reads env ignore false (.skipsOne (e :: rest)) p (.upTo q)
  | skipsOneEmpty {e rest p o} : Reads env ignore true (.whole e) p (.upTo p) →
      Reads env ignore false (.skipsOne rest) p o →
      Reads env ignore false (.skipsOne (e :: rest)) p o
  | skipsOneNext {e rest p o} : Reads env ignore true (.whole e) p .mismatch →
      Reads env ignore false (.skipsOne rest) p o →
      Reads env ignore false (.skipsOne (e :: rest)) p o
  | skipsOneFault {e rest p f} : Reads env ignore true (.whole e) p (.fault f) →
      Reads env ignore false (.skipsOne (e :: rest)) p (.fault f)
  -- Primitives look at the characters ahead.
  | spelled {v e p n} : e.isPrimitive = true → e.boundsFault? = none →
      e.extent? (env.source.ahead p) = some n → Reads env ignore v (.bare e) p (.upTo (p + n))
  | unspelled {v e p} : e.isPrimitive = true → e.boundsFault? = none →
      e.extent? (env.source.ahead p) = none → Reads env ignore v (.bare e) p .mismatch
  | illBounded {v e p why} : e.boundsFault? = some why →
      Reads env ignore v (.bare e) p (.fault (.bounds e why))
  -- Sequences go from left to right.
  | seq {v es p o} : Reads env ignore v (.items es) p o → Reads env ignore v (.bare (.seq es)) p o
  | itemsNil {v p} : Reads env ignore v (.items []) p (.upTo p)
  | itemsCons {v e rest p q o} : Reads env ignore v (.whole e) p (.upTo q) →
      Reads env ignore v (.items rest) q o → Reads env ignore v (.items (e :: rest)) p o
  | itemsMismatch {v e rest p} : Reads env ignore v (.whole e) p .mismatch →
      Reads env ignore v (.items (e :: rest)) p .mismatch
  | itemsFault {v e rest p f} : Reads env ignore v (.whole e) p (.fault f) →
      Reads env ignore v (.items (e :: rest)) p (.fault f)
  -- Choices take the first alternative that does not mismatch.
  | choice {v es p o} : Reads env ignore v (.alternatives es) p o →
      Reads env ignore v (.bare (.choice es)) p o
  | alternativesNil {v p} : Reads env ignore v (.alternatives []) p .mismatch
  | alternativesHere {v e rest p q} : Reads env ignore v (.whole e) p (.upTo q) →
      Reads env ignore v (.alternatives (e :: rest)) p (.upTo q)
  | alternativesNext {v e rest p o} : Reads env ignore v (.whole e) p .mismatch →
      Reads env ignore v (.alternatives rest) p o →
      Reads env ignore v (.alternatives (e :: rest)) p o
  | alternativesFault {v e rest p f} : Reads env ignore v (.whole e) p (.fault f) →
      Reads env ignore v (.alternatives (e :: rest)) p (.fault f)
  -- Options never mismatch.
  | optionalHere {v body p q} : Reads env ignore v (.whole body) p (.upTo q) →
      Reads env ignore v (.bare (.optional body)) p (.upTo q)
  | optionalNone {v body p} : Reads env ignore v (.whole body) p .mismatch →
      Reads env ignore v (.bare (.optional body)) p (.upTo p)
  | optionalFault {v body p f} : Reads env ignore v (.whole body) p (.fault f) →
      Reads env ignore v (.bare (.optional body)) p (.fault f)
  -- Repetitions end at the maximum, at a body that reads nothing, or at a mismatch.
  | rep {v min max body p o} : (Expr.rep min max body).boundsFault? = none →
      Reads env ignore v (.repeats min max body 0) p o →
      Reads env ignore v (.bare (.rep min max body)) p o
  | repeatsFull {v min max body count p} : 0 < max ∧ max ≤ count →
      Reads env ignore v (.repeats min max body count) p (.upTo p)
  | repeatsStill {v min max body count p} : ¬(0 < max ∧ max ≤ count) →
      Reads env ignore v (.whole body) p (.upTo p) →
      Reads env ignore v (.repeats min max body count) p (.upTo p)
  | repeatsMore {v min max body count p q o} : ¬(0 < max ∧ max ≤ count) →
      Reads env ignore v (.whole body) p (.upTo q) → q ≠ p →
      Reads env ignore v (.repeats min max body (count + 1)) q o →
      Reads env ignore v (.repeats min max body count) p o
  | repeatsEnough {v min max body count p} : ¬(0 < max ∧ max ≤ count) →
      Reads env ignore v (.whole body) p .mismatch → min ≤ count →
      Reads env ignore v (.repeats min max body count) p (.upTo p)
  | repeatsShort {v min max body count p} : ¬(0 < max ∧ max ≤ count) →
      Reads env ignore v (.whole body) p .mismatch → count < min →
      Reads env ignore v (.repeats min max body count) p .mismatch
  | repeatsFault {v min max body count p f} : ¬(0 < max ∧ max ≤ count) →
      Reads env ignore v (.whole body) p (.fault f) →
      Reads env ignore v (.repeats min max body count) p (.fault f)
  -- Looking ahead ends where it starts.
  | notHere {v body p q} : Reads env ignore v (.whole body) p (.upTo q) →
      Reads env ignore v (.bare (.not body)) p .mismatch
  | notNone {v body p} : Reads env ignore v (.whole body) p .mismatch →
      Reads env ignore v (.bare (.not body)) p (.upTo p)
  | notFault {v body p f} : Reads env ignore v (.whole body) p (.fault f) →
      Reads env ignore v (.bare (.not body)) p (.fault f)
  | peekHere {v body p q} : Reads env ignore v (.whole body) p (.upTo q) →
      Reads env ignore v (.bare (.peek body)) p (.upTo p)
  | peekNone {v body p} : Reads env ignore v (.whole body) p .mismatch →
      Reads env ignore v (.bare (.peek body)) p .mismatch
  | peekFault {v body p f} : Reads env ignore v (.whole body) p (.fault f) →
      Reads env ignore v (.bare (.peek body)) p (.fault f)
  | anyButHere {v body p q} : Reads env ignore v (.whole body) p (.upTo q) →
      Reads env ignore v (.bare (.anyBut body)) p .mismatch
  | anyButNone {v body p o} : Reads env ignore v (.whole body) p .mismatch →
      Reads env ignore v (.bare .any) p o → Reads env ignore v (.bare (.anyBut body)) p o
  | anyButFault {v body p f} : Reads env ignore v (.whole body) p (.fault f) →
      Reads env ignore v (.bare (.anyBut body)) p (.fault f)
  -- Captures and names stand for what they contain.
  | capture {v name body p o} : Reads env ignore v (.whole body) p o →
      Reads env ignore v (.bare (.capture name body)) p o
  | ref {v name target p o} : env.definitions.find? name = some target →
      Reads env ignore v (.whole target) p o → Reads env ignore v (.bare (.ref name)) p o
  | refUndefined {v name p} : env.definitions.find? name = none →
      Reads env ignore v (.bare (.ref name)) p (.fault (.undefined name))
  | verbatim {v body p o} : Reads env ignore true (.whole body) p o →
      Reads env ignore v (.bare (.verbatim body)) p o

namespace Reads

variable {env : Env} {ignore : List Expr} {v : Bool} {task : Task} {p : Nat} {o : Outcome}

/-- Reading goes from primitive to primitive, so it ends where these lead. -/
theorem along {related : Nat → Nat → Prop} (refl : ∀ p, related p p)
    (trans : ∀ {p q r}, related p q → related q r → related p r)
    (primitive : ∀ {e : Expr} {p n}, e.extent? (env.source.ahead p) = some n → related p (p + n))
    (reads : Reads env ignore v task p o) : o.Along related p := by
  induction reads with
  | wholeVerbatim _ ih => exact ih
  | whole _ _ ihSkips ih => exact ih.imp fun _ => trans ihSkips
  | wholeFault _ _ => trivial
  | skipsMore _ _ ihOne ih => exact ih.imp fun _ => trans ihOne
  | skipsEnd _ _ => exact refl _
  | skipsFault _ _ => trivial
  | skipsOneNil => trivial
  | skipsOneHere _ _ ih => exact ih
  | skipsOneEmpty _ _ _ ih => exact ih
  | skipsOneNext _ _ _ ih => exact ih
  | skipsOneFault _ _ => trivial
  | spelled _ _ extent => exact primitive extent
  | unspelled _ _ _ => trivial
  | illBounded _ => trivial
  | seq _ ih => exact ih
  | itemsNil => exact refl _
  | itemsCons _ _ ihHead ih => exact ih.imp fun _ => trans ihHead
  | itemsMismatch _ _ => trivial
  | itemsFault _ _ => trivial
  | choice _ ih => exact ih
  | alternativesNil => trivial
  | alternativesHere _ ih => exact ih
  | alternativesNext _ _ _ ih => exact ih
  | alternativesFault _ _ => trivial
  | optionalHere _ ih => exact ih
  | optionalNone _ _ => exact refl _
  | optionalFault _ _ => trivial
  | rep _ _ ih => exact ih
  | repeatsFull _ => exact refl _
  | repeatsStill _ _ _ => exact refl _
  | repeatsMore _ _ _ _ ihBody ih => exact ih.imp fun _ => trans ihBody
  | repeatsEnough _ _ _ _ => exact refl _
  | repeatsShort _ _ _ _ => trivial
  | repeatsFault _ _ _ => trivial
  | notHere _ _ => trivial
  | notNone _ _ => exact refl _
  | notFault _ _ => trivial
  | peekHere _ _ => exact refl _
  | peekNone _ _ => trivial
  | peekFault _ _ => trivial
  | anyButHere _ _ => trivial
  | anyButNone _ _ _ ih => exact ih
  | anyButFault _ _ => trivial
  | capture _ ih => exact ih
  | ref _ _ ih => exact ih
  | refUndefined _ => trivial
  | verbatim _ ih => exact ih

/-- Reading never goes back. -/
theorem notBefore (reads : Reads env ignore v task p o) : o.Along (· ≤ ·) p :=
  reads.along Nat.le_refl Nat.le_trans fun _ => Nat.le_add_right _ _

end Reads

end PegEngine
