import PegEngine.Proofs.Marks

/-! Lines of a source. Where lines break is a matter of the characters alone, and so is what a cursor
counts: there is one canonical cursor for every position. A fresh cursor is canonical, and reading on
from a canonical cursor leads to the next. Canonical cursors are told apart by line and column, and
lines and columns order them as positions do. -/
namespace PegEngine

namespace Source

/-- A line ends with the character at this position: with a line feed, or with a carriage return that
no line feed follows. -/
def BreaksAt (source : Source) (position : Nat) : Prop :=
  source[position]? = some '\n' ∨
    source[position]? = some '\r' ∧ source[position + 1]? ≠ some '\n'

instance (source : Source) : DecidablePred source.BreaksAt := fun position =>
  inferInstanceAs (Decidable (source[position]? = some '\n' ∨
    source[position]? = some '\r' ∧ source[position + 1]? ≠ some '\n'))

/-- The positions before this one with which lines end, in ascending order. -/
def breaksBefore (source : Source) (position : Nat) : List Nat :=
  (List.range position).filter (source.BreaksAt ·)

/-- How many lines end before a position. -/
def lineNumber (source : Source) (position : Nat) : Nat :=
  (source.breaksBefore position).length

/-- The position behind the last line that ends before a position, or the start of the source. -/
def lineStart (source : Source) (position : Nat) : Nat :=
  match (source.breaksBefore position).getLast? with
  | some last => last + 1
  | none => 0

variable {source : Source} {p q : Nat}

theorem breaksBefore_succ (source : Source) (p : Nat) :
    source.breaksBefore (p + 1) =
      source.breaksBefore p ++ if source.BreaksAt p then [p] else [] := by
  rw [breaksBefore, breaksBefore, List.range_succ, List.filter_append]
  by_cases breaks : source.BreaksAt p
  · simp [breaks]
  · simp [breaks]

theorem lineNumber_succ_of_breaks (breaks : source.BreaksAt p) :
    source.lineNumber (p + 1) = source.lineNumber p + 1 := by
  simp [lineNumber, breaksBefore_succ, breaks]

theorem lineNumber_succ_of_not_breaks (unbroken : ¬source.BreaksAt p) :
    source.lineNumber (p + 1) = source.lineNumber p := by
  simp [lineNumber, breaksBefore_succ, unbroken]

theorem lineStart_succ_of_breaks (breaks : source.BreaksAt p) :
    source.lineStart (p + 1) = p + 1 := by
  simp [lineStart, breaksBefore_succ, breaks]

theorem lineStart_succ_of_not_breaks (unbroken : ¬source.BreaksAt p) :
    source.lineStart (p + 1) = source.lineStart p := by
  simp [lineStart, breaksBefore_succ, unbroken]

theorem lineStart_le (source : Source) (p : Nat) : source.lineStart p ≤ p := by
  induction p with
  | zero => exact Nat.le_refl 0
  | succ p ih =>
    by_cases breaks : source.BreaksAt p
    · exact Nat.le_of_eq (lineStart_succ_of_breaks breaks)
    · rw [lineStart_succ_of_not_breaks breaks]
      exact Nat.le_succ_of_le ih

theorem lineNumber_mono (le : p ≤ q) : source.lineNumber p ≤ source.lineNumber q := by
  induction le with
  | refl => exact Nat.le_refl _
  | @step q _ ih =>
    by_cases breaks : source.BreaksAt q
    · rw [lineNumber_succ_of_breaks breaks]
      exact Nat.le_succ_of_le ih
    · rwa [lineNumber_succ_of_not_breaks breaks]

/-- Positions on one line have the start of the line in common. -/
theorem lineStart_eq_of_lineNumber_eq (le : p ≤ q)
    (same : source.lineNumber p = source.lineNumber q) :
    source.lineStart p = source.lineStart q := by
  induction le with
  | refl => rfl
  | @step q le ih =>
    have least : source.lineNumber p ≤ source.lineNumber q := lineNumber_mono le
    by_cases breaks : source.BreaksAt q
    · rw [lineNumber_succ_of_breaks breaks] at same
      omega
    · rw [lineNumber_succ_of_not_breaks breaks] at same
      rw [lineStart_succ_of_not_breaks breaks]
      exact ih same

/-- A later position stands on a later line, or on the same line in a later column. -/
theorem place_lt_of_lt (less : p < q) :
    source.lineNumber p < source.lineNumber q ∨
      source.lineNumber p = source.lineNumber q ∧
        p - source.lineStart p < q - source.lineStart q := by
  rcases Nat.lt_or_eq_of_le (lineNumber_mono (Nat.le_of_lt less)) with later | same
  · exact Or.inl later
  · refine Or.inr ⟨same, ?_⟩
    have starts := lineStart_eq_of_lineNumber_eq (Nat.le_of_lt less) same
    have below := source.lineStart_le p
    omega

end Source

/-! ## Canonical cursors -/

namespace Cursor

/-- The cursor of a position: all that it counts is read off the source. -/
def ofPosition (source : Source) (position : Nat) : Cursor where
  character := source[position]?
  position := position
  line := source.lineNumber position
  column := position - source.lineStart position
  lineStart := source.lineStart position

/-- The cursor is that of a position in the source. -/
structure Canonical (source : Source) (cursor : Cursor) : Prop where
  within : cursor.position ≤ source.size
  eq_ofPosition : cursor = ofPosition source cursor.position

variable {source : Source}

theorem start_eq_ofPosition (source : Source) : start source = ofPosition source 0 := rfl

theorem start_canonical (source : Source) : (start source).Canonical source :=
  ⟨Nat.zero_le _, start_eq_ofPosition source⟩

theorem completesBreak_iff {position : Nat} {c : Char} (here : source[position]? = some c) :
    completesBreak c source[position + 1]? = true ↔ source.BreaksAt position := by
  simp [completesBreak, Source.BreaksAt, here]

/-- Reading one character leads from the cursor of a position to that of the next. -/
theorem next_ofPosition {position : Nat} (within : position < source.size) :
    (ofPosition source position).next source = ofPosition source (position + 1) := by
  have here : source[position]? = some source[position] := Array.getElem?_eq_getElem within
  have below := source.lineStart_le position
  rw [next, ofPosition, here]
  dsimp only
  by_cases breaks : source.BreaksAt position
  · rw [if_pos ((completesBreak_iff here).mpr breaks), ofPosition,
      Source.lineNumber_succ_of_breaks breaks, Source.lineStart_succ_of_breaks breaks, Nat.sub_self]
  · rw [if_neg (mt (completesBreak_iff here).mp breaks), ofPosition,
      Source.lineNumber_succ_of_not_breaks breaks, Source.lineStart_succ_of_not_breaks breaks,
      Nat.succ_sub below]

namespace Canonical

variable {c d : Cursor}

theorem next (canonical : c.Canonical source) : (c.next source).Canonical source := by
  cases here : c.character with
  | none =>
    rw [next_eq_self here]
    exact canonical
  | some a =>
    have marked : source[c.position]? = some a := by
      rw [← here, congrArg Cursor.character canonical.eq_ofPosition]
      rfl
    obtain ⟨within, -⟩ := Array.getElem?_eq_some_iff.mp marked
    rw [canonical.eq_ofPosition, next_ofPosition within]
    exact ⟨within, rfl⟩

theorem advance (canonical : c.Canonical source) (count : Nat) :
    (c.advance source count).Canonical source := by
  induction count generalizing c with
  | zero => exact canonical
  | succ count ih =>
    rw [Cursor.advance]
    split
    · exact canonical
    · exact ih canonical.next

/-- A canonical cursor holds no character exactly at the end of the source. -/
theorem character_eq_none_iff (canonical : c.Canonical source) :
    c.character = none ↔ c.position = source.size := by
  have within := canonical.within
  rw [congrArg Cursor.character canonical.eq_ofPosition]
  change source[c.position]? = none ↔ c.position = source.size
  rw [Array.getElem?_eq_none_iff]
  omega

/-- Lines and columns order canonical cursors as positions do. -/
theorem position_lt_iff (cCanonical : c.Canonical source) (dCanonical : d.Canonical source) :
    c.position < d.position ↔ c.line < d.line ∨ c.line = d.line ∧ c.column < d.column := by
  rw [cCanonical.eq_ofPosition, dCanonical.eq_ofPosition]
  simp only [ofPosition]
  constructor
  · exact Source.place_lt_of_lt
  · intro before
    by_contra notLess
    rcases Nat.lt_or_eq_of_le (Nat.le_of_not_lt notLess) with greater | same
    · have after : source.lineNumber d.position < source.lineNumber c.position ∨ _ :=
        Source.place_lt_of_lt greater
      omega
    · rw [same] at before
      omega

/-- No two canonical cursors have line and column in common. -/
theorem eq_of_place_eq (cCanonical : c.Canonical source) (dCanonical : d.Canonical source)
    (line : c.line = d.line) (column : c.column = d.column) : c = d := by
  have notBelow := cCanonical.position_lt_iff dCanonical
  have notAbove := dCanonical.position_lt_iff cCanonical
  have position : c.position = d.position := by omega
  rw [cCanonical.eq_ofPosition, position, ← dCanonical.eq_ofPosition]

end Canonical

end Cursor

end PegEngine
