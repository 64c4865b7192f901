import PegEngine.Expr.Basic

/-! Definitions of names. The entries are kept in the order of their names, each name once, so two
collections that answer every look-up alike are equal, in whatever order they were made. -/
namespace PegEngine

/-- Expressions by name. -/
structure Definitions where
  entries : List (String × Expr)
  sorted : entries.Pairwise (·.1 < ·.1)

namespace Definitions

def empty : Definitions :=
  ⟨[], .nil⟩

instance : Inhabited Definitions := ⟨empty⟩

/-- The defining expressions, in the order of their names. -/
def exprs (defs : Definitions) : List Expr :=
  defs.entries.map (·.2)

/-- The expression beside a name in a list of entries. -/
def lookup (query : String) : List (String × Expr) → Option Expr
  | [] => none
  | (name, e) :: rest => if query = name then some e else lookup query rest

/-- The definition of a name. -/
def find? (defs : Definitions) (name : String) : Option Expr :=
  lookup name defs.entries

def contains (defs : Definitions) (name : String) : Bool :=
  (defs.find? name).isSome

/-- Put an entry at its place, replacing the one of the same name. -/
def insertEntry (name : String) (e : Expr) : List (String × Expr) → List (String × Expr)
  | [] => [(name, e)]
  | (other, f) :: rest =>
    if name < other then (name, e) :: (other, f) :: rest
    else if name = other then (name, e) :: rest
    else (other, f) :: insertEntry name e rest

theorem mem_insertEntry {name : String} {e : Expr} {entries : List (String × Expr)}
    {entry : String × Expr} (h : entry ∈ insertEntry name e entries) :
    entry = (name, e) ∨ entry ∈ entries := by
  induction entries with
  | nil => simpa [insertEntry] using h
  | cons head rest ih =>
    obtain ⟨other, f⟩ := head
    rw [insertEntry] at h
    split at h
    · simpa using h
    · split at h
      · rcases List.mem_cons.mp h with here | later
        · exact Or.inl here
        · exact Or.inr (List.mem_cons_of_mem _ later)
      · rcases List.mem_cons.mp h with here | later
        · exact Or.inr (here ▸ List.mem_cons_self)
        · exact (ih later).imp_right (List.mem_cons_of_mem _)

theorem insertEntry_sorted (name : String) (e : Expr) {entries : List (String × Expr)}
    (h : entries.Pairwise (·.1 < ·.1)) : (insertEntry name e entries).Pairwise (·.1 < ·.1) := by
  induction entries with
  | nil => simp [insertEntry]
  | cons head rest ih =>
    obtain ⟨other, f⟩ := head
    obtain ⟨below, restSorted⟩ := List.pairwise_cons.mp h
    rw [insertEntry]
    split
    · next less =>
      refine List.pairwise_cons.mpr ⟨fun entry mem => ?_, h⟩
      rcases List.mem_cons.mp mem with here | later
      · exact here ▸ less
      · exact String.lt_trans less (below entry later)
    · next notLess =>
      split
      · next same =>
        exact List.pairwise_cons.mpr ⟨fun entry mem => same ▸ below entry mem, restSorted⟩
      · next different =>
        refine List.pairwise_cons.mpr ⟨fun entry mem => ?_, ih restSorted⟩
        rcases mem_insertEntry mem with here | later
        · exact here ▸ Std.lt_of_le_of_ne (String.not_lt.mp notLess) (Ne.symm different)
        · exact below entry later

/-- Define a name; an earlier definition of it is replaced. -/
def insert (defs : Definitions) (name : String) (e : Expr) : Definitions :=
  ⟨insertEntry name e defs.entries, insertEntry_sorted name e defs.sorted⟩

/-! ## Look-ups -/

theorem lookup_insertEntry (name query : String) (e : Expr) (entries : List (String × Expr)) :
    lookup query (insertEntry name e entries) =
      if query = name then some e else lookup query entries := by
  induction entries with
  | nil => rfl
  | cons head rest ih =>
    obtain ⟨other, f⟩ := head
    rw [insertEntry]
    split
    · rfl
    · split
      · next same =>
        subst same
        by_cases asked : query = name
        · rw [lookup, if_pos asked, if_pos asked]
        · rw [lookup, lookup, if_neg asked, if_neg asked, if_neg asked]
      · next different =>
        by_cases asked : query = other
        · rw [lookup, lookup, if_pos asked, if_pos asked, if_neg]
          exact fun same => different (same.symm.trans asked)
        · rw [lookup, lookup, if_neg asked, if_neg asked, ih]

/-- A new definition answers for its name and for no other. -/
@[simp] theorem find?_insert (defs : Definitions) (name query : String) (e : Expr) :
    (defs.insert name e).find? query = if query = name then some e else defs.find? query :=
  lookup_insertEntry name query e defs.entries

theorem mem_of_lookup_eq_some {query : String} {e : Expr} {entries : List (String × Expr)}
    (found : lookup query entries = some e) : (query, e) ∈ entries := by
  induction entries with
  | nil => cases found
  | cons head rest ih =>
    obtain ⟨name, f⟩ := head
    rw [lookup] at found
    split at found
    · next same =>
      cases found
      rw [same]
      exact List.mem_cons_self
    · exact List.mem_cons_of_mem _ (ih found)

theorem lookup_eq_some_of_mem {query : String} {e : Expr} {entries : List (String × Expr)}
    (sorted : entries.Pairwise (·.1 < ·.1)) (mem : (query, e) ∈ entries) :
    lookup query entries = some e := by
  induction entries with
  | nil => cases mem
  | cons head rest ih =>
    obtain ⟨below, restSorted⟩ := List.pairwise_cons.mp sorted
    rw [lookup]
    rcases List.mem_cons.mp mem with rfl | later
    · exact if_pos rfl
    · rw [if_neg fun same => String.lt_irrefl _ (same ▸ below _ later)]
      exact ih restSorted later

/-- What a look-up answers is one of the defining expressions. -/
theorem mem_exprs_of_find? {defs : Definitions} {name : String} {e : Expr}
    (found : defs.find? name = some e) : e ∈ defs.exprs :=
  List.mem_map_of_mem (mem_of_lookup_eq_some found)

theorem lookup_eq_none_of_lt {query : String} {entries : List (String × Expr)}
    (below : ∀ entry ∈ entries, query < entry.1) : lookup query entries = none := by
  induction entries with
  | nil => rfl
  | cons head rest ih =>
    have different : query ≠ head.1 := fun same =>
      String.lt_irrefl head.1 (same ▸ below head List.mem_cons_self)
    have later := ih fun entry mem => below entry (List.mem_cons_of_mem _ mem)
    rw [lookup, if_neg different, later]

theorem entries_eq_of_lookup_eq {left right : List (String × Expr)}
    (leftSorted : left.Pairwise (·.1 < ·.1)) (rightSorted : right.Pairwise (·.1 < ·.1))
    (alike : ∀ query, lookup query left = lookup query right) : left = right := by
  induction left generalizing right with
  | nil =>
    cases right with
    | nil => rfl
    | cons head rest => simpa [lookup] using alike head.1
  | cons head rest ih =>
    obtain ⟨name, e⟩ := head
    obtain ⟨below, restSorted⟩ := List.pairwise_cons.mp leftSorted
    cases right with
    | nil => simpa [lookup] using alike name
    | cons head' rest' =>
      obtain ⟨name', e'⟩ := head'
      obtain ⟨below', restSorted'⟩ := List.pairwise_cons.mp rightSorted
      have sameName : name = name' := by
        apply String.le_antisymm
        · refine String.not_lt.mp fun less => ?_
          have absent := lookup_eq_none_of_lt fun entry mem => String.lt_trans less (below entry mem)
          simpa [lookup, String.ne_of_lt less, absent] using alike name'
        · refine String.not_lt.mp fun less => ?_
          have absent := lookup_eq_none_of_lt fun entry mem => String.lt_trans less (below' entry mem)
          simpa [lookup, String.ne_of_lt less, absent] using alike name
      subst sameName
      have sameExpr : e = e' := by simpa [lookup] using alike name
      have sameRest : rest = rest' := ih restSorted restSorted' fun query => by
        by_cases asked : query = name
        · rw [asked, lookup_eq_none_of_lt below, lookup_eq_none_of_lt below']
        · simpa [lookup, asked] using alike query
      rw [sameExpr, sameRest]

/-- Definitions that answer every look-up alike are the same. -/
theorem ext_find? {left right : Definitions} (alike : ∀ query, left.find? query = right.find? query) :
    left = right := by
  cases left with
  | mk leftEntries leftSorted =>
    cases right with
    | mk rightEntries rightSorted =>
      have same : leftEntries = rightEntries :=
        entries_eq_of_lookup_eq leftSorted rightSorted alike
      subst same
      rfl

/-- Definitions made one after the other. -/
def ofList (entries : List (String × Expr)) : Definitions :=
  entries.foldl (fun defs entry => defs.insert entry.1 entry.2) empty

end Definitions

end PegEngine
