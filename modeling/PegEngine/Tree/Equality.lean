import PegEngine.Tree.Basic

/-! Equality of parse trees is decided by comparing names, values and children. -/
namespace PegEngine

namespace Tree

mutual

/-- Comparison of names, values and all children. -/
def same : Tree → Tree → Bool
  | ⟨name, value, children⟩, ⟨name', value', children'⟩ =>
    name == name' && value == value' && sameAll children children'

/-- Comparison of lists, tree by tree. -/
def sameAll : List Tree → List Tree → Bool
  | [], [] => true
  | tree :: rest, tree' :: rest' => same tree tree' && sameAll rest rest'
  | _, _ => false

end

mutual

theorem same_iff (a b : Tree) : same a b = true ↔ a = b := by
  cases a
  cases b
  simp [same, sameAll_iff, and_assoc]

theorem sameAll_iff (as bs : List Tree) : sameAll as bs = true ↔ as = bs := by
  cases as <;> cases bs <;> simp [sameAll, same_iff, sameAll_iff]

end

instance : DecidableEq Tree := fun a b =>
  decidable_of_iff _ (same_iff a b)

end Tree

end PegEngine
