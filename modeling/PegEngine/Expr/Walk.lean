import PegEngine.Expr.Basic

/-! Walks through an expression. A walk visits the expression and then, from left to right, all that
it is built from; a visitor ends the walk by failing. References are visited, not followed. -/
namespace PegEngine

namespace Expr

variable {m : Type → Type} [Monad m]

mutual

/-- Visit the expression, then everything inside it. -/
def walk (visit : Expr → m Unit) (e : Expr) : m Unit := do
  visit e
  match e with
  | seq items => walkAll visit items
  | choice alternatives => walkAll visit alternatives
  | optional body | rep _ _ body | not body | peek body | capture _ body | anyBut body
  | verbatim body => walk visit body
  | char _ | literal _ | any | range _ _ | eof | eol | space | ref _ => pure ()

/-- Walk through the expressions of a list in order. -/
def walkAll (visit : Expr → m Unit) : List Expr → m Unit
  | [] => pure ()
  | e :: rest => do
    walk visit e
    walkAll visit rest

end

mutual

/-- The expression and everything inside it, each before its own parts. -/
def preorder (e : Expr) : List Expr :=
  e :: match e with
  | seq items => preorderAll items
  | choice alternatives => preorderAll alternatives
  | optional body | rep _ _ body | not body | peek body | capture _ body | anyBut body
  | verbatim body => body.preorder
  | char _ | literal _ | any | range _ _ | eof | eol | space | ref _ => []

/-- The listings of the expressions of a list, in order. -/
def preorderAll : List Expr → List Expr
  | [] => []
  | e :: rest => e.preorder ++ preorderAll rest

end

mutual

/-- A walk visits the expressions of the listing in order. -/
theorem walk_eq_forM [LawfulMonad m] (visit : Expr → m Unit) (e : Expr) :
    e.walk visit = e.preorder.forM visit := by
  cases e <;> simp [walk, preorder, walk_eq_forM, walkAll_eq_forM]

theorem walkAll_eq_forM [LawfulMonad m] (visit : Expr → m Unit) (es : List Expr) :
    walkAll visit es = (preorderAll es).forM visit := by
  cases es with
  | nil => simp [walkAll, preorderAll]
  | cons e es => simp [walkAll, preorderAll, walk_eq_forM, walkAll_eq_forM]

end

/-! ## Parts -/

/-- The expressions directly inside an expression. -/
def parts : Expr → List Expr
  | seq items => items
  | choice alternatives => alternatives
  | optional body | rep _ _ body | not body | peek body | capture _ body | anyBut body
  | verbatim body => [body]
  | char _ | literal _ | any | range _ _ | eof | eol | space | ref _ => []

theorem preorderAll_eq_flatMap (es : List Expr) : preorderAll es = es.flatMap preorder := by
  induction es with
  | nil => rfl
  | cons e es ih => rw [preorderAll, ih, List.flatMap_cons]

theorem preorder_eq (e : Expr) : e.preorder = e :: preorderAll e.parts := by
  cases e <;> simp [preorder, preorderAll, parts]

theorem mem_preorder_self (e : Expr) : e ∈ e.preorder := by
  rw [preorder_eq]
  exact List.mem_cons_self

theorem size_eq (e : Expr) : e.size = sizeAll e.parts + 1 := by
  cases e <;> simp [size, sizeAll, parts]

theorem size_le_sizeAll {e : Expr} {es : List Expr} (mem : e ∈ es) : e.size ≤ sizeAll es := by
  induction es with
  | nil => cases mem
  | cons head rest ih =>
    rw [sizeAll]
    rcases List.mem_cons.mp mem with here | later
    · rw [here]
      exact Nat.le_add_right _ _
    · exact Nat.le_trans (ih later) (Nat.le_add_left _ _)

theorem size_lt_of_mem_parts {e part : Expr} (mem : part ∈ e.parts) : part.size < e.size := by
  rw [size_eq e]
  exact Nat.lt_succ_of_le (size_le_sizeAll mem)

/-- The listing of an expression lists the parts of all that it lists. -/
theorem mem_preorder_of_mem_parts {e f part : Expr} (listed : f ∈ e.preorder)
    (mem : part ∈ f.parts) : part ∈ e.preorder := by
  rw [preorder_eq, List.mem_cons, preorderAll_eq_flatMap, List.mem_flatMap] at listed
  rw [preorder_eq, List.mem_cons, preorderAll_eq_flatMap, List.mem_flatMap]
  rcases listed with rfl | ⟨inner, innerMem, innerListed⟩
  · exact Or.inr ⟨part, mem, mem_preorder_self part⟩
  · have smaller := size_lt_of_mem_parts innerMem
    exact Or.inr ⟨inner, innerMem, mem_preorder_of_mem_parts innerListed mem⟩
termination_by e.size

mutual

/-- The listing has an entry for every expression inside. -/
theorem length_preorder (e : Expr) : e.preorder.length = e.size := by
  cases e <;> simp [preorder, size, length_preorder, length_preorderAll]

theorem length_preorderAll (es : List Expr) : (preorderAll es).length = sizeAll es := by
  cases es with
  | nil => rfl
  | cons e es => simp [preorderAll, sizeAll, length_preorder, length_preorderAll]

end

end Expr

end PegEngine
