import PegEngine.Tree.Basic
import PegEngine.Text.Quoted

/-! The written form of parse trees: one line for each tree, with the lines of its children below
it, two columns further in. Trees without children show their text. -/
namespace PegEngine

namespace Tree

/-- The name of a tree, or an underscore for an anonymous one. -/
def renderName (tree : Tree) : String :=
  if tree.isAnonymous then "_" else tree.name

/-- The line of the tree itself at a depth. -/
def headLine (depth : Nat) (tree : Tree) : String :=
  String.ofList (List.replicate (2 * depth) ' ') ++ tree.renderName ++
    (if tree.children.isEmpty then " " ++ Text.quote tree.value else "")

mutual

/-- The lines of a tree that stands at a depth. -/
def lines (depth : Nat) : Tree → List String
  | ⟨name, value, children⟩ =>
    headLine depth ⟨name, value, children⟩ :: linesAll (depth + 1) children

/-- The lines of neighbouring trees at a depth. -/
def linesAll (depth : Nat) : List Tree → List String
  | [] => []
  | tree :: rest => lines depth tree ++ linesAll depth rest

end

/-- The lines of a tree, joined by line feeds. -/
def render (tree : Tree) : String :=
  "\n".intercalate (lines 0 tree)

end Tree

end PegEngine
