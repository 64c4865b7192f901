/-! Parse trees. A tree is named after the capture that made it. A leaf holds the text that was
captured, a branch holds the trees found inside; a tree with the empty name is anonymous and only
groups others until something takes them over. -/
namespace PegEngine

/-- A named node of a parse tree. -/
structure Tree where
  name : String
  /-- The captured text; a branch has none of its own. -/
  value : String
  children : List Tree
  deriving Repr, Inhabited

namespace Tree

def leaf (name value : String) : Tree :=
  ⟨name, value, []⟩

def branch (name : String) (children : List Tree) : Tree :=
  ⟨name, "", children⟩

def isAnonymous (tree : Tree) : Bool :=
  tree.name.isEmpty

/-- The same tree under another name. -/
def rename (tree : Tree) (name : String) : Tree :=
  { tree with name := name }

/-- The direct children of a name, in order. -/
def childrenNamed (tree : Tree) (name : String) : List Tree :=
  tree.children.filter (·.name == name)

/-- The first direct child of a name. -/
def child? (tree : Tree) (name : String) : Option Tree :=
  tree.children.find? (·.name == name)

/-! ## Joining the results of sub-matches -/

/-- What one result adds to the group around it: an anonymous tree gives up its children. -/
def contribution : Option Tree → List Tree
  | none => []
  | some tree => if tree.isAnonymous then tree.children else [tree]

/-- The trees of a group, the latest first, together with those that one more result adds. -/
def collect (trees : List Tree) (result : Option Tree) : List Tree :=
  (contribution result).reverse ++ trees

/-- One result for a group: nothing, the only tree, or an anonymous tree over all of them. -/
def ofForest : List Tree → Option Tree
  | [] => none
  | [tree] => some tree
  | trees => some (branch "" trees)

/-- What a capture makes of a tree inside it: an anonymous tree takes the name, a named one moves a
level down. -/
def captured (tree : Tree) (name : String) : Tree :=
  if tree.isAnonymous then tree.rename name else branch name [tree]

end Tree

end PegEngine
