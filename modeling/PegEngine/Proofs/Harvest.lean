import PegEngine.Proofs.Uniform

/-! Harvests: the captures of a successful reading, inside each other and side by side, and the tree that
is built of them. Building a tree flattens, renames and nests, but the tree names exactly the captures
that have a name, in the order in which they were entered, and its leaves hold the texts of the captures
that made them, in order. -/
namespace PegEngine

namespace Tree

mutual

/-- The tree and everything in it, each before what is below it, from left to right. -/
def preorder : Tree → List Tree
  | ⟨name, value, children⟩ => ⟨name, value, children⟩ :: preorderAll children

/-- The listings of neighbouring trees, one after the other. -/
def preorderAll : List Tree → List Tree
  | [] => []
  | tree :: rest => preorder tree ++ preorderAll rest

end

/-- The names of all named trees among these and in them, in preorder. -/
def names (trees : List Tree) : List String :=
  ((preorderAll trees).filter (!·.isAnonymous)).map (·.name)

/-- All trees without children among these and in them, from left to right. -/
def leaves (trees : List Tree) : List Tree :=
  (preorderAll trees).filter (·.children.isEmpty)

/-- The texts of all leaves, from left to right. -/
def texts (trees : List Tree) : List String :=
  (leaves trees).map (·.value)

theorem preorderAll_append (left right : List Tree) :
    preorderAll (left ++ right) = preorderAll left ++ preorderAll right := by
  induction left with
  | nil => rfl
  | cons tree rest ih => rw [List.cons_append, preorderAll, preorderAll, ih, List.append_assoc]

theorem preorderAll_singleton (tree : Tree) :
    preorderAll [tree] = tree :: preorderAll tree.children := by
  cases tree
  simp [preorderAll, preorder]

@[simp] theorem names_nil : names [] = [] := rfl

@[simp] theorem texts_nil : texts [] = [] := rfl

@[simp] theorem names_append (left right : List Tree) :
    names (left ++ right) = names left ++ names right := by
  simp [names, preorderAll_append]

@[simp] theorem texts_append (left right : List Tree) :
    texts (left ++ right) = texts left ++ texts right := by
  simp [texts, leaves, preorderAll_append]

/-! ## Names -/

/-- The name, unless it is empty. -/
def nameList (name : String) : List String :=
  if name.isEmpty then [] else [name]

theorem names_singleton (tree : Tree) :
    names [tree] = nameList tree.name ++ names tree.children := by
  rw [names, preorderAll_singleton, List.filter_cons, isAnonymous, nameList, names]
  cases tree.name.isEmpty with
  | true => rfl
  | false => rfl

theorem names_leaf (name value : String) : names [leaf name value] = nameList name := by
  rw [names_singleton]
  exact List.append_nil _

theorem names_branch (name : String) (children : List Tree) :
    names [branch name children] = nameList name ++ names children :=
  names_singleton _

theorem names_contribution (result : Option Tree) :
    names (contribution result) = names result.toList := by
  cases result with
  | none => rfl
  | some tree =>
    rw [contribution, Option.toList_some]
    by_cases anonymous : tree.isAnonymous = true
    · have unnamed : nameList tree.name = [] := if_pos anonymous
      rw [if_pos anonymous, names_singleton, unnamed, List.nil_append]
    · rw [if_neg anonymous]

theorem names_ofForest (forest : List Tree) : names (ofForest forest).toList = names forest := by
  match forest with
  | [] => rfl
  | [_] => rfl
  | _ :: _ :: _ => exact names_branch "" _

/-- A group loses no names, adds none and keeps their order. -/
theorem names_gather (results : List (Option Tree)) :
    names (gather results).toList = results.flatMap fun result => names result.toList := by
  rw [gather, names_ofForest]
  induction results with
  | nil => rfl
  | cons result rest ih => simp [ih, names_contribution]

theorem names_captured (tree : Tree) (name : String) :
    names [tree.captured name] = nameList name ++ names [tree] := by
  rw [captured]
  by_cases anonymous : tree.isAnonymous = true
  · have unnamed : nameList tree.name = [] := if_pos anonymous
    rw [if_pos anonymous, names_singleton, names_singleton tree, unnamed]
    rfl
  · rw [if_neg anonymous, names_branch]

/-! ## Texts of leaves -/

theorem texts_singleton (tree : Tree) :
    texts [tree] = if tree.children.isEmpty then [tree.value] else texts tree.children := by
  obtain ⟨name, value, children⟩ := tree
  rw [texts, leaves, preorderAll_singleton, List.filter_cons]
  cases children with
  | nil => rfl
  | cons child rest => rfl

theorem texts_branch {name : String} {children : List Tree} (nonempty : children ≠ []) :
    texts [branch name children] = texts children := by
  rw [texts_singleton]
  exact if_neg fun empty => nonempty (List.isEmpty_iff.mp empty)

/-- A group takes on all leaves of a result, unless it takes on nothing of it. -/
theorem texts_contribution (result : Option Tree) :
    texts (contribution result) =
      if (contribution result).isEmpty then [] else texts result.toList := by
  cases result with
  | none => rfl
  | some tree =>
    rw [contribution, Option.toList_some]
    by_cases anonymous : tree.isAnonymous = true
    · rw [if_pos anonymous, texts_singleton]
      cases children : tree.children with
      | nil => rfl
      | cons child rest => rfl
    · rw [if_neg anonymous]
      rfl

theorem texts_ofForest (forest : List Tree) : texts (ofForest forest).toList = texts forest := by
  match forest with
  | [] => rfl
  | [_] => rfl
  | _ :: _ :: _ => exact texts_branch nofun

/-- Another name for a tree, or one above it, leaves its leaves as they are. -/
theorem texts_captured (tree : Tree) (name : String) : texts [tree.captured name] = texts [tree] := by
  rw [captured]
  split
  · rw [texts_singleton, texts_singleton tree]
    rfl
  · exact texts_branch (List.cons_ne_nil _ _)

end Tree

/-! ## Harvests -/

/-- A capture that was entered and whose body matched. -/
structure Capture where
  name : String
  body : Expr
  /-- Whether skipping was off. -/
  verbatim : Bool
  /-- What the body matched, behind what was skipped in front of the capture. -/
  span : Span

namespace Capture

/-- The names of captures, as far as they have one. -/
def names (captures : List Capture) : List String :=
  captures.flatMap fun entered => Tree.nameList entered.name

end Capture

/-- The captures of one reading: side by side in groups, and inside each other. -/
inductive Harvest where
  | group (members : List Harvest)
  | capture (entered : Capture) (inside : Harvest)

namespace Harvest

mutual

/-- The captures in the order in which they were entered. -/
def captures : Harvest → List Capture
  | group members => capturesAll members
  | capture entered inside => entered :: inside.captures

/-- The captures of harvests, one after the other. -/
def capturesAll : List Harvest → List Capture
  | [] => []
  | first :: rest => first.captures ++ capturesAll rest

end

mutual

/-- The tree that is built of a harvest, if there is anything in it to build one of. -/
def tree (source : Source) : Harvest → Option Tree
  | group members => Tree.gather (trees source members)
  | capture entered inside =>
    Builder.tree.capture entered.name source entered.span (inside.tree source)

/-- The trees that are built of harvests, each by itself. -/
def trees (source : Source) : List Harvest → List (Option Tree)
  | [] => []
  | first :: rest => first.tree source :: trees source rest

end

mutual

/-- The captures that make leaves of the tree, from left to right: those with no tree inside. What a
group takes nothing on of, an anonymous leaf, is given up. -/
def makers (source : Source) : Harvest → List Capture
  | group members => makersAll source members
  | capture entered inside =>
    if (inside.tree source).isNone then [entered] else inside.makers source

/-- The captures that make leaves of a group of harvests. -/
def makersAll (source : Source) : List Harvest → List Capture
  | [] => []
  | first :: rest =>
    (if (Tree.contribution (first.tree source)).isEmpty then [] else first.makers source) ++
      makersAll source rest

end

variable (source : Source)

theorem names_builder_capture (name : String) (span : Span) (inside : Option Tree) :
    Tree.names (Builder.tree.capture name source span inside).toList =
      Tree.nameList name ++ Tree.names inside.toList := by
  cases inside with
  | none => exact (Tree.names_leaf name _).trans (List.append_nil _).symm
  | some tree => exact tree.names_captured name

mutual

/-- The tree of a harvest names what was captured, in the order of entry. -/
theorem names_tree (h : Harvest) : Tree.names (h.tree source).toList = Capture.names h.captures := by
  cases h with
  | group members => rw [tree, Tree.names_gather, captures, names_trees members]
  | capture entered inside =>
    rw [tree, names_builder_capture, captures, names_tree inside]
    rfl

theorem names_trees (hs : List Harvest) :
    ((trees source hs).flatMap fun result => Tree.names result.toList) =
      Capture.names (capturesAll hs) := by
  cases hs with
  | nil => rfl
  | cons first rest =>
    rw [trees, List.flatMap_cons, names_tree first, names_trees rest, capturesAll]
    simp [Capture.names]

end

mutual

/-- The leaves of the tree of a harvest hold the texts of the captures that made them. -/
theorem texts_tree (h : Harvest) :
    Tree.texts (h.tree source).toList = (h.makers source).map (source.text ·.span) := by
  cases h with
  | group members => rw [tree, Tree.gather, Tree.texts_ofForest, makers, texts_trees members]
  | capture entered inside =>
    have ih := texts_tree inside
    rw [tree, makers]
    cases built : inside.tree source with
    | none => rfl
    | some tree =>
      rw [built] at ih
      exact (tree.texts_captured entered.name).trans ih

theorem texts_trees (hs : List Harvest) :
    Tree.texts ((trees source hs).flatMap Tree.contribution) =
      (makersAll source hs).map (source.text ·.span) := by
  cases hs with
  | nil => rfl
  | cons first rest =>
    rw [trees, List.flatMap_cons, Tree.texts_append, Tree.texts_contribution, texts_tree first,
      texts_trees rest, makersAll, List.map_append]
    split
    · rfl
    · rfl

end

mutual

/-- Makers of leaves are among the captures, in their order. -/
theorem makers_sublist (h : Harvest) : (h.makers source).Sublist h.captures := by
  cases h with
  | group members => exact makersAll_sublist members
  | capture entered inside =>
    rw [makers, captures]
    split
    · exact (List.nil_sublist _).cons_cons entered
    · exact (makers_sublist inside).cons entered

theorem makersAll_sublist (hs : List Harvest) : (makersAll source hs).Sublist (capturesAll hs) := by
  cases hs with
  | nil => exact List.nil_sublist _
  | cons first rest =>
    rw [makersAll, capturesAll]
    refine List.Sublist.append ?_ (makersAll_sublist rest)
    split
    · exact List.nil_sublist _
    · exact makers_sublist first

end

end Harvest

end PegEngine
