import PegEngine.Proofs.Canonical
import PegEngine.Proofs.Tokens
import PegEngine.Tree.Printer

/-! Written trees. The structure of a written tree is carried by line breaks and indentation alone, yet the tree can
be told from it. No line breaks off early, for quoted texts hold no line feed; a line tells its depth by its blanks,
the name that follows them, and the text if there is one; and what is listed below a tree ends with the first line
that is not indented further. -/
namespace PegEngine

/-! ## Quoted texts -/

namespace Text

theorem lineFeed_notMem_escape {mark : Char} (quotes : IsMark mark) (c : Char) : '\n' ∉ escape mark c := by
  rw [escape]
  cases escaped : escapeLetter? mark c with
  | some letter =>
    have other : letter ≠ '\n' := by
      rintro rfl
      rcases quotes with rfl | rfl <;> grind [escapeLetter?]
    simpa using other.symm
  | none =>
    have other : c ≠ '\n' := by
      rintro rfl
      rcases quotes with rfl | rfl <;> cases escaped
    dsimp only
    split
    · simpa using other.symm
    · have digits : '\n' ∉ Nat.toDigits 16 c.toNat := notMem_toDigits_sixteen (by decide) c.toNat
      simpa using digits

/-- A quoted text stands on one line, whatever it holds. -/
theorem lineFeed_notMem_quote (s : String) : '\n' ∉ (quote s).toList := by
  have escapes := lineFeed_notMem_escape (Or.inr rfl)
  rw [quote, quoteWith, String.toList_ofList]
  simpa using fun c _ => escapes c

theorem quote_inj {s s' : String} (same : (quote s).toList = (quote s').toList) : s = s' := by
  have texts := quoteWith_append_inj (Or.inr rfl) (congrArg (· ++ []) same)
  exact String.toList_inj.mp texts.1

end Text

namespace Tree

/-! ## Trees that can be made -/

/-- The trees that can be put together: leaves, and branches over such trees. -/
inductive Made : Tree → Prop where
  | leaf (name value : String) : Made (leaf name value)
  | branch (name : String) {children : List Tree} (parts : ∀ child ∈ children, Made child) :
      Made (branch name children)

namespace Made

variable {tree other : Tree}

theorem children (made : tree.Made) : ∀ child ∈ tree.children, child.Made := by
  cases made with
  | leaf name value => exact nofun
  | branch name parts => exact parts

/-- Only a tree without children holds a text. -/
theorem leaf_or_empty (made : tree.Made) : tree.children = [] ∨ tree.value = "" := by
  cases made with
  | leaf name value => exact Or.inl rfl
  | branch name parts => exact Or.inr rfl

theorem rename (made : tree.Made) (name : String) : (tree.rename name).Made := by
  cases made with
  | leaf _ value => exact .leaf name value
  | branch _ parts => exact .branch name parts

theorem captured (made : tree.Made) (name : String) : (tree.captured name).Made := by
  rw [Tree.captured]
  split
  · exact made.rename name
  · exact .branch name (List.forall_mem_singleton.mpr made)

/-- Trees that can be made are the same if they have the same name and the same children, and the same text if they
have no children. -/
theorem ext (made : tree.Made) (made' : other.Made) (names : tree.name = other.name)
    (below : tree.children = other.children) (values : tree.children = [] → tree.value = other.value) :
    tree = other := by
  have value : tree.value = other.value := by
    rcases made.leaf_or_empty with leaf | empty
    · exact values leaf
    · rcases made'.leaf_or_empty with leaf | empty'
      · exact values (below.trans leaf)
      · rw [empty, empty']
  cases tree
  cases other
  cases names
  cases below
  cases value
  rfl

end Made

theorem made_contribution {result : Option Tree} (made : ∀ tree ∈ result, tree.Made) :
    ∀ tree ∈ contribution result, tree.Made := by
  cases result with
  | none => exact nofun
  | some tree =>
    have here := made tree rfl
    rw [contribution]
    split
    · exact here.children
    · exact List.forall_mem_singleton.mpr here

theorem made_ofForest {forest : List Tree} (made : ∀ tree ∈ forest, tree.Made) :
    ∀ tree ∈ ofForest forest, tree.Made := by
  intro tree mem
  match forest with
  | [] => cases mem
  | [only] =>
    cases mem
    exact List.forall_mem_singleton.mp made
  | _ :: _ :: _ =>
    cases mem
    exact .branch "" made

/-! ## Names -/

/-- A name that shows what it is where it stands between blanks on a line, and that is not what stands for the empty
name. -/
structure ClearName (name : String) : Prop where
  blank : ' ' ∉ name.toList
  lineFeed : '\n' ∉ name.toList
  ne_underscore : name ≠ "_"

/-- The names of the tree and of everything in it are clear. -/
def NamedClearly (tree : Tree) : Prop :=
  ∀ node ∈ preorder tree, ClearName node.name

instance (name : String) : Decidable (ClearName name) :=
  decidable_of_iff (' ' ∉ name.toList ∧ '\n' ∉ name.toList ∧ name ≠ "_")
    ⟨fun ⟨blank, lineFeed, underscore⟩ => ⟨blank, lineFeed, underscore⟩,
      fun clear => ⟨clear.blank, clear.lineFeed, clear.ne_underscore⟩⟩

instance (tree : Tree) : Decidable tree.NamedClearly :=
  inferInstanceAs (Decidable (∀ node ∈ preorder tree, ClearName node.name))

theorem mem_preorderAll {tree : Tree} {trees : List Tree} :
    tree ∈ preorderAll trees ↔ ∃ member ∈ trees, tree ∈ preorder member := by
  induction trees with
  | nil => simp [preorderAll]
  | cons first rest ih => simp [preorderAll, ih]

theorem namedClearly_iff (tree : Tree) :
    tree.NamedClearly ↔ ClearName tree.name ∧ ∀ child ∈ tree.children, child.NamedClearly := by
  rw [NamedClearly, preorder_eq_cons, List.forall_mem_cons]
  refine and_congr_right fun _ => ⟨fun all child mem node inside => ?_, fun each node mem => ?_⟩
  · exact all node (mem_preorderAll.mpr ⟨child, mem, inside⟩)
  · obtain ⟨child, mem, inside⟩ := mem_preorderAll.mp mem
    exact each child mem node inside

/-- The tree can be made and is named clearly. All that is inside such a tree is such a tree again. -/
structure Readable (tree : Tree) : Prop where
  made : tree.Made
  clear : tree.NamedClearly

namespace Readable

variable {tree : Tree} (readable : tree.Readable)
include readable

theorem name : ClearName tree.name :=
  ((namedClearly_iff tree).mp readable.clear).1

theorem children : ∀ child ∈ tree.children, child.Readable := fun child mem =>
  ⟨readable.made.children child mem, ((namedClearly_iff tree).mp readable.clear).2 child mem⟩

end Readable

theorem renderName_ne_nil (tree : Tree) : tree.renderName.toList ≠ [] := by
  rw [renderName]
  split
  · decide
  · next named => simpa [isAnonymous, String.isEmpty_iff] using named

section Names

variable {tree other : Tree} (clear : ClearName tree.name)
include clear

theorem blank_notMem_renderName : ' ' ∉ tree.renderName.toList := by
  rw [renderName]
  split
  · decide
  · exact clear.blank

theorem lineFeed_notMem_renderName : '\n' ∉ tree.renderName.toList := by
  rw [renderName]
  split
  · decide
  · exact clear.lineFeed

/-- The name can be told from what a line shows of it: only the empty name is shown as an underscore. -/
theorem name_eq_of_renderName_eq (clear' : ClearName other.name) (same : tree.renderName = other.renderName) :
    tree.name = other.name := by
  have empty {t : Tree} (anonymous : t.isAnonymous = true) : t.name = "" := String.isEmpty_iff.mp anonymous
  rw [renderName, renderName] at same
  split at same
  · next anonymous =>
    split at same
    · next anonymous' => rw [empty anonymous, empty anonymous']
    · exact absurd same.symm clear'.ne_underscore
  · split at same
    · exact absurd same clear.ne_underscore
    · exact same

end Names

/-! ## Lines -/

/-- What stands behind the name on the line of a tree. -/
def shownText (tree : Tree) : List Char :=
  if tree.children.isEmpty then ' ' :: (Text.quote tree.value).toList else []

theorem toList_headLine (depth : Nat) (tree : Tree) :
    (headLine depth tree).toList =
      List.replicate (2 * depth) ' ' ++ (tree.renderName.toList ++ tree.shownText) := by
  rw [headLine, String.toList_append, String.toList_append, String.toList_ofList, List.append_assoc, shownText]
  split
  · rw [String.toList_append]
    rfl
  · rfl

theorem lineFeed_notMem_headLine {tree : Tree} (clear : ClearName tree.name) (depth : Nat) :
    '\n' ∉ (headLine depth tree).toList := by
  have text : '\n' ∉ tree.shownText := by
    rw [shownText]
    split
    · simpa using Text.lineFeed_notMem_quote tree.value
    · exact List.not_mem_nil
  rw [toList_headLine, List.mem_append, List.mem_append, not_or, not_or]
  refine ⟨fun blank => ?_, lineFeed_notMem_renderName clear, text⟩
  cases List.eq_of_mem_replicate blank

/-- The depth and the name of a tree can be told from its line, and the text if there are no children. -/
theorem headLine_inj {depth depth' : Nat} {tree other : Tree} (clear : ClearName tree.name)
    (clear' : ClearName other.name) (same : headLine depth tree = headLine depth' other) :
    depth = depth' ∧ tree.name = other.name ∧
      (tree.children = [] → other.children = [] → tree.value = other.value) := by
  have blanks (n : Nat) : ∀ c ∈ List.replicate n ' ', (c == ' ') = true := fun c mem =>
    beq_iff_eq.mpr (List.eq_of_mem_replicate mem)
  have letters {t : Tree} (clear : ClearName t.name) : ∀ c ∈ t.renderName.toList, (c != ' ') = true :=
    fun c mem => bne_iff_ne.mpr fun blank => blank_notMem_renderName clear (blank ▸ mem)
  have begins {t : Tree} (clear : ClearName t.name) :
      ∀ c ∈ (t.renderName.toList ++ t.shownText).head?, (c == ' ') = false := by
    intro c first
    obtain ⟨d, rest, letter⟩ := List.exists_cons_of_ne_nil (renderName_ne_nil t)
    rw [letter, List.cons_append, List.head?_cons, Option.mem_some_iff] at first
    subst first
    simpa using letters clear d (letter ▸ List.mem_cons_self)
  have ends (t : Tree) : ∀ c ∈ t.shownText.head?, (c != ' ') = false := by
    rw [shownText]
    split
    · rintro c ⟨⟩
      rfl
    · exact nofun
  -- The indentation ends at the first character of the name, and the name at the next blank or with the line.
  have chars := congrArg String.toList same
  rw [toList_headLine, toList_headLine] at chars
  obtain ⟨indents, behind⟩ :=
    append_inj_of_stops (blanks _) (blanks _) (begins clear) (begins clear') chars
  obtain ⟨names, texts⟩ :=
    append_inj_of_stops (letters clear) (letters clear') (ends tree) (ends other) behind
  refine ⟨?_, name_eq_of_renderName_eq clear clear' (String.toList_inj.mp names), fun leaf leaf' => ?_⟩
  · have widths := congrArg List.length indents
    rw [List.length_replicate, List.length_replicate] at widths
    omega
  · rw [shownText, shownText, leaf, leaf'] at texts
    exact Text.quote_inj (List.cons.inj texts).2

/-! ## Listings -/

theorem lines_eq_cons (depth : Nat) (tree : Tree) :
    lines depth tree = headLine depth tree :: linesAll (depth + 1) tree.children := by
  cases tree
  rfl

mutual

/-- Every line of a listing is that of a tree in it. -/
theorem exists_of_mem_lines {line : String} (depth : Nat) (tree : Tree) (mem : line ∈ lines depth tree) :
    ∃ d, ∃ node ∈ preorder tree, line = headLine d node := by
  cases tree with
  | mk name value children =>
    rcases List.mem_cons.mp mem with here | below
    · exact ⟨depth, _, List.mem_cons_self, here⟩
    · obtain ⟨d, node, inside, shown⟩ := exists_of_mem_linesAll (depth + 1) children below
      exact ⟨d, node, List.mem_cons_of_mem _ inside, shown⟩

theorem exists_of_mem_linesAll {line : String} (depth : Nat) (trees : List Tree)
    (mem : line ∈ linesAll depth trees) : ∃ d, ∃ node ∈ preorderAll trees, line = headLine d node := by
  cases trees with
  | nil => cases mem
  | cons tree rest =>
    rcases List.mem_append.mp mem with first | later
    · obtain ⟨d, node, inside, shown⟩ := exists_of_mem_lines depth tree first
      exact ⟨d, node, List.mem_append_left _ inside, shown⟩
    · obtain ⟨d, node, inside, shown⟩ := exists_of_mem_linesAll depth rest later
      exact ⟨d, node, List.mem_append_right _ inside, shown⟩

end

/-- What follows a listing at a depth: nothing, or first the line of a tree that stands less deep. -/
def Returns (depth : Nat) (rest : List String) : Prop :=
  ∀ line ∈ rest.head?, ∃ d < depth, ∃ tree : Tree, ClearName tree.name ∧ line = headLine d tree

namespace Returns

variable {depth : Nat} {rest : List String} (returns : Returns depth rest)
include returns

/-- What follows a tree among its neighbours stands less deep than its children. -/
theorem neighbours {trees : List Tree} (readable : ∀ tree ∈ trees, tree.Readable) :
    Returns (depth + 1) (linesAll depth trees ++ rest) := by
  intro line first
  cases trees with
  | nil =>
    obtain ⟨d, less, shown⟩ := returns line first
    exact ⟨d, Nat.lt_succ_of_lt less, shown⟩
  | cons tree others =>
    rw [linesAll, lines_eq_cons] at first
    cases first
    exact ⟨depth, Nat.lt_succ_self depth, tree, (readable tree List.mem_cons_self).name, rfl⟩

/-- The line of a tree at a depth is not the first of what follows a listing at this depth. -/
theorem ne_headLine_cons {tree : Tree} (readable : tree.Readable) (below : List String) :
    rest ≠ headLine depth tree :: below := by
  rintro rfl
  obtain ⟨d, less, other, clear, shown⟩ := returns _ rfl
  have same := (headLine_inj readable.name clear shown).1
  omega

end Returns

/-- The tree, and where its listing ends, can be told from every listing at a depth that begins with it. -/
def Told (tree : Tree) : Prop :=
  ∀ (depth : Nat) (other : Tree) (rest rest' : List String), other.Readable →
    Returns (depth + 1) rest → Returns (depth + 1) rest' →
    lines depth tree ++ rest = lines depth other ++ rest' → tree = other ∧ rest = rest'

/-- Neighbours can be told one after the other, up to the first line that returns from their depth. -/
theorem linesAll_append_inj {depth : Nat} {trees others : List Tree} {rest rest' : List String}
    (told : ∀ tree ∈ trees, tree.Told) (readable : ∀ tree ∈ trees, tree.Readable)
    (readable' : ∀ other ∈ others, other.Readable) (returns : Returns depth rest) (returns' : Returns depth rest')
    (same : linesAll depth trees ++ rest = linesAll depth others ++ rest') : trees = others ∧ rest = rest' := by
  -- Both rows end together, since the line of one more tree at this depth does not return from it.
  induction trees generalizing others with
  | nil =>
    cases others with
    | nil => exact ⟨rfl, same⟩
    | cons other others =>
      rw [linesAll, linesAll, lines_eq_cons] at same
      exact absurd same (returns.ne_headLine_cons (readable' other List.mem_cons_self) _)
  | cons tree trees ih =>
    obtain ⟨firstTold, told⟩ := List.forall_mem_cons.mp told
    obtain ⟨first, readable⟩ := List.forall_mem_cons.mp readable
    cases others with
    | nil =>
      rw [linesAll, linesAll, lines_eq_cons] at same
      exact absurd same.symm (returns'.ne_headLine_cons first _)
    | cons other others =>
      obtain ⟨first', readable'⟩ := List.forall_mem_cons.mp readable'
      rw [linesAll, linesAll, List.append_assoc, List.append_assoc] at same
      obtain ⟨head, behind⟩ := firstTold depth other _ _ first' (returns.neighbours readable)
        (returns'.neighbours readable') same
      obtain ⟨tail, ended⟩ := ih told readable readable' behind
      exact ⟨congrArg₂ List.cons head tail, ended⟩

/-- A tree can be told by its line and by its children. -/
theorem told_of_children {tree : Tree} (readable : tree.Readable)
    (below : ∀ child ∈ tree.children, child.Told) : tree.Told := by
  intro depth other rest rest' readable' returns returns' same
  rw [lines_eq_cons, lines_eq_cons] at same
  obtain ⟨line, behind⟩ := List.cons.inj same
  obtain ⟨_, names, texts⟩ := headLine_inj readable.name readable'.name line
  obtain ⟨alike, ended⟩ :=
    linesAll_append_inj below readable.children readable'.children returns returns' behind
  exact ⟨readable.made.ext readable'.made names alike fun leaf => texts leaf (alike ▸ leaf), ended⟩

theorem Readable.told {tree : Tree} (readable : tree.Readable) : tree.Told := by
  obtain ⟨made, clear⟩ := readable
  induction made with
  | leaf name value => exact told_of_children ⟨.leaf name value, clear⟩ nofun
  | branch name parts ih =>
    have readable : (Tree.branch name _).Readable := ⟨.branch name parts, clear⟩
    exact told_of_children readable fun child mem => ih child mem (readable.children child mem).clear

/-- The lines of a written tree can be told from its text. -/
theorem splitOn_render {tree : Tree} (clear : tree.NamedClearly) :
    tree.render.toList.splitOn '\n' = (lines 0 tree).map String.toList := by
  rw [render, String.toList_intercalate]
  refine List.splitOn_intercalate '\n' (fun chars mem => ?_) ?_
  · obtain ⟨line, listed, rfl⟩ := List.mem_map.mp mem
    obtain ⟨d, node, inside, rfl⟩ := exists_of_mem_lines 0 tree listed
    exact lineFeed_notMem_headLine (clear node inside) d
  · rw [lines_eq_cons]
    exact List.cons_ne_nil _ _

theorem eq_of_render_eq {tree other : Tree} (readable : tree.Readable) (readable' : other.Readable)
    (same : tree.render = other.render) : tree = other := by
  have texts : (lines 0 tree).map String.toList = (lines 0 other).map String.toList := by
    rw [← splitOn_render readable.clear, ← splitOn_render readable'.clear, same]
  have rows : lines 0 tree = lines 0 other :=
    List.map_injective_iff.mpr (fun _ _ => String.toList_inj.mp) texts
  exact (readable.told 0 other [] [] readable' nofun nofun (congrArg (· ++ []) rows)).1

end Tree

/-! ## Parsed trees -/

/-- Groups and captures make trees that can be made of such trees. -/
theorem Builder.tree_keeps_made : tree.Keeps fun result => ∀ tree ∈ result, tree.Made where
  gather members _ made := Tree.made_ofForest fun part mem => by
    obtain ⟨result, listed, inside⟩ := List.mem_flatMap.mp mem
    exact Tree.made_contribution (made result listed) part inside
  capture name source span inside made := by
    intro tree mem
    cases inside with
    | none =>
      cases mem
      exact .leaf name _
    | some inner =>
      cases mem
      exact (made inner rfl).captured name

/-- Trees that are written alike are the same, in names, texts, shape and order at every depth, if no name in them
holds a blank or a line feed or is just an underscore. That goes for all leaves and branches and for every tree that a
parse answers. -/
theorem trees_told_apart :
    (∀ tree other : Tree, tree.Made → other.Made → tree.NamedClearly → other.NamedClearly →
      tree.render = other.render → tree = other) ∧
    ∀ (session : Session) (e : Expr) (budget : Nat) (reply : Reply (Option Tree)),
      session.parseWithin budget e = some reply ∨ session.parseAllWithin budget e = some reply →
      ∀ tree, reply.outcome = .ok (some tree) → tree.Made := by
  refine ⟨fun tree other made made' clear clear' => Tree.eq_of_render_eq ⟨made, clear⟩ ⟨made', clear'⟩,
    fun session e budget reply parsed tree succeeded => ?_⟩
  have makes : (run budget .tree session.toEnv e session.state).Ends
      (fun result _ => ∀ tree ∈ result, tree.Made) fun _ _ => True :=
    run_good Builder.tree_keeps_made budget e session.state
  rw [session.parseWithin_eq, session.parseAllWithin_eq] at parsed
  rcases parsed with parsed | parsed
  · exact Session.value_of_ends makes parsed succeeded tree rfl
  · exact Session.value_of_ends (runToEnd_value makes) parsed succeeded tree rfl

/-- A parsed tree of three levels, known by how it is written. -/
theorem sample_told : ∃ reply,
    Session.sample.parseAllWithin 14 .sampleNested = some reply ∧
      reply.outcome = .ok (some (.branch "" [.leaf "a" "a", .branch "n" [.leaf "b" "b", .leaf "b" "b"]])) := by
  have answered : (Session.sample.parseAllWithin 14 .sampleNested).map
      (fun reply => reply.outcome.toOption.map fun result => result.map fun tree =>
        (tree.render, decide tree.NamedClearly)) =
      some (some (some ("_\n  a \"a\"\n  n\n    b \"b\"\n    b \"b\"", true))) := by
    decide +kernel
  obtain ⟨⟨outcome, after, log⟩, parsed, shown⟩ := Option.map_eq_some_iff.mp answered
  rcases outcome with failure | _ | tree
  · cases shown
  · cases shown
  · have leaf (text : String) : (Tree.leaf text text).Made := .leaf text text
    have tails : (Tree.branch "n" [.leaf "b" "b", .leaf "b" "b"]).Made := .branch "n" (by simp [leaf])
    have expected : (Tree.branch "" [.leaf "a" "a", .branch "n" [.leaf "b" "b", .leaf "b" "b"]]).Made :=
      .branch "" (by simp [leaf, tails])
    obtain ⟨written, clear⟩ := Prod.mk.inj (Option.some.inj (Option.some.inj shown))
    obtain ⟨told, made⟩ := trees_told_apart
    have same := told tree _ (made _ _ _ _ (Or.inr parsed) tree rfl) expected (of_decide_eq_true clear)
      (by decide) (written.trans (by decide +kernel))
    exact ⟨_, parsed, congrArg (fun tree => Except.ok (some tree)) same⟩

/-- A tree whose name is an underscore is written like one without a name. -/
example : (Tree.leaf "_" "x").render = (Tree.leaf "" "x").render := by decide

end PegEngine
