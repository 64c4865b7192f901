import PegEngine.Proofs.Agreement
import PegEngine.Proofs.Harvest

/-! The shape of parsed trees. Groups give up their anonymous members and captures rename or nest what is
inside them, so an anonymous tree never stays below another, and text stays with leaves. What holds of
every value that a builder makes holds of every value that a run comes out with; the invariant of trees is
such a property, and that of the forests that groups collect is what it rests on. -/
namespace PegEngine

namespace Tree

/-- Either there are no children, or there are some and the text is empty. -/
def LeafOrBranch (tree : Tree) : Prop :=
  tree.children = [] ∨ tree.children ≠ [] ∧ tree.value = ""

/-- Nothing below the root is anonymous, and everything, the root included, is a leaf or a branch. -/
structure Canonical (tree : Tree) : Prop where
  named_below : ∀ inner ∈ preorderAll tree.children, inner.isAnonymous = false
  leafOrBranch : ∀ node ∈ preorder tree, node.LeafOrBranch

/-- Every tree in the forest, at whatever depth, has a name and is a leaf or a branch. -/
def Tidy (forest : List Tree) : Prop :=
  ∀ tree ∈ preorderAll forest, tree.isAnonymous = false ∧ tree.LeafOrBranch

theorem leafOrBranch_leaf (name value : String) : (leaf name value).LeafOrBranch :=
  Or.inl rfl

theorem leafOrBranch_branch (name : String) {children : List Tree} (nonempty : children ≠ []) :
    (branch name children).LeafOrBranch :=
  Or.inr ⟨nonempty, rfl⟩

theorem preorder_eq_cons (tree : Tree) : preorder tree = tree :: preorderAll tree.children := by
  cases tree
  rfl

theorem canonical_iff (tree : Tree) :
    tree.Canonical ↔ tree.LeafOrBranch ∧ Tidy tree.children := by
  constructor
  · rintro ⟨named, each⟩
    rw [preorder_eq_cons, List.forall_mem_cons] at each
    exact ⟨each.1, fun inner mem => ⟨named inner mem, each.2 inner mem⟩⟩
  · rintro ⟨root, tidy⟩
    refine ⟨fun inner mem => (tidy inner mem).1, ?_⟩
    rw [preorder_eq_cons, List.forall_mem_cons]
    exact ⟨root, fun inner mem => (tidy inner mem).2⟩

/-! ## Forests -/

theorem tidy_nil : Tidy [] :=
  nofun

theorem tidy_append {left right : List Tree} (leftTidy : Tidy left) (rightTidy : Tidy right) :
    Tidy (left ++ right) := by
  intro tree mem
  rw [preorderAll_append, List.mem_append] at mem
  exact mem.elim (leftTidy tree) (rightTidy tree)

theorem tidy_singleton_iff (tree : Tree) :
    Tidy [tree] ↔ tree.isAnonymous = false ∧ tree.Canonical := by
  rw [Tidy, preorderAll_singleton, List.forall_mem_cons, canonical_iff, and_assoc]
  rfl

/-- What a canonical tree adds to a group is tidy: an anonymous root stays behind. -/
theorem tidy_contribution {result : Option Tree} (canonical : ∀ tree ∈ result, tree.Canonical) :
    Tidy (contribution result) := by
  cases result with
  | none => exact tidy_nil
  | some tree =>
    have here := canonical tree rfl
    rw [contribution]
    split
    · exact ((canonical_iff tree).mp here).2
    · next named => exact (tidy_singleton_iff tree).mpr ⟨Bool.eq_false_iff.mpr named, here⟩

theorem tidy_contributions {results : List (Option Tree)}
    (canonical : ∀ result ∈ results, ∀ tree ∈ result, tree.Canonical) :
    Tidy (results.flatMap contribution) := by
  induction results with
  | nil => exact tidy_nil
  | cons result rest ih =>
    obtain ⟨here, others⟩ := List.forall_mem_cons.mp canonical
    rw [List.flatMap_cons]
    exact tidy_append (tidy_contribution here) (ih others)

/-! ## Trees that groups and captures make -/

/-- A tidy forest becomes its only tree, which has a name, or an anonymous tree over at least two. -/
theorem Tidy.ofForest {forest : List Tree} (tidy : Tidy forest) :
    ∀ tree ∈ ofForest forest,
      tree.Canonical ∧ (tree.isAnonymous = false ∨ 2 ≤ tree.children.length) := by
  intro tree made
  match forest with
  | [] => cases made
  | [only] =>
    cases made
    obtain ⟨named, canonical⟩ := (tidy_singleton_iff tree).mp tidy
    exact ⟨canonical, Or.inl named⟩
  | first :: second :: rest =>
    cases made
    refine ⟨(canonical_iff _).mpr ⟨leafOrBranch_branch "" (List.cons_ne_nil _ _), tidy⟩, Or.inr ?_⟩
    exact Nat.le_add_left 2 rest.length

theorem Canonical.captured {tree : Tree} (canonical : tree.Canonical) (name : String) :
    (tree.captured name).Canonical := by
  rw [Tree.captured]
  split
  · exact (canonical_iff _).mpr ((canonical_iff tree).mp canonical)
  · next named =>
    rw [canonical_iff]
    exact ⟨leafOrBranch_branch name (List.cons_ne_nil _ _),
      (tidy_singleton_iff tree).mpr ⟨Bool.eq_false_iff.mpr named, canonical⟩⟩

end Tree

/-! ## Builders that keep a property of their values -/

namespace Builder

variable {α : Type}

/-- The builder makes good values of good ones. -/
structure Keeps (builder : Builder α) (good : α → Prop) : Prop where
  gather : ∀ members stop, (∀ a ∈ members, good a) → good (builder.gather members stop)
  capture : ∀ name source span a, good a → good (builder.capture name source span a)

theorem tree_keeps_canonical : tree.Keeps fun result => ∀ tree ∈ result, tree.Canonical where
  gather members _ canonical := fun made mem =>
    ((Tree.tidy_contributions canonical).ofForest made mem).1
  capture name source span inside canonical := by
    intro made mem
    cases inside with
    | none =>
      cases mem
      exact (Tree.canonical_iff _).mpr ⟨Tree.leafOrBranch_leaf name _, Tree.tidy_nil⟩
    | some inner =>
      cases mem
      exact (canonical inner rfl).captured name

end Builder

namespace Expr

/-- The value of the expression is gathered from those of its members. -/
def isGroup : Expr → Bool
  | seq _ | rep _ _ _ => true
  | char _ | literal _ | choice _ | optional _ | not _ | peek _ | capture _ _ | any | anyBut _
  | range _ _ | eof | eol | space | ref _ | verbatim _ => false

end Expr

open Likeness Run

namespace Likeness

variable {α β : Type} {env env' : Env} {alike : Likeness env env'}

/-- What corresponding values say of those of the first run holds of the value of this run. -/
theorem Follows.left {value : α → β → Prop} {good : α → Prop} {r : Run α} {r' : Run β}
    (follows : alike.Follows value r r') (implies : ∀ a b, value a b → good a) :
    r.Ends (fun a _ => good a) fun _ _ => True := by
  cases r with
  | done a s =>
    obtain ⟨b, _, _, valued, _⟩ := follows
    exact implies a b valued
  | failed f s => trivial
  | exhausted => trivial

end Likeness

section Good

variable {α : Type} {env : Env} {builder : Builder α} {good : α → Prop} (keeps : builder.Keeps good)
include keeps

theorem builds_good : (same env).Builds builder builder fun a b => good a ∧ a = b where
  gather := by
    rintro members members' c _ memberwise rfl
    rw [List.forall₂_and_left, List.forall₂_eq_eq_eq] at memberwise
    obtain ⟨all, rfl⟩ := memberwise
    exact ⟨keeps.gather members c all, rfl⟩
  capture := by
    rintro name a _ c _ d _ ⟨here, rfl⟩ rfl rfl
    exact ⟨keeps.capture name env.source _ a here, rfl⟩

/-- A run comes out with a good value. -/
theorem run_good (budget : Nat) (e : Expr) (s : State) :
    (run budget builder env e s).Ends (fun a _ => good a) fun _ _ => True :=
  (run_follows (builds_good keeps) (Nat.le_refl budget) trivial (states_same s)).left
    fun _ _ => And.left

/-- A run of a group comes out with a value gathered from good ones. -/
theorem run_gathered (budget : Nat) {e : Expr} (group : e.isGroup = true) (s : State) :
    (run budget builder env e s).Ends
      (fun a t => ∃ members, (∀ m ∈ members, good m) ∧ a = builder.gather members t.cursor)
      fun _ _ => True := by
  cases budget with
  | zero => trivial
  | succ budget =>
    have bodyFollows (f : Expr) (t t' : State) (states : (same env).States t t') :
        (same env).Follows (fun a b => good a ∧ a = b) (run budget builder env f t)
          (run budget builder env f t') :=
      run_follows (builds_good keeps) (Nat.le_refl budget) trivial states
    have closes {r : Run (List α)}
        (follows : (same env).Follows (List.Forall₂ fun a b => good a ∧ a = b) r r) :
        (r.andThen builder.close).Ends
          (fun a t => ∃ members, (∀ m ∈ members, good m) ∧ a = builder.gather members t.cursor)
          fun _ _ => True :=
      (follows.left fun _ _ memberwise => ((List.forall₂_and_left _ _).mp memberwise).1).andThen
        fun members _ all => ⟨members, all, rfl⟩
    refine Ends.orReturnTo ((ends_anyhow _).andThen fun _ t _ => ?_) fun _ _ _ => trivial
    cases e with
    | seq items =>
      exact closes (sequence_follows (fun f _ => bodyFollows f) _ rfl (fun _ _ => trivial) .nil
        (states_same t))
    | rep min max body =>
      refine (ends_anyhow _).andThen fun _ u _ => closes ?_
      exact repetition_follows (bodyFollows body) _ min max rfl (Nat.le_refl _) 0 .nil (states_same u)
    | _ => cases group

end Good

/-! ## Sessions -/

theorem runToEnd_value {α : Type} {budget : Nat} {builder : Builder α} {env : Env} {e : Expr}
    {s : State} {good : α → Prop}
    (ends : (run budget builder env e s).Ends (fun a _ => good a) fun _ _ => True) :
    (runToEnd budget builder env e s).Ends (fun a _ => good a) fun _ _ => True := by
  exact ends.andThen fun a t here => (ends_anyhow _).map fun _ _ _ => here

theorem Session.value_of_ends {α : Type} {session : Session} {r : Run α} {reply : Reply α}
    {good : α → Prop} (ends : r.Ends (fun a _ => good a) fun _ _ => True)
    (replied : session.reply? r = some reply) {a : α} (succeeded : reply.outcome = .ok a) :
    good a := by
  obtain ⟨t, rfl, rfl⟩ := session.done_of_reply? replied succeeded
  exact ends

/-- A tree that a parse answers is canonical: nothing below its root is anonymous, and everything in it
is a leaf, or a branch with children and without a text of its own. The tree of a sequence or of a
repetition has a name or is an anonymous one over at least two. -/
theorem trees_canonical (session : Session) (e : Expr) (budget : Nat) (reply : Reply (Option Tree))
    (parsed : session.parseWithin budget e = some reply ∨
      session.parseAllWithin budget e = some reply)
    (tree : Tree) (succeeded : reply.outcome = .ok (some tree)) :
    tree.Canonical ∧
      (e.isGroup = true → tree.isAnonymous = false ∨ 2 ≤ tree.children.length) := by
  have value (good : Option Tree → Prop)
      (ends : (run budget .tree session.toEnv e session.state).Ends (fun a _ => good a)
        fun _ _ => True) : good (some tree) := by
    rw [session.parseWithin_eq, session.parseAllWithin_eq] at parsed
    rcases parsed with parsed | parsed
    · exact Session.value_of_ends ends parsed succeeded
    · exact Session.value_of_ends (runToEnd_value ends) parsed succeeded
  have keeps := Builder.tree_keeps_canonical
  constructor
  · exact value _ (run_good keeps budget e session.state) tree rfl
  · intro group
    obtain ⟨members, canonical, made⟩ := value
      (fun result => ∃ members, (∀ m ∈ members, ∀ inner ∈ m, inner.Canonical) ∧
        result = Tree.gather members) (run_gathered keeps budget group session.state)
    exact ((Tree.tidy_contributions canonical).ofForest tree made.symm).2

/-- Captures without a name around others and inside them. -/
def Expr.sampleNested : Expr :=
  .seq [.capture "" (.capture "a" (.char 'a')),
    .optional (.capture "" (.capture "n" (.capture "" (.plus (.capture "b" (.char 'b'))))))]

/-- The root keeps the only anonymous tree, over two that have names. -/
theorem sample_canonical : ∃ reply tree,
    Session.sample.parseAllWithin 14 .sampleNested = some reply ∧
      reply.outcome = .ok (some tree) ∧ Tree.names [tree] = ["a", "n", "b", "b"] ∧
      tree.Canonical ∧ (tree.isAnonymous = false ∨ 2 ≤ tree.children.length) := by
  have answered : (Session.sample.parseAllWithin 14 .sampleNested).map
      (fun reply => reply.outcome.toOption.map fun result =>
        (result.isSome, Tree.names result.toList)) =
      some (some (true, ["a", "n", "b", "b"])) := by
    decide +kernel
  obtain ⟨⟨outcome, after, log⟩, parsed, shown⟩ := Option.map_eq_some_iff.mp answered
  rcases outcome with failure | _ | tree
  · cases shown
  · cases shown
  · obtain ⟨canonical, grouped⟩ := trees_canonical Session.sample .sampleNested 14 _
      (Or.inr parsed) tree rfl
    exact ⟨_, tree, parsed, rfl, congrArg Prod.snd (Option.some.inj shown), canonical,
      grouped rfl⟩

end PegEngine
