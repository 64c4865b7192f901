import PegEngine.Grammar.Basic
import PegEngine.Proofs.Agreement

/-! Checked grammars. The check of a grammar looks at every expression in it once, without a text. It
is enough: all that a run can ever turn to, through references and through what is skipped, is among
these expressions or inside the expression that is matched. So with a checked grammar no match is at
fault, and every failure is a mismatch. -/
namespace PegEngine

/-! ## What the check accepts -/

theorem Except.forM_eq_ok_iff {ε α : Type} (visit : α → Except ε Unit) (l : List α) :
    l.forM visit = .ok () ↔ ∀ a ∈ l, visit a = .ok () := by
  induction l with
  | nil => exact ⟨fun _ => nofun, fun _ => rfl⟩
  | cons a rest ih =>
    rw [List.forall_mem_cons, ← ih]
    change (visit a >>= fun _ => rest.forM visit) = .ok () ↔ _
    cases visited : visit a with
    | ok _ => exact ⟨fun others => ⟨rfl, others⟩, fun both => both.2⟩
    | error broken => simp [bind, Except.bind]

namespace Grammar

variable {grammar : Grammar} {e : Expr}

/-- Everything inside the expression, itself included, has bounds that make sense, and the names of
all references in it are defined. -/
def Accepts (grammar : Grammar) (e : Expr) : Prop :=
  ∀ f ∈ e.preorder,
    f.checkBounds = .ok () ∧ ∀ name, f = .ref name → grammar.definitions.contains name = true

theorem inspect_eq_ok_iff (grammar : Grammar) (e : Expr) :
    grammar.inspect e = .ok () ↔
      e.checkBounds = .ok () ∧ ∀ name, e = .ref name → grammar.definitions.contains name = true := by
  unfold inspect
  cases bounds : e.checkBounds with
  | error broken => simp [bind, Except.bind]
  | ok _ =>
    dsimp only [bind, Except.bind]
    split
    · next name =>
      by_cases defined : grammar.definitions.contains name = true
      · simp [defined, pure, Except.pure]
      · simp [defined]
    · next other => exact ⟨fun _ => ⟨rfl, fun name same => absurd same (other name)⟩, fun _ => rfl⟩

/-- An expression is accepted exactly if inspection finds no fault on a walk through it. -/
theorem walk_eq_ok_iff (grammar : Grammar) (e : Expr) :
    e.walk grammar.inspect = .ok () ↔ grammar.Accepts e := by
  simp only [Expr.walk_eq_forM, Except.forM_eq_ok_iff, inspect_eq_ok_iff, Accepts]

/-- A grammar passes its check exactly if it accepts all its expressions. -/
theorem check_eq_ok_iff (grammar : Grammar) :
    grammar.check = .ok () ↔ ∀ e ∈ grammar.exprs, grammar.Accepts e := by
  rw [check, Expr.walkAll_eq_forM, Except.forM_eq_ok_iff, Expr.preorderAll_eq_flatMap]
  simp only [List.mem_flatMap, forall_exists_index, and_imp, inspect_eq_ok_iff, Accepts]
  exact ⟨fun all e mem f listed => all f e mem listed, fun all f e mem listed => all e mem f listed⟩

theorem Accepts.part (accepted : grammar.Accepts e) {part : Expr} (mem : part ∈ e.parts) :
    grammar.Accepts part := by
  intro f listed
  apply accepted f
  rw [Expr.preorder_eq, Expr.preorderAll_eq_flatMap]
  exact List.mem_cons_of_mem _ (List.mem_flatMap.mpr ⟨part, mem, listed⟩)

theorem Accepts.self (accepted : grammar.Accepts e) :
    e.checkBounds = .ok () ∧ ∀ name, e = .ref name → grammar.definitions.contains name = true :=
  accepted e e.mem_preorder_self

end Grammar

/-! ## Runs of accepted expressions -/

namespace Likeness

variable {α : Type} {env : Env} {grammar : Grammar}

/-- An engine with the definitions of a checked grammar is like itself on what the grammar accepts, and
there is no fault for which that would have to be so. -/
def checked (passed : grammar.check = .ok ()) (definitions_eq : env.definitions = grammar.definitions) :
    Likeness env env where
  covers e := grammar.Accepts e
  cursor := Eq
  skipping k k' := k = k' ∧ ∀ e ∈ k.ignore, grammar.Accepts e
  log _ _ := True
  fault _ _ := False
  excuse _ := False
  covers_part accepted mem := accepted.part mem
  character_eq := (same env).character_eq
  cursor_next := (same env).cursor_next
  position_lt_iff := (same env).position_lt_iff
  active_eq skippings := congrArg Skipping.active skippings.1
  ignore_eq skippings _ := ⟨congrArg Skipping.ignore skippings.1, skippings.2⟩
  suspended := ⟨rfl, fun _ => nofun⟩
  toggle skippings := ⟨congrArg (Skipping.toggle · true) skippings.1, skippings.2⟩
  skipped _ _ _ := trivial
  resolved _ _ _ := trivial
  found _ sought := by
    refine ⟨sought, (grammar.check_eq_ok_iff.mp passed) _ (List.mem_append_left _ ?_)⟩
    exact Definitions.mem_exprs_of_find? (definitions_eq ▸ sought)
  missing accepted sought := by
    have defined := accepted.self.2 _ rfl
    rw [Definitions.contains, ← definitions_eq, sought] at defined
    cases defined
  bounds accepted broken := by
    rw [accepted.self.1] at broken
    cases broken

variable {passed : grammar.check = .ok ()} {definitions_eq : env.definitions = grammar.definitions}

/-- What follows itself without faults mismatches if it fails. -/
theorem Follows.mismatches {value : α → α → Prop} {r : Run α}
    (follows : (checked passed definitions_eq).Follows value r r) :
    r.Ends (fun _ _ => True) fun failure _ => failure.isMismatch = true := by
  cases r with
  | done a t => trivial
  | failed failure t =>
    cases failure with
    | mismatch trail => rfl
    | fault broken =>
      rcases follows with excused | ⟨_, _, _, failures, _⟩
      · exact excused.elim
      · cases failures with
        | fault faults => exact faults.elim
  | exhausted => trivial

end Likeness

open Likeness

/-! ## Sessions -/

namespace Reply

/-- The reply is a success, or its failure is a mismatch. -/
def Faultless {α : Type} (reply : Reply α) : Prop :=
  ∀ failure, reply.outcome = .error failure → failure.isMismatch = true

end Reply

theorem Session.faultless_of_ends {α : Type} {session : Session} {r : Run α} {reply : Reply α}
    (ends : r.Ends (fun _ _ => True) fun failure _ => failure.isMismatch = true)
    (replied : session.reply? r = some reply) : reply.Faultless := by
  rintro failure failed
  obtain ⟨t, rfl, rfl⟩ := session.failed_of_reply? replied failed
  exact ends

/-- With the definitions and the list of ignorable expressions of a checked grammar, a match of an
accepted expression is never at fault, at whatever place of whatever text, skipping or not: every
failure that it answers is a mismatch. -/
theorem checked_matches_faultless {grammar : Grammar} (passed : grammar.check = .ok ())
    (session : Session) (definitions_eq : session.definitions = grammar.definitions)
    (ignore_eq : session.skipping.ignore = grammar.ignore) (e : Expr)
    (accepted : grammar.Accepts e) (budget : Nat) :
    (∀ reply, session.recognizeWithin budget e = some reply → reply.Faultless) ∧
    (∀ reply, session.recognizeAllWithin budget e = some reply → reply.Faultless) ∧
    (∀ reply, session.parseWithin budget e = some reply → reply.Faultless) ∧
    ∀ reply, session.parseAllWithin budget e = some reply → reply.Faultless := by
  have ignorable : ∀ f ∈ session.skipping.ignore, grammar.Accepts f := fun f mem =>
    grammar.check_eq_ok_iff.mp passed f (List.mem_append_right _ (ignore_eq ▸ mem))
  let alike : Likeness session.toEnv session.toEnv := checked passed definitions_eq
  have states : alike.States session.state session.state := ⟨rfl, ⟨rfl, ignorable⟩, trivial⟩
  apply session.forall_replies budget e (P := Reply.Faultless)
  · intro α builder reply replied
    exact Session.faultless_of_ends
      (run_follows (builds_any builder builder) (Nat.le_refl _) accepted states).mismatches replied
  · intro α builder reply replied
    exact Session.faultless_of_ends
      (runToEnd_follows (builds_any builder builder) (Nat.le_refl _) accepted states).mismatches
      replied

/-- A grammar that refers to its one definition both there and in what it skips. -/
def Grammar.sample : Grammar where
  definitions := ⟨[("bs", .seq [.char 'b', .optional (.ref "bs")])], List.pairwise_singleton _ _⟩
  ignore := [.rep 1 3 .space, .seq [.char '-', .ref "bs"]]

/-- A session with the grammar, in the middle of a text and with skipping on. -/
def Session.sampleChecked : Session where
  source := #['a', ' ', 'b', 'b', '-', 'b', 'c']
  definitions := Grammar.sample.definitions
  skipping := ⟨Grammar.sample.ignore, false⟩
  cursor := ⟨some ' ', 1, 0, 1, 0⟩

/-- What an accepted expression fails with is a mismatch, also where it looks ahead. -/
theorem sample_faultless : ∃ reply,
    Session.sampleChecked.parseAllWithin 30 (.seq [.peek (.ref "bs"), .range 'a' 'c']) = some reply ∧
      reply.Faultless := by
  have passed : Grammar.sample.check = .ok () := rfl
  have accepted : Grammar.sample.Accepts (.seq [.peek (.ref "bs"), .range 'a' 'c']) :=
    (Grammar.walk_eq_ok_iff _ _).mp rfl
  have answered : (Session.sampleChecked.parseAllWithin 30
      (.seq [.peek (.ref "bs"), .range 'a' 'c'])).isSome = true := by
    decide
  obtain ⟨reply, replied⟩ := Option.isSome_iff_exists.mp answered
  exact ⟨reply, replied,
    (checked_matches_faultless passed Session.sampleChecked rfl rfl _ accepted 30).2.2.2 reply replied⟩

end PegEngine
