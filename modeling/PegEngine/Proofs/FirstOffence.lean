import PegEngine.Proofs.Checked

/-! The first offence. A walk through an expression calls its visitor on all that occurs in it, each expression
before its parts, up to and including the first that the visitor rejects. So the check of a grammar passes exactly
if nothing in the grammar offends, and otherwise tells of the first offence in the order of the names. In what
order the names were defined, and as what before, does not show. -/
namespace PegEngine

/-! ## Occurrences -/

namespace Expr

/-- The second expression occurs in the first: it is the first, or it occurs in one of its parts. -/
inductive Holds : Expr → Expr → Prop where
  | self {e} : Holds e e
  | inside {e part f} : part ∈ e.parts → Holds part f → Holds e f

theorem holds_of_mem_preorder {e f : Expr} (listed : f ∈ e.preorder) : e.Holds f := by
  rw [preorder_eq, List.mem_cons, preorderAll_eq_flatMap, List.mem_flatMap] at listed
  rcases listed with rfl | ⟨part, mem, within⟩
  · exact .self
  · have smaller := size_lt_of_mem_parts mem
    exact .inside mem (holds_of_mem_preorder within)
termination_by e.size

/-- The listing of an expression lists what occurs in it. -/
theorem mem_preorder_iff {e f : Expr} : f ∈ e.preorder ↔ e.Holds f := by
  refine ⟨holds_of_mem_preorder, fun holds => ?_⟩
  induction holds with
  | self => exact mem_preorder_self _
  | inside mem _ ih =>
    rw [preorder_eq, List.mem_cons, preorderAll_eq_flatMap, List.mem_flatMap]
    exact Or.inr ⟨_, mem, ih⟩

end Expr

/-! ## Visits -/

section Visits

variable {ε σ : Type}

/-- Calls of a visitor that changes a state, one after the other. Each call begins in the state that the one before
it left, and the first that is rejected is the last one. -/
inductive Visits (visit : Expr → ExceptT ε (StateM σ) Unit) :
    List Expr → σ → Except ε Unit → σ → Prop where
  | nil {s} : Visits visit [] s (.ok ()) s
  | rejected {e s broken t} : (visit e).run.run s = (.error broken, t) →
      Visits visit [e] s (.error broken) t
  | accepted {e rest s t outcome u} : (visit e).run.run s = (.ok (), t) →
      Visits visit rest t outcome u → Visits visit (e :: rest) s outcome u

/-- A visitor is called on the expressions of a list in order, and on none behind the first that it rejects. -/
theorem forM_visits (visit : Expr → ExceptT ε (StateM σ) Unit) (es : List Expr) (s : σ) :
    ∃ calls behind outcome t, es = calls ++ behind ∧ (es.forM visit).run.run s = (outcome, t) ∧
      Visits visit calls s outcome t ∧ (outcome = .ok () → behind = []) := by
  induction es generalizing s with
  | nil => exact ⟨[], [], .ok (), s, rfl, rfl, .nil, fun _ => rfl⟩
  | cons e rest ih =>
    have first : ((e :: rest).forM visit).run.run s =
        ((visit e >>= fun _ => rest.forM visit).run.run s) := rfl
    rw [ExceptT.run_bind, StateT.run_bind] at first
    rcases visited : (visit e).run.run s with ⟨broken | accepted, t⟩
    · rw [visited] at first
      exact ⟨[e], rest, .error broken, t, rfl, first, .rejected visited, nofun⟩
    · rw [visited] at first
      obtain ⟨calls, behind, outcome, u, split, ran, visits, all⟩ := ih t
      exact ⟨e :: calls, behind, outcome, u, congrArg (e :: ·) split, first.trans ran,
        .accepted visited visits, all⟩

end Visits

/-- A list is gone through up to the first error that is met in it. -/
theorem Except.forM_eq_error_iff {ε α : Type} (visit : α → Except ε Unit) (l : List α) (broken : ε) :
    l.forM visit = .error broken ↔ ∃ before a behind, l = before ++ a :: behind ∧
      (∀ b ∈ before, visit b = .ok ()) ∧ visit a = .error broken := by
  induction l with
  | nil =>
    constructor
    · intro failed
      cases failed
    · rintro ⟨before, a, behind, split, _⟩
      exact absurd split.symm (List.append_ne_nil_of_right_ne_nil before (List.cons_ne_nil a behind))
  | cons a rest ih =>
    change (visit a >>= fun _ => rest.forM visit) = .error broken ↔ _
    cases visited : visit a with
    | error first =>
      constructor
      · intro failed
        exact ⟨[], a, rest, rfl, List.forall_mem_nil _, visited.trans failed⟩
      · rintro ⟨before, b, behind, split, accepted, failed⟩
        cases before with
        | nil =>
          obtain ⟨rfl, rfl⟩ := List.cons.inj split
          exact visited.symm.trans failed
        | cons c before =>
          obtain ⟨rfl, _⟩ := List.cons.inj split
          rw [accepted a List.mem_cons_self] at visited
          cases visited
    | ok _ =>
      refine ih.trans ⟨?_, ?_⟩
      · rintro ⟨before, b, behind, rfl, accepted, failed⟩
        exact ⟨a :: before, b, behind, rfl, List.forall_mem_cons.mpr ⟨visited, accepted⟩, failed⟩
      · rintro ⟨before, b, behind, split, accepted, failed⟩
        cases before with
        | nil =>
          obtain ⟨rfl, rfl⟩ := List.cons.inj split
          rw [visited] at failed
          cases failed
        | cons c before =>
          obtain ⟨rfl, rfl⟩ := List.cons.inj split
          exact ⟨before, b, behind, rfl, (List.forall_mem_cons.mp accepted).2, failed⟩

/-! ## Definitions made in any order -/

namespace Definitions

/-- The entries are the names that are defined, each with its definition. -/
theorem mem_entries_iff (defs : Definitions) (name : String) (e : Expr) :
    (name, e) ∈ defs.entries ↔ defs.find? name = some e :=
  ⟨fun mem => lookup_eq_some_of_mem defs.sorted mem, mem_of_lookup_eq_some⟩

theorem mem_exprs_iff (defs : Definitions) (e : Expr) :
    e ∈ defs.exprs ↔ ∃ name, defs.find? name = some e := by
  simp [exprs, ← mem_entries_iff]

/-- Of definitions made one after the other, the last one of a name stays. -/
theorem find?_ofList (entries : List (String × Expr)) (name : String) :
    (ofList entries).find? name = lookup name entries.reverse := by
  rw [ofList, ← List.foldr_reverse]
  induction entries.reverse with
  | nil => rfl
  | cons entry rest ih => rw [List.foldr_cons, find?_insert, lookup, ih]

end Definitions

/-! ## Offences -/

namespace Grammar

/-- What is wrong with an expression itself in a grammar: its bounds, or that it refers to a name that has no
definition. -/
inductive Offends (grammar : Grammar) : Expr → Fault → Prop where
  | bounds {e why} : e.boundsFault? = some why → Offends grammar e (.bounds e why)
  | undefined {name} : grammar.definitions.find? name = none →
      Offends grammar (.ref name) (.undefined name)

variable {grammar : Grammar}

theorem inspect_eq_error_iff (grammar : Grammar) (e : Expr) (fault : Fault) :
    grammar.inspect e = .error fault ↔ grammar.Offends e fault := by
  cases wrong : e.boundsFault? with
  | some why =>
    have failed : grammar.inspect e = .error (.bounds e why) := by
      unfold inspect Expr.checkBounds
      rw [wrong]
      rfl
    rw [failed, Except.error.injEq]
    constructor
    · rintro rfl
      exact .bounds wrong
    · intro offends
      cases offends with
      | bounds found => rw [Option.some.inj (wrong.symm.trans found)]
      | undefined _ => cases wrong
  | none =>
    have bounded : e.checkBounds = .ok () := by rw [Expr.checkBounds, wrong]
    constructor
    · intro failed
      unfold inspect at failed
      rw [bounded] at failed
      dsimp only [bind, Except.bind] at failed
      split at failed
      · next name =>
        split at failed
        · cases failed
        · next missing =>
          cases failed
          exact .undefined (by simpa [Definitions.contains] using missing)
      · cases failed
    · intro offends
      cases offends with
      | bounds found => cases wrong.symm.trans found
      | undefined missing =>
        unfold inspect
        rw [bounded]
        simp [bind, Except.bind, Definitions.contains, missing]

/-- Inspection passes what does not offend. -/
theorem inspect_eq_ok_iff_not_offends (grammar : Grammar) (e : Expr) :
    grammar.inspect e = .ok () ↔ ∀ fault, ¬grammar.Offends e fault := by
  simp only [← inspect_eq_error_iff]
  cases grammar.inspect e with
  | ok _ => exact ⟨fun _ _ => nofun, fun _ => rfl⟩
  | error fault => exact ⟨nofun, fun never => absurd rfl (never fault)⟩

/-- A check that fails tells of the first offence that the listings of all expressions have. -/
theorem check_eq_error_iff (grammar : Grammar) (fault : Fault) :
    grammar.check = .error fault ↔
      ∃ before f behind, grammar.exprs.flatMap Expr.preorder = before ++ f :: behind ∧
        (∀ g ∈ before, ∀ why, ¬grammar.Offends g why) ∧ grammar.Offends f fault := by
  rw [check, Expr.walkAll_eq_forM, Except.forM_eq_error_iff, Expr.preorderAll_eq_flatMap]
  simp only [inspect_eq_ok_iff_not_offends, inspect_eq_error_iff]

end Grammar

/-- The check of a grammar is exact: it passes if everything that occurs in a definition, or in what may be skipped,
has bounds that make sense and refers to names that are defined. Otherwise it tells of the first offence, with the
definitions in the order of their names, before what may be skipped, and each expression before its parts. So it
makes no difference in what order names were defined, or as what before. And any visitor that walks through an
expression is called on the listing of what occurs in it, up to and including the first that it rejects, and the
walk ends with that rejection. -/
theorem check_tells_first (grammar : Grammar) :
    (grammar.check = .ok () ↔
      ∀ e, ((∃ name, grammar.definitions.find? name = some e) ∨ e ∈ grammar.ignore) →
        ∀ f, e.Holds f → f.checkBounds = .ok () ∧
          ∀ name, f = .ref name → ∃ target, grammar.definitions.find? name = some target) ∧
    (∃ entries : List (String × Expr), entries.Pairwise (fun a b => a.1.toList < b.1.toList) ∧
      (∀ name e, (name, e) ∈ entries ↔ grammar.definitions.find? name = some e) ∧
      ∀ fault, grammar.check = .error fault ↔
        ∃ before f behind,
          (entries.map (·.2) ++ grammar.ignore).flatMap Expr.preorder = before ++ f :: behind ∧
          (∀ g ∈ before, ∀ why, ¬grammar.Offends g why) ∧ grammar.Offends f fault) ∧
    (∀ made : List (String × Expr),
      (∀ name, Definitions.lookup name made.reverse = grammar.definitions.find? name) →
      Grammar.check ⟨.ofList made, grammar.ignore⟩ = grammar.check) ∧
    ∀ {ε σ : Type} (visit : Expr → ExceptT ε (StateM σ) Unit) (e : Expr) (s : σ),
      ∃ calls behind outcome t, e.preorder = calls ++ behind ∧
        (e.walk visit).run.run s = (outcome, t) ∧ Visits visit calls s outcome t ∧
        (outcome = .ok () → behind = []) := by
  refine ⟨?_, ⟨grammar.definitions.entries, ?_, ?_, ?_⟩, fun made same => ?_, fun visit e s => ?_⟩
  · rw [grammar.check_eq_ok_iff]
    simp only [Grammar.exprs, List.mem_append, Definitions.mem_exprs_iff, Grammar.Accepts,
      Expr.mem_preorder_iff, Definitions.contains, Option.isSome_iff_exists]
  · exact grammar.definitions.sorted.imp fun less => String.lt_iff.mp less
  · exact grammar.definitions.mem_entries_iff
  · exact grammar.check_eq_error_iff
  · have definitions : Definitions.ofList made = grammar.definitions :=
      Definitions.ext_find? fun name => (Definitions.find?_ofList made name).trans (same name)
    rw [definitions]
  · rw [Expr.walk_eq_forM]
    exact forM_visits visit e.preorder s

/-- A grammar with two offences in its definitions, of which the one with the later name was made first. -/
def Grammar.sampleFaulty : Grammar where
  definitions := .ofList [("b", .ref "c"), ("a", .seq [.any, .range '9' '0'])]
  ignore := [.ref "d"]

/-- Made the other way round, and one name twice, the definitions have the same first offence. -/
theorem sampleFaulty_first :
    (∀ name, Definitions.lookup name
        [("a", .any), ("a", .seq [.any, .range '9' '0']), ("b", .ref "c")].reverse =
      Grammar.sampleFaulty.definitions.find? name) ∧
    Grammar.check ⟨.ofList [("a", .any), ("a", .seq [.any, .range '9' '0']), ("b", .ref "c")],
      [.ref "d"]⟩ = .error (.bounds (.range '9' '0') .emptyRange) := by
  have same (name : String) : Definitions.lookup name
      [("a", .any), ("a", .seq [.any, .range '9' '0']), ("b", .ref "c")].reverse =
      Grammar.sampleFaulty.definitions.find? name := by
    by_cases first : name = "a"
    · subst first
      rfl
    · by_cases second : name = "b"
      · subst second
        rfl
      · simp [Grammar.sampleFaulty, Definitions.find?_ofList, Definitions.lookup, first, second]
  obtain ⟨_, _, remade, _⟩ := check_tells_first Grammar.sampleFaulty
  exact ⟨same, (remade _ same).trans rfl⟩

end PegEngine
