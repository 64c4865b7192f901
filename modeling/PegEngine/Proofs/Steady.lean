import PegEngine.Proofs.Budget

/-! Steady budgets. From the budget that a session gives itself on, more of it changes no run of any
expression that a match may turn to, from any place. So a run with such a budget is one step over runs
with the same budget, and what is known of one budget is known of all that suffice. -/
namespace PegEngine

open Run Likeness

/-- The expressions are closed under all that runs may turn to, and more than this budget changes none of
their runs. -/
structure Steady (env : Env) (ignore exprs : List Expr) (budget : Nat) : Prop where
  closed : Closed env ignore (· ∈ exprs)
  ample : ∀ upper, Suffices env ignore (· ∈ exprs) budget upper
  rounds : env.source.size < budget

namespace Steady

variable {α : Type} {env : Env} {ignore exprs : List Expr} {v : Bool} {budget more : Nat}
  (steady : Steady env ignore exprs budget) {builder : Builder α} {e : Expr} (listed : e ∈ exprs)
  {s : State} (fits : s.Fits env ignore v)
include steady

/-- More budget remains steady. -/
theorem mono (le : budget ≤ more) : Steady env ignore exprs more where
  closed := steady.closed
  ample upper := by
    intro v e s covered fits ended
    have already := isOver_iff.mp (steady.ample upper v e s covered fits ended)
    rw [run_mono le already, isOver_iff]
    exact already
  rounds := Nat.lt_of_lt_of_le steady.rounds le

include listed fits

/-- A run that ends with whatever budget ends so with this one. -/
theorem run_eq {other : Nat} (ended : run other builder env e s ≠ .exhausted) :
    run budget builder env e s = run other builder env e s :=
  run_eq_of_suffices steady.closed (steady.ample other) listed fits ended

theorem run_more (le : budget ≤ more) : run more builder env e s = run budget builder env e s := by
  by_cases ended : run more builder env e s = .exhausted
  · by_contra differs
    rw [ended] at differs
    exact differs ((run_mono le (Ne.symm differs)).symm.trans ended).symm
  · exact (steady.run_eq listed fits ended).symm

/-- A run is one step over runs with the same budget. -/
theorem run_eq_step :
    run budget builder env e s =
      step builder budget (run budget .recognizer env) (run budget builder env) env e s := by
  rw [← steady.run_more listed fits (Nat.le_succ budget)]
  rfl

theorem runToEnd_more (le : budget ≤ more) :
    runToEnd more builder env e s = runToEnd budget builder env e s := by
  by_cases ended : runToEnd more builder env e s = .exhausted
  · by_contra differs
    rw [ended] at differs
    exact differs ((runToEnd_mono le (Ne.symm differs)).symm.trans ended).symm
  · exact (runToEnd_eq_of_suffices steady.closed (steady.ample more) steady.rounds listed fits
      ended).symm

end Steady

/-! ## Sessions -/

namespace Session

variable (session : Session) {e : Expr} {budget : Nat}

theorem steady (enough : session.budget e ≤ budget) :
    Steady session.toEnv session.skipping.ignore (session.reachable e) budget :=
  have own : Steady session.toEnv session.skipping.ignore (session.reachable e) (session.budget e) :=
    { closed := session.closed_reachable e
      ample := session.suffices_budget e
      rounds := by
        rw [Session.budget]
        omega }
  own.mono enough

/-- A session gives itself no larger budget for a part of an expression. -/
theorem budget_le_of_mem_parts {part : Expr} (mem : part ∈ e.parts) :
    session.budget part ≤ session.budget e := by
  have smaller : part.size ≤ e.size := Nat.le_of_lt (Expr.size_lt_of_mem_parts mem)
  have places : 2 * (part.size + Expr.sizeAll session.exprs) * (session.source.size + 1) ≤
      2 * (e.size + Expr.sizeAll session.exprs) * (session.source.size + 1) :=
    Nat.mul_le_mul_right _ (Nat.mul_le_mul_left 2 (Nat.add_le_add_right smaller _))
  exact Nat.add_le_add_right (Nat.add_le_add_right places _) _

variable (marks : session.cursor.Marks session.source) (enough : session.budget e ≤ budget)
include marks enough

/-- With any larger budget the answers are the same. -/
theorem recognizeWithin_of_le : session.recognizeWithin budget e = session.recognize e := by
  rw [recognizeWithin_eq, recognize_eq, (session.steady (Nat.le_refl _)).run_more
    (session.mem_reachable e List.mem_cons_self) (session.state_fits marks) enough]

theorem recognizeAllWithin_of_le : session.recognizeAllWithin budget e = session.recognizeAll e := by
  rw [recognizeAllWithin_eq, recognizeAll_eq, (session.steady (Nat.le_refl _)).runToEnd_more
    (session.mem_reachable e List.mem_cons_self) (session.state_fits marks) enough]

theorem parseWithin_of_le : session.parseWithin budget e = session.parse e := by
  rw [parseWithin_eq, parse_eq, (session.steady (Nat.le_refl _)).run_more
    (session.mem_reachable e List.mem_cons_self) (session.state_fits marks) enough]

theorem parseAllWithin_of_le : session.parseAllWithin budget e = session.parseAll e := by
  rw [parseAllWithin_eq, parseAll_eq, (session.steady (Nat.le_refl _)).runToEnd_more
    (session.mem_reachable e List.mem_cons_self) (session.state_fits marks) enough]

end Session

end PegEngine
