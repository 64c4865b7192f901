import PegEngine.Proofs.Canonical
import PegEngine.Proofs.Concurrence

/-! How sequences and choices are grouped makes no difference. A group inside a sequence is one member of it,
and hands on, in one tree, what its members would have handed on themselves: trees in a forest have names, so
the anonymous tree over them is told apart from each of them. -/
namespace PegEngine

open Run Likeness

/-! ## What a failure started with -/

namespace Failure

/-- The mismatch that started it, or the fault. -/
def root : Failure → Mismatch ⊕ Fault
  | mismatch trail => .inl trail.innermost
  | fault broken => .inr broken

@[simp] theorem root_within (failure : Failure) (context : Mismatch) :
    (failure.within context).root = failure.root := by
  cases failure with
  | mismatch trail => rfl
  | fault broken => rfl

/-- Both started with the same mismatch, or both are the same fault. -/
def SameRoot (failure failure' : Failure) : Prop :=
  failure.root = failure'.root

theorem SameRoot.within {failure failure' : Failure} (same : failure.SameRoot failure')
    (context context' : Mismatch) : (failure.within context).SameRoot (failure'.within context') := by
  rw [SameRoot, root_within, root_within]
  exact same

end Failure

/-! ## Forests -/

namespace Tree

/-- A group hands on the forest that it was made of. -/
theorem contribution_ofForest {forest : List Tree} (tidy : Tidy forest) :
    contribution (ofForest forest) = forest := by
  match forest with
  | [] => rfl
  | [only] =>
    have named := ((tidy_singleton_iff only).mp tidy).1
    rw [ofForest, contribution, named]
    rfl
  | first :: second :: rest => rfl

/-- The results hand on the same forest. -/
def SameForest (results results' : List (Option Tree)) : Prop :=
  results.flatMap contribution = results'.flatMap contribution

theorem SameForest.append_right {results results' : List (Option Tree)}
    (same : SameForest results results') (after : List (Option Tree)) :
    SameForest (results ++ after) (results' ++ after) := by
  rw [SameForest, List.flatMap_append, List.flatMap_append, same]

theorem SameForest.append_left {results results' : List (Option Tree)}
    (same : SameForest results results') (before : List (Option Tree)) :
    SameForest (before ++ results) (before ++ results') := by
  rw [SameForest, List.flatMap_append, List.flatMap_append, same]

/-- Canonical results hand on the same forest as the group that they are gathered in. -/
theorem sameForest_gather {results : List (Option Tree)}
    (canonical : ∀ result ∈ results, ∀ tree ∈ result, tree.Canonical) :
    SameForest [gather results] results := by
  rw [SameForest, List.flatMap_singleton, gather, contribution_ofForest (tidy_contributions canonical)]

end Tree

/-! ## Sequences -/

section Sequences

variable {α : Type} {env : Env} {budget : Nat} {builder : Builder α} {s s' : State}
  {related : List α → List α → Prop} {values values' : List α}

/-- A sequence in two parts. -/
theorem sequence_append (item : Expr → State → Run α) (pattern : Expr) (start : Cursor)
    (es fs : List Expr) (values : List α) (s : State) :
    Run.sequence item pattern start (es ++ fs) values s =
      (Run.sequence item pattern start es values s).andThen fun members t =>
        Run.sequence item pattern start fs members.reverse t := by
  induction es generalizing values s with
  | nil => rw [List.nil_append, Run.sequence, andThen_done, List.reverse_reverse]
  | cons e rest ih =>
    rw [List.cons_append, Run.sequence, Run.sequence]
    cases item e s with
    | done a t => exact ih _ _
    | failed failure t => rfl
    | exhausted => rfl

section Members

variable (grows : ∀ members members' a, related members members' →
    related (members ++ [a]) (members' ++ [a]))
  (pattern pattern' : Expr) (start start' : Cursor) {e : Expr} (rest es : List Expr)
  (before : related values.reverse values'.reverse)

/-- Where the first members do the same, and the others do from there, sequences concur. -/
theorem sequence_cons_concur {c : Cursor}
    (head : (run budget builder env e s).Concur Eq Eq ((run budget builder env e s').orReturnTo c))
    (tail : ∀ a t t', t.Beside t' →
      (Run.sequence (run budget builder env) pattern start rest (a :: values) t).Concur related
        Failure.SameRoot
        ((Run.sequence (run budget builder env) pattern' start' rest (a :: values') t').orReturnTo
          start)) :
    (Run.sequence (run budget builder env) pattern start (e :: rest) values s).Concur related
      Failure.SameRoot
      ((Run.sequence (run budget builder env) pattern' start' (e :: rest) values' s').orReturnTo
        start) := by
  rw [Run.sequence, Run.sequence]
  cases ran : run budget builder env e s' with
  | done a t =>
    rw [ran, orReturnTo_done] at head
    obtain ⟨_, t', ran', rfl, beside⟩ := head.eq_done
    rw [ran']
    exact tail _ t' t beside
  | failed failure t =>
    rw [ran, orReturnTo_failed] at head
    obtain ⟨_, t', ran', rfl, beside⟩ := head.eq_failed
    rw [ran']
    exact .failed (.within rfl _ _) (beside.moveTo start)
  | exhausted =>
    rw [ran, orReturnTo_exhausted] at head
    rw [head.eq_exhausted]
    exact .exhausted

include grows before

/-- Sequences of the same members concur, whatever stands around them and was put together before. -/
theorem sequence_concur (beside : s.Beside s') :
    (Run.sequence (run budget builder env) pattern start es values s).Concur related Failure.SameRoot
      ((Run.sequence (run budget builder env) pattern' start' es values' s').orReturnTo start) := by
  induction es generalizing values values' s s' with
  | nil => exact .done before beside
  | cons e rest ih =>
    have head := run_beside budget builder env e beside
    rw [← (run_settles budget (rightFor_any builder) env e s').orReturnTo_eq] at head
    refine sequence_cons_concur pattern pattern' start start' rest head fun a t t' beside => ?_
    refine ih ?_ beside
    rw [List.reverse_cons, List.reverse_cons]
    exact grows _ _ a before

theorem sequence_beside (beside : s.Beside s') :
    (Run.sequence (run budget builder env) pattern start es values s).Concur related Failure.SameRoot
      (Run.sequence (run budget builder env) pattern' start es values' s') := by
  have concur : (Run.sequence (run budget builder env) pattern start es values s).Concur _ _ _ :=
    sequence_concur grows pattern pattern' start start es before beside
  rwa [(sequence_settles (fun e t => run_settles budget (rightFor_any builder) env e t) pattern' es
    values' s').orReturnTo_eq] at concur

/-- A sequence may as well begin where skipping leads. -/
theorem Steady.sequence_skipped {ignore exprs : List Expr} {v : Bool}
    (steady : Steady env ignore exprs budget) (listed : e ∈ exprs) (fits : s.Fits env ignore v)
    (skipped : skip budget (run budget .recognizer env) s = .done () s') :
    (Run.sequence (run budget builder env) pattern start (e :: rest) values s).Concur related
      Failure.SameRoot
      ((Run.sequence (run budget builder env) pattern' start' (e :: rest) values' s').orReturnTo
        start) := by
  have head := steady.run_skipped builder listed fits skipped
  refine sequence_cons_concur pattern pattern' start start' rest head fun a t t' beside => ?_
  refine sequence_concur grows pattern pattern' start start' rest ?_ beside
  rw [List.reverse_cons, List.reverse_cons]
  exact grows _ _ a before

end Members

theorem sequence_fits {ignore : List Expr} {v : Bool} (fits : s.Fits env ignore v) (budget : Nat)
    (builder : Builder α) (pattern : Expr) (start : Cursor) (es : List Expr) (values : List α) :
    (Run.sequence (run budget builder env) pattern start es values s).Ends
      (fun _ t => t.Fits env ignore v) fun _ _ => True := by
  induction es generalizing values s with
  | nil => exact fits
  | cons e rest ih =>
    have goes := run_goes fits budget builder e
    rw [Run.sequence]
    cases ran : run budget builder env e s with
    | done a t =>
      rw [ran] at goes
      exact ih goes.1 _
    | failed failure t => trivial
    | exhausted => trivial

/-- What is good of every value is good of those that a sequence puts together. -/
theorem sequence_good {good : α → Prop} (keeps : builder.Keeps good) (budget : Nat) (env : Env)
    (pattern : Expr) (start : Cursor) (es : List Expr) (s : State) :
    (Run.sequence (run budget builder env) pattern start es [] s).Ends
      (fun members _ => ∀ a ∈ members, good a) fun _ _ => True := by
  have itemFollows (e : Expr) (t t' : State) (states : (same env).States t t') :
      (same env).Follows (fun a b => good a ∧ a = b) (run budget builder env e t)
        (run budget builder env e t') :=
    run_follows (builds_good keeps) (Nat.le_refl budget) trivial states
  exact (sequence_follows (fun e _ => itemFollows e) pattern rfl (fun _ _ => trivial) .nil
    (states_same s)).left fun _ _ memberwise => ((List.forall₂_and_left _ _).mp memberwise).1

end Sequences

namespace Steady

variable {env : Env} {ignore exprs : List Expr} {v : Bool} {budget : Nat} {s t : State}
  (steady : Steady env ignore exprs budget)
include steady

/-- A group inside a sequence hands on the same forest as its members. -/
theorem sequence_group {es : List Expr} (nonempty : es ≠ []) (listed : .seq es ∈ exprs)
    (fits : s.Fits env ignore v) (pattern pattern' : Expr) (start : Cursor)
    (values : List (Option Tree)) :
    (Run.sequence (run budget .tree env) pattern start [.seq es] values s).Concur Tree.SameForest
      Failure.SameRoot (Run.sequence (run budget .tree env) pattern' start es values s) := by
  obtain ⟨e, rest, rfl⟩ := List.exists_cons_of_ne_nil nonempty
  have inside : e ∈ exprs := steady.closed.part listed List.mem_cons_self
  rw [Run.sequence, steady.run_eq_step listed fits, step]
  cases skipped : skip budget (run budget .recognizer env) s with
  | done _ t =>
    have good := sequence_good Builder.tree_keeps_canonical budget env (.seq (e :: rest)) t.cursor
      (e :: rest) t
    -- The group skips, and then its first member does again, where nothing is left to skip. Without the
    -- group it is the first member that skips.
    have members : (Run.sequence (run budget .tree env) pattern' start (e :: rest) values s).Concur
        (fun results results' => results = values.reverse ++ results') Failure.SameRoot
        ((Run.sequence (run budget .tree env) (.seq (e :: rest)) t.cursor (e :: rest) [] t).orReturnTo
          start) :=
      steady.sequence_skipped (fun _ _ a same => by rw [same, List.append_assoc]) pattern'
        (.seq (e :: rest)) start t.cursor rest (List.append_nil _).symm inside fits skipped
    rw [andThen_done, dispatch]
    cases ran : Run.sequence (run budget .tree env) (.seq (e :: rest)) t.cursor (e :: rest) [] t with
    | done results u =>
      rw [ran] at good
      rw [ran, orReturnTo_done] at members
      obtain ⟨_, u', ran', rfl, beside⟩ := members.eq_done
      rw [ran']
      refine .done ?_ beside.symm
      rw [List.reverse_cons]
      exact (Tree.sameForest_gather good).append_left values.reverse
    | failed failure u =>
      rw [ran, orReturnTo_failed] at members
      obtain ⟨failure', u', ran', same, beside⟩ := members.eq_failed
      rw [ran']
      refine .failed ?_ beside.symm
      rw [Failure.SameRoot, Failure.root_within]
      exact same.symm
    | exhausted =>
      rw [ran, orReturnTo_exhausted] at members
      rw [members.eq_exhausted]
      exact .exhausted
  | failed failure t =>
    rw [Run.sequence, steady.run_eq_step inside fits, step, skipped]
    exact .failed (.within rfl _ _) (.refl _)
  | exhausted =>
    rw [Run.sequence, steady.run_eq_step inside fits, step, skipped]
    exact .exhausted

/-- With a group in the place of its members, a sequence hands on the same forest. -/
theorem sequence_grouped (before : List Expr) {es : List Expr} (nonempty : es ≠ [])
    (behind : List Expr) (listed : .seq es ∈ exprs) (fits : s.Fits env ignore v)
    (pattern pattern' : Expr) (start : Cursor) :
    (Run.sequence (run budget .tree env) pattern start (before ++ [.seq es] ++ behind) [] s).Concur
      Tree.SameForest Failure.SameRoot
      (Run.sequence (run budget .tree env) pattern' start (before ++ es ++ behind) [] s) := by
  have same (members members' : List (Option Tree)) (a : Option Tree) (same : members = members') :
      members ++ [a] = members' ++ [a] := by
    rw [same]
  rw [sequence_append, sequence_append, sequence_append, sequence_append]
  -- Up to the group the members are the same; from there on only the forests are.
  refine Concur.andThen (?_ : Concur Tree.SameForest Failure.SameRoot _ _) ?_
  · refine (sequence_beside same _ _ start before rfl (.refl s)).andThen ?_
    rintro members _ t t' ran rfl beside
    have reached := sequence_fits fits budget .tree pattern start before []
    rw [ran] at reached
    refine (steady.sequence_group nonempty listed reached _ pattern' start members.reverse).trans
      (sequence_beside same _ pattern' start es rfl beside) (fun _ _ _ => ?_) fun _ _ _ => Eq.trans
    rintro forest rfl
    exact forest
  · intro members members' t t' _ forest beside
    exact sequence_beside (fun _ _ a same => same.append_right [a]) _ _ start behind
      (by rwa [List.reverse_reverse, List.reverse_reverse]) beside

/-- A sequence in a sequence does what its members do in its place. -/
theorem run_seq_grouped (before : List Expr) {es : List Expr} (nonempty : es ≠ [])
    (behind : List Expr) (listed : .seq (before ++ [.seq es] ++ behind) ∈ exprs)
    (listed' : .seq (before ++ es ++ behind) ∈ exprs) (fits : s.Fits env ignore v) :
    (run budget .tree env (.seq (before ++ [.seq es] ++ behind)) s).Concur Eq Failure.SameRoot
      (run budget .tree env (.seq (before ++ es ++ behind)) s) := by
  have inside : .seq es ∈ exprs := steady.closed.part listed
    (List.mem_append_left _ (List.mem_append_right _ (List.mem_singleton_self _)))
  refine steady.run_concur .tree listed fits .tree listed' (fun _ => rfl) fun t there _ _ => ?_
  rw [dispatch, dispatch]
  refine (steady.sequence_grouped before nonempty behind inside there _ _ t.cursor).andThen
    fun members members' u u' _ forest beside => ?_
  exact .done (congrArg Tree.ofForest forest) beside

end Steady

/-! ## Choices -/

section Choices

variable {α : Type} {env : Env} {budget : Nat} {s s' : State} (builder : Builder α)
  (pattern pattern' : Expr)

/-- Choices between the same alternatives concur, whatever stands around them and was tried before. -/
theorem firstOf_concur (start : Cursor) (es : List Expr) (last last' : Option Trail)
    (beside : s.Beside s') :
    (firstOf (run budget builder env) pattern start es last s).Concur Eq Failure.SameKind
      (firstOf (run budget builder env) pattern' start es last' s') := by
  induction es generalizing last last' s s' with
  | nil =>
    refine .failed ?_ (beside.moveTo start)
    cases last <;> cases last' <;> rfl
  | cons e rest ih =>
    rw [firstOf_cons, firstOf_cons]
    exact (run_beside budget builder env e beside).sameKind.orElse fun _ _ _ _ _ => ih _ _

/-- A choice that goes on with further alternatives is the choice between all of them. -/
theorem firstOf_append (es fs : List Expr) (last last' : Option Trail) (beside : s.Beside s') :
    ((firstOf (run budget builder env) pattern s.cursor es last s).orElse fun trail t =>
      firstOf (run budget builder env) pattern s.cursor fs (some trail) t).Concur Eq
        Failure.SameKind
      (firstOf (run budget builder env) pattern' s.cursor (es ++ fs) last' s') := by
  induction es generalizing last last' s s' with
  | nil =>
    have stays : (s.moveTo s.cursor).Beside s' := ⟨beside.cursor, beside.skipping⟩
    cases last <;> exact firstOf_concur builder pattern pattern' s.cursor fs _ last' stays
  | cons e rest ih =>
    rw [firstOf_cons, orElse_assoc, List.cons_append, firstOf_cons]
    refine (run_beside budget builder env e beside).sameKind.orElse
      fun trail trail' t t' ran beside => ?_
    rw [(beside_of_failed builder ran).cursor]
    exact ih _ _ beside

/-- A choice that succeeds does so with its first alternative that does not mismatch. -/
theorem firstOf_eq_done {start : Cursor} {es : List Expr} {last : Option Trail} {a : α} {t : State}
    (ended : firstOf (run budget builder env) pattern start es last s = .done a t) :
    ∃ before e behind, es = before ++ e :: behind ∧
      (∀ f ∈ before, ∃ u trail v, s.Beside u ∧
        run budget builder env f u = .failed (.mismatch trail) v) ∧
      ∃ u, s.Beside u ∧ run budget builder env e u = .done a t := by
  induction es generalizing last s with
  | nil => cases ended
  | cons e rest ih =>
    rw [firstOf_cons] at ended
    rcases orElse_eq_done ended with first | ⟨trail, u, mismatched, later⟩
    · exact ⟨[], e, rest, rfl, nofun, s, .refl s, first⟩
    · have back := beside_of_failed builder mismatched
      obtain ⟨before, f, behind, rfl, mismatches, v, there, succeeds⟩ := ih later
      refine ⟨e :: before, f, behind, rfl, List.forall_mem_cons.mpr ⟨?_, fun g mem => ?_⟩, v,
        back.trans there, succeeds⟩
      · exact ⟨s, trail, u, .refl s, mismatched⟩
      · obtain ⟨w, trail', x, here, fails⟩ := mismatches g mem
        exact ⟨w, trail', x, back.trans here, fails⟩

end Choices

namespace Steady

variable {α : Type} {env : Env} {ignore exprs : List Expr} {v : Bool} {budget : Nat} {s s' : State}
  (steady : Steady env ignore exprs budget) (builder : Builder α)
include steady

/-- A choice among the alternatives of another choice does what its own alternatives do in its place. -/
theorem firstOf_grouped (before es behind : List Expr) (listed : .choice es ∈ exprs)
    (pattern pattern' : Expr) (last last' : Option Trail) (fits : s.Fits env ignore v)
    (settled : s.Settled env budget) (beside : s.Beside s') :
    (firstOf (run budget builder env) pattern s.cursor (before ++ .choice es :: behind) last
      s).Concur Eq Failure.SameKind
      (firstOf (run budget builder env) pattern' s.cursor (before ++ (es ++ behind)) last' s') := by
  induction before generalizing last last' s s' with
  | nil =>
    have inner := (steady.run_settled builder listed fits settled).sameKind
    rw [List.nil_append, List.nil_append, firstOf_cons]
    refine (inner.orElse fun trail trail' t t' _ beside => ?_).trans
      (firstOf_append builder (.choice es) pattern' es behind none last' beside)
      (fun _ _ _ => Eq.trans) fun _ _ _ => Eq.trans
    exact firstOf_concur builder pattern _ s.cursor behind _ _ beside
  | cons e rest ih =>
    rw [List.cons_append, List.cons_append, firstOf_cons, firstOf_cons]
    refine (run_beside budget builder env e beside).sameKind.orElse
      fun trail trail' t t' ran near => ?_
    have back := beside_of_failed builder ran
    rw [back.cursor]
    exact ih _ _ (fits.beside back) (settled.beside back) near

theorem run_choice_grouped (before es behind : List Expr)
    (listed : .choice (before ++ [.choice es] ++ behind) ∈ exprs)
    (listed' : .choice (before ++ es ++ behind) ∈ exprs) (fits : s.Fits env ignore v) :
    (run budget builder env (.choice (before ++ [.choice es] ++ behind)) s).Concur Eq Failure.SameKind
      (run budget builder env (.choice (before ++ es ++ behind)) s) := by
  have inside : .choice es ∈ exprs := steady.closed.part listed
    (List.mem_append_left _ (List.mem_append_right _ (List.mem_singleton_self _)))
  refine steady.run_concur builder listed fits builder listed' (fun _ => rfl)
    fun t there _ settled => ?_
  rw [dispatch, dispatch, List.append_assoc, List.append_assoc, List.singleton_append]
  exact steady.firstOf_grouped builder before es behind inside _ _ none none there settled (.refl t)

/-- A choice succeeds as the first of its alternatives does that does not mismatch. -/
theorem run_choice_eq_done {es : List Expr} (listed : .choice es ∈ exprs) (fits : s.Fits env ignore v)
    {a : α} {t : State} (ended : run budget builder env (.choice es) s = .done a t) :
    ∃ before e behind, es = before ++ e :: behind ∧
      (∀ f ∈ before, ∃ trail u, run budget builder env f s = .failed (.mismatch trail) u) ∧
      ∃ u, t.Beside u ∧ run budget builder env e s = .done a u := by
  rw [steady.run_eq_step listed fits, step] at ended
  obtain ⟨_, w, skipped, said⟩ := andThen_eq_done (orReturnTo_eq_done ended)
  obtain ⟨before, e, behind, rfl, mismatches, u, there, succeeds⟩ := firstOf_eq_done builder _ said
  have same {f : Expr} (mem : f ∈ before ++ e :: behind) {u : State} (beside : w.Beside u) :=
    (steady.run_skipped builder (steady.closed.part listed mem) fits skipped).trans
      ((run_beside budget builder env f beside).orReturnTo s.cursor)
      (fun _ _ _ => Eq.trans) fun _ _ _ => Eq.trans
  refine ⟨before, e, behind, rfl, fun f mem => ?_, ?_⟩
  · obtain ⟨x, trail, y, near, fails⟩ := mismatches f mem
    have concur := same (List.mem_append_left _ mem) near
    rw [fails, orReturnTo_failed] at concur
    obtain ⟨_, z, ran, rfl, _⟩ := concur.eq_failed
    exact ⟨trail, z, ran⟩
  · have concur := same (List.mem_append_right _ List.mem_cons_self) there
    rw [succeeds, orReturnTo_done] at concur
    obtain ⟨_, z, ran, rfl, beside⟩ := concur.eq_done
    exact ⟨z, beside.symm, ran⟩

end Steady

/-- Grouping makes no difference, and a choice answers as the first of its alternatives does that does not
mismatch. -/
theorem grouping_irrelevant (session : Session) (marks : session.cursor.Marks session.source) :
    (∀ before es behind : List Expr, es ≠ [] →
      session.ParsesAlike Failure.SameRoot (.seq (before ++ [.seq es] ++ behind))
        (.seq (before ++ es ++ behind))) ∧
    (∀ before es behind : List Expr,
      session.ParsesAlike Failure.SameKind (.choice (before ++ [.choice es] ++ behind))
        (.choice (before ++ es ++ behind))) ∧
    ∀ es reply result, session.parse (.choice es) = some reply → reply.outcome = .ok result →
      ∃ before e behind, es = before ++ e :: behind ∧
        (∀ f ∈ before, ∃ reply' trail, session.parse f = some reply' ∧
          reply'.outcome = .error (.mismatch trail)) ∧
        ∃ reply', session.parse e = some reply' ∧ reply'.outcome = .ok result ∧
          reply'.session = reply.session := by
  have fits := session.state_fits marks
  refine ⟨fun before es behind nonempty => ?_, fun before es behind => ?_,
    fun es reply result replied succeeded => ?_⟩
  · exact Session.parsesAlike_of_concur marks fun steady listed listed' =>
      steady.run_seq_grouped before nonempty behind listed listed' fits
  · exact Session.parsesAlike_of_concur marks fun steady listed listed' =>
      steady.run_choice_grouped .tree before es behind listed listed' fits
  · rw [session.parse_eq] at replied
    obtain ⟨t, ran, rfl⟩ := Session.done_of_reply? replied succeeded
    have listed := session.mem_reachable (.choice es) List.mem_cons_self
    obtain ⟨before, e, behind, rfl, mismatches, u, beside, succeeds⟩ :=
      (session.steady (Nat.le_refl _)).run_choice_eq_done .tree listed fits ran
    have parsed {f : Expr} (mem : f ∈ before ++ e :: behind) :
        session.parse f = session.reply? (run (session.budget (.choice (before ++ e :: behind)))
          .tree session.toEnv f session.state) := by
      rw [← session.parseWithin_eq, session.parseWithin_of_le marks (session.budget_le_of_mem_parts mem)]
    refine ⟨before, e, behind, rfl, fun f mem => ?_, ?_⟩
    · obtain ⟨trail, v, fails⟩ := mismatches f mem
      rw [parsed (List.mem_append_left _ mem), fails]
      exact ⟨_, trail, rfl, rfl⟩
    · rw [parsed (List.mem_append_right _ List.mem_cons_self), succeeds]
      exact ⟨_, rfl, rfl, session.leave_eq_of_beside beside.symm⟩

/-- The captures of a sequence in a sequence are those of the outer one, and the second of two alternatives
answers where the first does not match. -/
theorem sample_grouping :
    Session.sample.ParsesAlike Failure.SameRoot (.seq [.capture "x" .any, .seq [.capture "y" .any]])
      (.seq [.capture "x" .any, .capture "y" .any]) ∧
    ∃ before e behind reply result, [Expr.char 'c', .capture "x" .any] = before ++ e :: behind ∧
      Session.sample.parse e = some reply ∧ reply.outcome = .ok result := by
  have answered : (Session.sample.parse (.choice [.char 'c', .capture "x" .any])).map
      (fun reply => reply.outcome.toOption.isSome) = some true := by
    decide +kernel
  obtain ⟨sequences, _, alternatives⟩ := grouping_irrelevant Session.sample (Cursor.start_marks _)
  obtain ⟨⟨outcome, after, log⟩, replied, succeeded⟩ := Option.map_eq_some_iff.mp answered
  cases outcome with
  | error failure => cases succeeded
  | ok result =>
    obtain ⟨before, e, behind, split, _, reply, parsed, came, _⟩ :=
      alternatives [.char 'c', .capture "x" .any] _ result replied rfl
    exact ⟨sequences [.capture "x" .any] [.capture "y" .any] [] (List.cons_ne_nil _ _),
      before, e, behind, reply, result, split, parsed, came⟩

end PegEngine
