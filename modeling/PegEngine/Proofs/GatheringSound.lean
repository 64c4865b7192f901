import PegEngine.Proofs.Gathering
import PegEngine.Proofs.ReadingSound

/-! Runs build what they gather: the tree that a successful run of the engine comes out with is built of
a harvest that is gathered between where the run began and where it ended. Nothing of an attempt that was
given up is in it, as there is nothing of it in the harvest. There is one lemma for each operator that
captures something, and an induction on the budget. -/
namespace PegEngine

/-! ## Runs that build trees -/

namespace Run

/-- If the run succeeds, it comes out with the tree of a harvest that is gathered on its way. -/
def Harvests (env : Env) (ignore : List Expr) (v : Bool) (task : Task) (s : State)
    (r : Run (Option Tree)) : Prop :=
  r.Ends
    (fun result t => ∃ h, Gathers env ignore v task s.cursor.position t.cursor.position h ∧
      result = h.tree env.source)
    fun _ _ => True

/-- If the run succeeds, it comes out with the trees of the members of a group that is gathered on its
way, behind those that it was given, the latest first. -/
def HarvestsGroup (env : Env) (ignore : List Expr) (v : Bool) (task : Task) (s : State)
    (values : List (Option Tree)) (r : Run (List (Option Tree))) : Prop :=
  r.Ends
    (fun results t => ∃ hs,
      Gathers env ignore v task s.cursor.position t.cursor.position (.group hs) ∧
        results = values.reverse ++ Harvest.trees env.source hs)
    fun _ _ => True

/-- A run of an expression finds what there is to read, and builds what it gathers. -/
structure Yields (env : Env) (ignore : List Expr) (v : Bool) (e : Expr) (s : State)
    (r : Run (Option Tree)) : Prop extends r.Finds env ignore v (.whole e) s where
  harvests : r.Harvests env ignore v (.whole e) s

variable {env : Env} {ignore : List Expr} {v : Bool} {task task' : Task} {s t : State}

theorem Harvests.imp {r : Run (Option Tree)} (harvests : r.Harvests env ignore v task s)
    (leads : ∀ {q h}, Gathers env ignore v task s.cursor.position q h →
      Gathers env ignore v task' s.cursor.position q h) :
    r.Harvests env ignore v task' s :=
  Ends.imp harvests (fun _ _ ⟨h, gathers, built⟩ => ⟨h, leads gathers, built⟩) fun _ _ _ => trivial

theorem Harvests.orReturnTo {r : Run (Option Tree)} (harvests : r.Harvests env ignore v task s)
    (start : Cursor) : (r.orReturnTo start).Harvests env ignore v task s :=
  Ends.orReturnTo harvests fun _ _ _ => trivial

/-- A group goes on with a member whose tree was built before. -/
theorem HarvestsGroup.cons {r : Run (List (Option Tree))} {values : List (Option Tree)} {first : Harvest}
    (harvests : r.HarvestsGroup env ignore v task t (first.tree env.source :: values))
    (leads : ∀ {q hs}, Gathers env ignore v task t.cursor.position q (.group hs) →
      Gathers env ignore v task' s.cursor.position q (.group (first :: hs))) :
    r.HarvestsGroup env ignore v task' s values := by
  apply Ends.imp harvests
  · rintro results u ⟨hs, gathers, built⟩
    refine ⟨first :: hs, leads gathers, ?_⟩
    rw [built, Harvest.trees, List.reverse_cons, List.append_assoc, List.singleton_append]
  · exact fun _ _ _ => trivial

/-- A group is closed by building one tree of the trees of its members. -/
theorem HarvestsGroup.close {r : Run (List (Option Tree))}
    (harvests : r.HarvestsGroup env ignore v task s [])
    (leads : ∀ {q h}, Gathers env ignore v task s.cursor.position q h →
      Gathers env ignore v task' s.cursor.position q h) :
    (r.andThen Builder.tree.close).Harvests env ignore v task' s := by
  apply Ends.andThen harvests
  rintro results t ⟨hs, gathers, rfl⟩
  exact ⟨.group hs, leads gathers, rfl⟩

end Run

open Run

/-! ## Compounds -/

variable {env : Env} {ignore : List Expr} {v : Bool}

section Compounds

variable {s : State} (fits : s.Fits env ignore v) (pattern : Expr)
include fits

section Lists

variable {item : Expr → State → Run (Option Tree)}
  (itemYields : ∀ e t, t.Fits env ignore v → (item e t).Yields env ignore v e t)
include itemYields

theorem sequence_harvests (start : Cursor) (es : List Expr) (values : List (Option Tree)) :
    (sequence item pattern start es values s).HarvestsGroup env ignore v (.items es) s values := by
  induction es generalizing values s with
  | nil => exact ⟨[], .itemsNil, (List.append_nil _).symm⟩
  | cons e rest ih =>
    obtain ⟨⟨goes, _⟩, harvests⟩ := itemYields e s fits
    rw [Run.sequence]
    cases ran : item e s with
    | done a t =>
      rw [ran] at goes harvests
      obtain ⟨h, head, rfl⟩ := harvests
      exact (ih goes.1 _).cons fun tail => .itemsCons head tail
    | failed failure t => trivial
    | exhausted => trivial

theorem firstOf_harvests (start : Cursor) (es : List Expr) (last : Option Trail) :
    (firstOf item pattern start es last s).Harvests env ignore v (.alternatives es) s := by
  induction es generalizing last s with
  | nil => trivial
  | cons e rest ih =>
    obtain ⟨⟨goes, answers⟩, harvests⟩ := itemYields e s fits
    rw [firstOf]
    cases ran : item e s with
    | done a t =>
      rw [ran] at harvests
      exact harvests.imp .alternativesHere
    | failed failure t =>
      rw [ran] at goes answers
      cases failure with
      | mismatch trail =>
        have head := answers _ rfl
        have tail := ih goes.1 (some trail)
        rw [Harvests, goes.2] at tail
        exact Harvests.imp tail (.alternativesNext head)
      | fault broken => trivial
    | exhausted => trivial

end Lists

section Bodies

variable {e : Expr} {body : State → Run (Option Tree)}
  (bodyYields : ∀ t, t.Fits env ignore v → (body t).Yields env ignore v e t)
include bodyYields

theorem optional_harvests :
    (Run.optional body (Builder.tree.close []) s).Harvests env ignore v (.bare (.optional e)) s := by
  obtain ⟨⟨goes, answers⟩, harvests⟩ := bodyYields s fits
  rw [Run.optional]
  cases ran : body s with
  | done a t =>
    rw [ran] at harvests
    exact harvests.imp .optionalHere
  | failed failure t =>
    rw [ran] at goes answers
    cases failure with
    | mismatch trail =>
      refine ⟨.group [], ?_, rfl⟩
      rw [goes.2]
      exact .optionalNone (answers _ rfl)
    | fault broken => trivial
  | exhausted => trivial

theorem repetition_harvests (min max : Nat) (start : Cursor) (rounds count : Nat)
    (values : List (Option Tree)) :
    (repetition body pattern min max start rounds count values s).HarvestsGroup env ignore v
      (.repeats min max e count) s values := by
  induction rounds generalizing count values s with
  | zero => trivial
  | succ rounds ih =>
    obtain ⟨⟨goes, answers⟩, harvests⟩ := bodyYields s fits
    rw [repetition]
    by_cases full : 0 < max ∧ max ≤ count
    · rw [if_pos full]
      exact ⟨[], .repeatsFull full, (List.append_nil _).symm⟩
    · rw [if_neg full]
      cases ran : body s with
      | done a t =>
        rw [ran] at goes harvests
        obtain ⟨h, inner, rfl⟩ := harvests
        dsimp only
        by_cases still : t.cursor.position = s.cursor.position
        · rw [if_pos still]
          rw [still] at inner
          refine ⟨[h], ?_, List.reverse_cons⟩
          rw [still]
          exact .repeatsStill full inner
        · rw [if_neg still]
          exact (ih goes.1 (count + 1) _).cons fun tail => .repeatsMore full inner still tail
      | failed failure t =>
        rw [ran] at goes answers
        dsimp only
        cases failure with
        | mismatch trail =>
          by_cases enough : min ≤ count
          · rw [if_pos ⟨rfl, enough⟩]
            refine ⟨[], ?_, (List.append_nil _).symm⟩
            rw [goes.2]
            exact .repeatsEnough full (answers _ rfl) enough
          · rw [if_neg fun both => enough both.2]
            trivial
        | fault broken =>
          rw [if_neg fun both => Bool.false_ne_true both.1]
          trivial
      | exhausted => trivial

end Bodies

end Compounds

/-! ## Expressions that cannot capture -/

theorem map_nothing (r : Run Cursor) :
    (r.map Builder.tree.nothing).Ends (fun result _ => result = none) fun _ _ => True := by
  cases r with
  | done stop t => rfl
  | failed failure t => trivial
  | exhausted => trivial

/-- An expression that cannot capture anything comes out without a tree. -/
theorem dispatch_nothing (env : Env) (rounds : Nat) (recognize : Expr → State → Run Cursor)
    (build : Expr → State → Run (Option Tree)) {e : Expr} (cannot : e.canCapture = false)
    (s : State) :
    (dispatch .tree rounds recognize build env e s).Ends (fun result _ => result = none)
      fun _ _ => True := by
  cases e with
  | char c => exact map_nothing _
  | literal text => exact map_nothing _
  | any => exact map_nothing _
  | range low high =>
    rw [dispatch, checkBounds]
    cases (Expr.range low high).checkBounds with
    | ok _ => exact map_nothing _
    | error broken => trivial
  | eof => exact map_nothing _
  | eol => exact map_nothing _
  | space => exact map_nothing _
  | not body => exact map_nothing _
  | peek body => exact map_nothing _
  | anyBut body => exact map_nothing _
  | seq items => cases cannot
  | choice alternatives => cases cannot
  | optional body => cases cannot
  | rep min max body => cases cannot
  | capture name body => cases cannot
  | ref name => cases cannot
  | verbatim body => cases cannot

/-! ## The engine -/

section Engine

variable {rounds : Nat} {recognize : Expr → State → Run Cursor}
  {build : Expr → State → Run (Option Tree)}
  (recognizeFinds : ∀ v e t, t.Fits env ignore v → (recognize e t).Finds env ignore v (.whole e) t)
  (buildYields : ∀ v e t, t.Fits env ignore v → (build e t).Yields env ignore v e t)
  {s : State} (fits : s.Fits env ignore v)
include recognizeFinds buildYields fits

/-- Whatever an expression says, a run of it builds what it gathers. -/
theorem dispatch_harvests (e : Expr) :
    (dispatch .tree rounds recognize build env e s).Harvests env ignore v (.bare e) s := by
  have gives (cannot : e.canCapture = false) :
      (dispatch .tree rounds recognize build env e s).Harvests env ignore v (.bare e) s := by
    have answers : (dispatch .tree rounds recognize build env e s).Answers
        (Reads env ignore v (.bare e) s.cursor.position) :=
      dispatch_answers recognizeFinds (fun v e t fits => (buildYields v e t fits).toFinds) fits e
    have result := dispatch_nothing env rounds recognize build cannot s
    cases ran : dispatch .tree rounds recognize build env e s with
    | done a t =>
      rw [ran] at answers result
      exact ⟨.group [], .nothing cannot (answers _ rfl), result⟩
    | failed failure t => trivial
    | exhausted => trivial
  cases e with
  | seq items =>
    exact (sequence_harvests fits _ (buildYields v) s.cursor items []).close .seq
  | choice alternatives =>
    exact (firstOf_harvests fits _ (buildYields v) s.cursor alternatives none).imp .choice
  | optional body => exact optional_harvests fits (buildYields v body)
  | rep min max body =>
    rw [dispatch, checkBounds, Expr.checkBounds]
    cases bounds : (Expr.rep min max body).boundsFault? with
    | none =>
      exact (repetition_harvests fits _ (buildYields v body) min max s.cursor rounds 0 []).close
        (.rep bounds)
    | some why => trivial
  | capture name body =>
    rw [dispatch]
    apply Ends.andThen (buildYields v body s fits).harvests
    rintro a t ⟨h, inner, rfl⟩
    exact ⟨_, .capture inner, rfl⟩
  | ref name =>
    rw [dispatch, resolve]
    cases found : env.definitions.find? name with
    | some target =>
      have noted : (s.note (.resolved name s.cursor)).Fits env ignore v := fits.kept fits.marks rfl
      exact Harvests.imp (buildYields v target _ noted).harvests (.ref found)
    | none => trivial
  | verbatim body =>
    have off : (s.skipping.toggle true).verbatim = true := rfl
    rw [dispatch, unskipped]
    apply Ends.afterwards (buildYields true body _ (fits.off off)).harvests
    · rintro a t ⟨h, inner, rfl⟩
      exact ⟨h, .verbatim inner, rfl⟩
    · exact fun _ _ _ => trivial
  | char c => exact gives rfl
  | literal text => exact gives rfl
  | not body => exact gives rfl
  | peek body => exact gives rfl
  | any => exact gives rfl
  | anyBut body => exact gives rfl
  | range low high => exact gives rfl
  | eof => exact gives rfl
  | eol => exact gives rfl
  | space => exact gives rfl

end Engine

/-- A run of the engine builds what it gathers. -/
theorem run_harvests (budget : Nat) (e : Expr) {s : State} (fits : s.Fits env ignore v) :
    (run budget .tree env e s).Harvests env ignore v (.whole e) s := by
  induction budget generalizing e s v with
  | zero => trivial
  | succ budget ih =>
    have recognizeFinds (v : Bool) (f : Expr) (t : State) (fits : t.Fits env ignore v) :
        (run budget .recognizer env f t).Finds env ignore v (.whole f) t :=
      run_finds budget .recognizer f fits
    have buildYields (v : Bool) (f : Expr) (t : State) (fits : t.Fits env ignore v) :
        (run budget .tree env f t).Yields env ignore v f t :=
      ⟨run_finds budget .tree f fits, ih f fits⟩
    refine Harvests.orReturnTo ?_ s.cursor
    cases v with
    | true =>
      rw [skip_off fits, andThen_done]
      exact Harvests.imp (dispatch_harvests recognizeFinds buildYields fits e) .wholeVerbatim
    | false =>
      have fits' := skip_fits fits budget budget
      have skips := skip_finds (recognizeFinds true)
        (fun f t => run_settles budget rightFor_recognizer env f t) budget fits
      cases ran : skip budget (run budget .recognizer env) s with
      | done _ t =>
        rw [ran] at fits' skips
        apply Ends.imp (dispatch_harvests recognizeFinds buildYields fits' e)
        · rintro a u ⟨h, bare, built⟩
          exact ⟨h, .whole skips bare, built⟩
        · exact fun _ _ _ => trivial
      | failed failure t => trivial
      | exhausted => trivial

end PegEngine
