import PegEngine.Proofs.Refinement

/-! What a run leaves as it was. A run that fails puts the cursor back to where the run began, and
every run puts the setting of skipping back. A run that succeeds never ends before its start, and a
recognizer answers the cursor at which it ends. Each operator is shown to do so if the runs of its
parts do; that the whole engine does is an induction on the budget. -/
namespace PegEngine

namespace Cursor

theorem position_le_next (source : Source) (cursor : Cursor) :
    cursor.position ≤ (cursor.next source).position := by
  rw [next]
  split
  · exact Nat.le_refl _
  · dsimp only
    split
    · exact Nat.le_succ _
    · exact Nat.le_succ _

end Cursor

namespace Run

variable {α β : Type}

/-- How a run ends unless it is exhausted: with a value, or with a failure. -/
def Ends (success : α → State → Prop) (failure : Failure → State → Prop) : Run α → Prop
  | done a s => success a s
  | failed f s => failure f s
  | exhausted => True

/-- Nothing is said of a run by saying that something is true wherever it ends. -/
theorem ends_anyhow (r : Run α) : r.Ends (fun _ _ => True) fun _ _ => True := by
  cases r with
  | done a t => trivial
  | failed failure t => trivial
  | exhausted => trivial

theorem Ends.imp {success success' : α → State → Prop} {failure failure' : Failure → State → Prop}
    {r : Run α} (ends : r.Ends success failure) (onDone : ∀ a t, success a t → success' a t)
    (onFailed : ∀ f t, failure f t → failure' f t) : r.Ends success' failure' := by
  cases r with
  | done a t => exact onDone a t ends
  | failed f t => exact onFailed f t ends
  | exhausted => trivial

theorem Ends.andThen {success : α → State → Prop} {success' : β → State → Prop}
    {failure : Failure → State → Prop} {r : Run α} {rest : α → State → Run β}
    (ends : r.Ends success failure)
    (restEnds : ∀ a t, success a t → (rest a t).Ends success' failure) :
    (r.andThen rest).Ends success' failure := by
  cases r with
  | done a t => exact restEnds a t ends
  | failed f t => exact ends
  | exhausted => trivial

theorem Ends.map {success : α → State → Prop} {success' : β → State → Prop}
    {failure : Failure → State → Prop} {r : Run α} {f : α → β} (ends : r.Ends success failure)
    (valued : ∀ a t, success a t → success' (f a) t) : (r.map f).Ends success' failure := by
  cases r with
  | done a t => exact valued a t ends
  | failed f t => exact ends
  | exhausted => trivial

theorem Ends.afterwards {success success' : α → State → Prop}
    {failure failure' : Failure → State → Prop} {r : Run α} {mend : State → State}
    (ends : r.Ends success failure) (onDone : ∀ a t, success a t → success' a (mend t))
    (onFailed : ∀ f t, failure f t → failure' f (mend t)) :
    (r.afterwards mend).Ends success' failure' := by
  cases r with
  | done a t => exact onDone a t ends
  | failed f t => exact onFailed f t ends
  | exhausted => trivial

theorem Ends.orReturnTo {success : α → State → Prop} {failure failure' : Failure → State → Prop}
    {r : Run α} {start : Cursor} (ends : r.Ends success failure)
    (onFailed : ∀ f t, failure f t → failure' f (t.moveTo start)) :
    (r.orReturnTo start).Ends success failure' := by
  cases r with
  | done a t => exact ends
  | failed f t => exact onFailed f t ends
  | exhausted => trivial

/-- The state in which a run ends, if it ends. -/
def state? : Run α → Option State
  | done _ s => some s
  | failed _ s => some s
  | exhausted => none

/-! ## Settling -/

/-- The state `t` is one that a success from `s` may leave. -/
def Onward (s t : State) : Prop :=
  t.skipping = s.skipping ∧ s.cursor.position ≤ t.cursor.position

theorem Onward.refl (s : State) : Onward s s :=
  ⟨rfl, Nat.le_refl _⟩

theorem Onward.trans {s t u : State} (first : Onward s t) (second : Onward t u) : Onward s u :=
  ⟨second.1.trans first.1, Nat.le_trans first.2 second.2⟩

theorem Onward.of_back {s t : State} (back : t.skipping = s.skipping ∧ t.cursor = s.cursor) :
    Onward s t :=
  ⟨back.1, Nat.le_of_eq (congrArg Cursor.position back.2.symm)⟩

theorem Onward.next (source : Source) (s : State) : Onward s (s.next source) :=
  ⟨rfl, s.cursor.position_le_next source⟩

/-- A run from `s` settles: on failure the cursor is at `start` and skipping is as it was, on success
skipping is as it was, the cursor is not before `s`, and the value is right about the cursor. -/
def Settles (right : α → Cursor → Prop) (start : Cursor) (s : State) (r : Run α) : Prop :=
  r.Ends (fun a t => Onward s t ∧ right a t.cursor)
    (fun _ t => t.skipping = s.skipping ∧ t.cursor = start)

variable {right : α → Cursor → Prop} {start : Cursor} {s : State}

theorem Settles.after {t : State} {r : Run α} (onward : Onward s t)
    (settles : Settles right start t r) : Settles right start s r :=
  Ends.imp settles (fun _ _ ends => ⟨onward.trans ends.1, ends.2⟩)
    fun _ _ ends => ⟨ends.1.trans onward.1, ends.2⟩

theorem Settles.trueAbout {r : Run α} (settles : Settles right start s r) :
    Settles (fun _ _ => True) start s r :=
  Ends.imp settles (fun _ _ ends => ⟨ends.1, trivial⟩) fun _ _ ends => ends

theorem Settles.kept {r : Run α} (settles : Settles right start s r) {t : State}
    (ended : r.state? = some t) : t.skipping = s.skipping := by
  cases r with
  | done a u =>
    cases ended
    exact settles.1.1
  | failed failure u =>
    cases ended
    exact settles.1
  | exhausted => cases ended

theorem settles_mismatch (pattern : Expr) (s : State) :
    Settles right s.cursor s (s.mismatch pattern) :=
  ⟨rfl, rfl⟩

theorem settles_arrive {t : State} (onward : Onward s t) : Settles Eq start s t.arrive :=
  ⟨onward, rfl⟩

/-! ## Primitives -/

theorem oneOf_settles (source : Source) (pattern : Expr) (accepts : Char → Bool) (s : State) :
    Settles Eq s.cursor s (oneOf source pattern accepts s) := by
  unfold oneOf
  split
  · split
    · exact settles_arrive (Onward.next source s)
    · exact settles_mismatch pattern s
  · exact settles_mismatch pattern s

theorem allOf_settles (source : Source) (pattern : Expr) (start : Cursor) (chars : List Char)
    (s : State) : Settles Eq start s (allOf source pattern start chars s) := by
  induction chars generalizing s with
  | nil => exact settles_arrive (Onward.refl s)
  | cons c rest ih =>
    rw [allOf]
    split
    · exact (ih (s.next source)).after (Onward.next source s)
    · exact ⟨rfl, rfl⟩

theorem atEnd_settles (pattern : Expr) (s : State) : Settles Eq s.cursor s (atEnd pattern s) := by
  unfold atEnd
  split
  · exact settles_arrive (Onward.refl s)
  · exact settles_mismatch pattern s

theorem lineBreak_settles (source : Source) (pattern : Expr) (s : State) :
    Settles Eq s.cursor s (lineBreak source pattern s) := by
  have one := Onward.next source s
  unfold lineBreak
  split
  · exact settles_arrive one
  · split
    · split
      · exact settles_arrive (one.trans (Onward.next source _))
      · exact settles_arrive one
    · exact settles_mismatch pattern s

theorem blank_settles (source : Source) (pattern : Expr) (s : State) :
    Settles Eq s.cursor s (blank source pattern s) := by
  unfold blank
  split
  · exact settles_arrive (Onward.next source s)
  · exact lineBreak_settles source pattern s

/-! ## Compounds -/

section Compounds

variable {item : Expr → State → Run α} {body : State → Run α} {look : State → Run Cursor}

theorem sequence_settles (itemSettles : ∀ e t, Settles right t.cursor t (item e t))
    (pattern : Expr) (items : List Expr) (values : List α) (s : State) :
    Settles (fun _ _ => True) start s (sequence item pattern start items values s) := by
  induction items generalizing values s with
  | nil => exact ⟨Onward.refl s, trivial⟩
  | cons e rest ih =>
    have settles := itemSettles e s
    rw [sequence]
    cases ran : item e s with
    | done a t =>
      rw [ran] at settles
      exact (ih (a :: values) t).after settles.1
    | failed failure t =>
      rw [ran] at settles
      exact ⟨settles.1, rfl⟩
    | exhausted => trivial

theorem firstOf_settles (itemSettles : ∀ e t, Settles right t.cursor t (item e t))
    (pattern : Expr) (alternatives : List Expr) (last : Option Trail) (s : State)
    (here : s.cursor = start) :
    Settles right start s (firstOf item pattern start alternatives last s) := by
  induction alternatives generalizing last s with
  | nil => exact ⟨rfl, rfl⟩
  | cons e rest ih =>
    have settles := itemSettles e s
    rw [firstOf]
    cases ran : item e s with
    | done a t =>
      rw [ran] at settles
      exact settles
    | failed failure t =>
      rw [ran] at settles
      have back : t.cursor = start := settles.2.trans here
      cases failure with
      | mismatch trail =>
        exact (ih (some trail) t back).after (Onward.of_back settles)
      | fault fault => exact ⟨settles.1, back⟩
    | exhausted => trivial

theorem optional_settles (bodySettles : ∀ t, Settles right t.cursor t (body t))
    {fallback : State → Run α} (fallbackSettles : ∀ t, Settles right t.cursor t (fallback t))
    (s : State) : Settles right s.cursor s (optional body fallback s) := by
  have settles := bodySettles s
  unfold optional
  cases ran : body s with
  | done a t =>
    rw [ran] at settles
    exact settles
  | failed failure t =>
    rw [ran] at settles
    cases failure with
    | mismatch trail =>
      have falls := fallbackSettles t
      rw [settles.2] at falls
      exact falls.after (Onward.of_back settles)
    | fault fault => exact settles
  | exhausted => trivial

theorem repetition_settles (bodySettles : ∀ t, Settles right t.cursor t (body t)) (pattern : Expr)
    (min max rounds count : Nat) (values : List α) (s : State) :
    Settles (fun _ _ => True) start s
      (repetition body pattern min max start rounds count values s) := by
  induction rounds generalizing count values s with
  | zero => trivial
  | succ rounds ih =>
    have settles := bodySettles s
    rw [repetition]
    split
    · exact ⟨Onward.refl s, trivial⟩
    · cases ran : body s with
      | done a t =>
        rw [ran] at settles
        dsimp only
        split
        · exact ⟨settles.1, trivial⟩
        · exact (ih (count + 1) (a :: values) t).after settles.1
      | failed failure t =>
        rw [ran] at settles
        dsimp only
        split
        · exact ⟨Onward.of_back settles, trivial⟩
        · exact ⟨settles.1, rfl⟩
      | exhausted => trivial

theorem notAhead_settles (lookSettles : ∀ t, Settles Eq t.cursor t (look t)) (pattern : Expr)
    (s : State) : Settles Eq s.cursor s (notAhead look pattern s) := by
  have settles := lookSettles s
  unfold notAhead
  cases ran : look s with
  | done stop t =>
    rw [ran] at settles
    exact ⟨settles.1.1, rfl⟩
  | failed failure t =>
    rw [ran] at settles
    cases failure with
    | mismatch trail => exact settles_arrive ⟨settles.1, Nat.le_refl _⟩
    | fault fault => exact ⟨settles.1, rfl⟩
  | exhausted => trivial

theorem ahead_settles (lookSettles : ∀ t, Settles Eq t.cursor t (look t)) (pattern : Expr)
    (s : State) : Settles Eq s.cursor s (ahead look pattern s) := by
  have settles := lookSettles s
  unfold ahead
  cases ran : look s with
  | done stop t =>
    rw [ran] at settles
    exact settles_arrive ⟨settles.1.1, Nat.le_refl _⟩
  | failed failure t =>
    rw [ran] at settles
    exact ⟨settles.1, rfl⟩
  | exhausted => trivial

theorem oneBut_settles (source : Source) (lookSettles : ∀ t, Settles Eq t.cursor t (look t))
    (pattern : Expr) (s : State) : Settles Eq s.cursor s (oneBut source look pattern s) := by
  have settles := lookSettles s
  unfold oneBut
  cases ran : look s with
  | done stop t =>
    rw [ran] at settles
    exact ⟨settles.1.1, rfl⟩
  | failed failure t =>
    rw [ran] at settles
    cases failure with
    | mismatch trail =>
      have reads := oneOf_settles source pattern (fun _ => true) t
      rw [settles.2] at reads
      exact reads.after (Onward.of_back settles)
    | fault fault => exact settles
  | exhausted => trivial

end Compounds

/-! ## Skipping -/

/-- What skipping promises. Where ignorable expressions are at fault the cursor may stay behind what
was skipped before, so it promises nothing about the cursor of a failure. -/
def Skips (s : State) (r : Run α) : Prop :=
  r.Ends (fun _ t => Onward s t) fun _ t => t.skipping = s.skipping

theorem Skips.after {s t : State} {r : Run α} (skips : Skips t r) (onward : Onward s t) :
    Skips s r :=
  Ends.imp skips (fun _ _ further => onward.trans further) fun _ _ kept => kept.trans onward.1

section Skipping

variable {recognize : Expr → State → Run Cursor}
  (recognizeSettles : ∀ e t, Settles Eq t.cursor t (recognize e t))
include recognizeSettles

/-- An attempt at skipping that tells so ends behind its start. -/
theorem skipOne_ends (ignore : List Expr) (s : State) :
    (skipOne recognize ignore s).Ends
      (fun more t => Onward s t ∧ (more = true → s.cursor.position < t.cursor.position))
      (fun _ t => t.skipping = s.skipping) := by
  induction ignore generalizing s with
  | nil => exact ⟨Onward.refl s, nofun⟩
  | cons e rest ih =>
    have settles := recognizeSettles e s
    have passes {t : State} (onward : Onward s t) :
        (skipOne recognize rest t).Ends
          (fun more u => Onward s u ∧ (more = true → s.cursor.position < u.cursor.position))
          (fun _ u => u.skipping = s.skipping) := by
      apply (ih t).imp
      · rintro more u ⟨further, less⟩
        exact ⟨onward.trans further, fun told => Nat.lt_of_le_of_lt onward.2 (less told)⟩
      · intro _ u kept
        exact kept.trans onward.1
    rw [skipOne]
    cases ran : recognize e s with
    | done stop t =>
      rw [ran] at settles
      obtain ⟨onward, rfl⟩ := settles
      dsimp only
      split
      · next further => exact ⟨onward, fun _ => further⟩
      · exact passes onward
    | failed failure t =>
      rw [ran] at settles
      have onward : Onward s t := Onward.of_back settles
      cases failure with
      | mismatch trail => exact passes onward
      | fault fault => exact onward.1
    | exhausted => trivial

theorem skipAll_skips (ignore : List Expr) (rounds : Nat) (s : State) :
    Skips s (skipAll recognize ignore rounds s) := by
  induction rounds generalizing s with
  | zero => trivial
  | succ rounds ih =>
    rw [skipAll]
    refine (skipOne_ends recognizeSettles ignore s).andThen fun more t ends => ?_
    cases more with
    | true => exact (ih t).after ends.1
    | false => exact ends.1

theorem skip_skips (rounds : Nat) (s : State) : Skips s (skip rounds recognize s) := by
  unfold skip
  split
  · apply Ends.afterwards (skipAll_skips recognizeSettles s.skipping.ignore rounds _)
    · intro _ t onward
      exact ⟨rfl, onward.2⟩
    · intro _ t _
      rfl
  · exact Onward.refl s

end Skipping

/-! ## The engine -/

/-- The values of a builder are right about the cursors at which the matches end. -/
structure RightFor (builder : Builder α) (right : α → Cursor → Prop) : Prop where
  gather : ∀ members stop, right (builder.gather members stop) stop
  capture : ∀ name source span a stop, right a stop → right (builder.capture name source span a) stop

theorem rightFor_recognizer : RightFor .recognizer Eq where
  gather _ _ := rfl
  capture _ _ _ _ _ same := same

theorem rightFor_any (builder : Builder α) : RightFor builder fun _ _ => True where
  gather _ _ := trivial
  capture _ _ _ _ _ _ := trivial

section Engine

variable {builder : Builder α} (rightFor : RightFor builder right)
  {recognize : Expr → State → Run Cursor} {build : Expr → State → Run α}
  (recognizeSettles : ∀ e t, Settles Eq t.cursor t (recognize e t))
  (buildSettles : ∀ e t, Settles right t.cursor t (build e t))

include rightFor in
theorem close_settles {members : List α} {t : State} (onward : Onward s t) :
    Settles right start s (builder.close members t) :=
  ⟨onward, rightFor.gather members t.cursor⟩

include rightFor in
theorem Settles.nothing {r : Run Cursor} (settles : Settles Eq start s r) :
    Settles right start s (r.map builder.nothing) :=
  Ends.map settles fun stop _ ends => ⟨ends.1, ends.2 ▸ rightFor.gather [] stop⟩

include rightFor in
theorem Settles.closed {r : Run (List α)} (settles : Settles (fun _ _ => True) start s r) :
    Settles right start s (r.andThen builder.close) :=
  Ends.andThen settles fun _ _ ends => close_settles rightFor ends.1

/-- A check of the bounds changes nothing, whatever is done after it. -/
theorem Settles.checked {e : Expr} {rest : State → Run α}
    (restSettles : Settles right s.cursor s (rest s)) :
    Settles right s.cursor s ((checkBounds e s).andThen fun _ t => rest t) := by
  unfold checkBounds
  split
  · exact restSettles
  · exact ⟨rfl, rfl⟩

include buildSettles in
theorem unskipped_settles (e : Expr) (s : State) :
    Settles right s.cursor s (unskipped (build e) s) := by
  unfold unskipped
  apply Ends.afterwards (buildSettles e _)
  · intro a t ends
    have kept : t.skipping.toggle s.skipping.verbatim = s.skipping := by
      rw [ends.1.1]
      rfl
    exact ⟨⟨kept, ends.1.2⟩, ends.2⟩
  · intro failure t ends
    have kept : t.skipping.toggle s.skipping.verbatim = s.skipping := by
      rw [ends.1]
      rfl
    exact ⟨kept, ends.2⟩

include buildSettles in
theorem resolve_settles (definitions : Definitions) (name : String) (s : State) :
    Settles right s.cursor s ((resolve definitions name s).andThen build) := by
  unfold resolve
  split
  · exact buildSettles _ _
  · exact ⟨rfl, rfl⟩

include rightFor recognizeSettles buildSettles

/-- Whatever an expression says, it leaves the cursor where it was if it fails. -/
theorem dispatch_settles (rounds : Nat) (env : Env) (e : Expr) (s : State) :
    Settles right s.cursor s (dispatch builder rounds recognize build env e s) := by
  cases e with
  | char c => exact (oneOf_settles env.source _ _ s).nothing rightFor
  | literal text => exact (allOf_settles env.source _ s.cursor text.toList s).nothing rightFor
  | seq items => exact (sequence_settles buildSettles _ items [] s).closed rightFor
  | choice alternatives => exact firstOf_settles buildSettles _ alternatives none s rfl
  | optional body =>
    exact optional_settles (buildSettles body)
      (fun t => close_settles rightFor (Onward.refl t)) s
  | rep min max body =>
    exact ((repetition_settles (buildSettles body) _ min max rounds 0 [] s).closed
      rightFor).checked
  | not body => exact (notAhead_settles (recognizeSettles body) _ s).nothing rightFor
  | peek body => exact (ahead_settles (recognizeSettles body) _ s).nothing rightFor
  | capture name body =>
    exact Ends.andThen (buildSettles body s) fun a t ends =>
      ⟨ends.1, rightFor.capture name env.source _ a t.cursor ends.2⟩
  | any => exact (oneOf_settles env.source _ _ s).nothing rightFor
  | anyBut body =>
    exact (oneBut_settles env.source (recognizeSettles body) _ s).nothing rightFor
  | range low high => exact ((oneOf_settles env.source _ _ s).nothing rightFor).checked
  | eof => exact (atEnd_settles _ s).nothing rightFor
  | eol => exact (lineBreak_settles env.source _ s).nothing rightFor
  | space => exact (blank_settles env.source _ s).nothing rightFor
  | ref name => exact resolve_settles buildSettles env.definitions name s
  | verbatim body => exact unskipped_settles buildSettles body s

theorem step_settles (rounds : Nat) (env : Env) (e : Expr) (s : State) :
    Settles right s.cursor s (step builder rounds recognize build env e s) := by
  have ends : ((skip rounds recognize s).andThen fun _ t =>
      dispatch builder rounds recognize build env e t).Ends
        (fun a t => Onward s t ∧ right a t.cursor) (fun _ t => t.skipping = s.skipping) :=
    Ends.andThen (skip_skips recognizeSettles rounds s) fun _ t onward =>
      ((dispatch_settles rightFor recognizeSettles buildSettles rounds env e t).after onward).imp
        (fun _ _ ends => ends) fun _ _ ends => ends.1
  exact ends.orReturnTo fun _ t kept => ⟨kept, rfl⟩

end Engine

end Run

open Run

/-- Every run puts skipping back, and the cursor too if it fails. -/
theorem run_settles (budget : Nat) {α : Type} {builder : Builder α} {right : α → Cursor → Prop}
    (rightFor : RightFor builder right) (env : Env) (e : Expr) (s : State) :
    Settles right s.cursor s (run budget builder env e s) := by
  induction budget generalizing α e s with
  | zero => trivial
  | succ budget ih =>
    exact step_settles rightFor (fun f t => ih rightFor_recognizer f t)
      (fun f t => ih rightFor f t) budget env e s

theorem runEnd_skips (budget : Nat) (env : Env) (s : State) : Skips s (runEnd budget env s) :=
  Ends.andThen (skip_skips (fun e t => run_settles budget rightFor_recognizer env e t) budget s)
    fun _ t onward => ((atEnd_settles .eof t).after onward).imp (fun _ _ ends => ends.1)
      fun _ _ ends => ends.1

theorem runToEnd_settles (budget : Nat) {α : Type} {builder : Builder α}
    {right : α → Cursor → Prop} (rightFor : RightFor builder right) (env : Env) (e : Expr)
    (s : State) :
    Settles (fun _ _ => True) s.cursor s (runToEnd budget builder env e s) := by
  refine Ends.andThen (run_settles budget rightFor env e s).trueAbout fun a t ends => ?_
  have rest : ((runEnd budget env t).orReturnTo s.cursor).Ends (fun _ u => Onward s u)
      (fun _ u => u.skipping = s.skipping ∧ u.cursor = s.cursor) :=
    Ends.orReturnTo ((runEnd_skips budget env t).after ends.1) fun _ _ kept => ⟨kept, rfl⟩
  exact rest.map fun _ u further => ⟨further, trivial⟩

/-! ## Sessions -/

namespace Reply

/-- The reply leaves the session as it was before, or moves its cursor onward and changes nothing
else; which of the two its outcome tells. -/
def Atomic {α : Type} (before : Session) (reply : Reply α) : Prop :=
  match reply.outcome with
  | .error _ => reply.session = before
  | .ok _ =>
    reply.session = before.jump reply.session.cursor ∧
      before.cursor.position ≤ reply.session.cursor.position

end Reply

namespace Session

variable {α : Type} {right : α → Cursor → Prop} {session : Session} {r : Run α} {reply : Reply α}

/-- The run of a reply that tells of success. -/
theorem done_of_reply? (replied : session.reply? r = some reply) {a : α}
    (succeeded : reply.outcome = .ok a) :
    ∃ t, r = .done a t ∧ reply = ⟨.ok a, session.leave t, t.log.reverse⟩ := by
  cases r with
  | done b t =>
    cases replied
    cases succeeded
    exact ⟨t, rfl, rfl⟩
  | failed failure t =>
    cases replied
    cases succeeded
  | exhausted => cases replied

/-- The run of a reply that tells of a failure. -/
theorem failed_of_reply? (replied : session.reply? r = some reply) {failure : Failure}
    (failed : reply.outcome = .error failure) :
    ∃ t, r = .failed failure t ∧ reply = ⟨.error failure, session.leave t, t.log.reverse⟩ := by
  cases r with
  | done a t =>
    cases replied
    cases failed
  | failed why t =>
    cases replied
    cases failed
    exact ⟨t, rfl, rfl⟩
  | exhausted => cases replied

theorem atomic_of_settles (settles : Settles right session.cursor session.state r)
    (replied : session.reply? r = some reply) : reply.Atomic session := by
  cases r with
  | done a t =>
    cases replied
    have kept : t.skipping = session.skipping := settles.1.1
    refine ⟨?_, settles.1.2⟩
    rw [leave, kept]
    rfl
  | failed failure t =>
    cases replied
    have kept : t.skipping = session.skipping := settles.1
    have back : t.cursor = session.cursor := settles.2
    change session.leave t = session
    rw [leave, kept, back]
  | exhausted => cases replied

theorem right_of_settles (settles : Settles right session.cursor session.state r)
    (replied : session.reply? r = some reply) {a : α} (succeeded : reply.outcome = .ok a) :
    right a reply.session.cursor := by
  obtain ⟨t, rfl, rfl⟩ := done_of_reply? replied succeeded
  exact settles.2

end Session

/-- A match that fails, in whatever way, leaves the whole session as it was; one that succeeds moves
the cursor, not back, and nothing else; a recognizer answers the cursor that the session is left
with. A bare expression that fails leaves cursor and skipping as it found them. -/
theorem matches_atomic (budget : Nat) (session : Session) (e : Expr) :
    (∀ reply, session.recognizeWithin budget e = some reply →
      reply.Atomic session ∧ ∀ stop, reply.outcome = .ok stop → reply.session.cursor = stop) ∧
    (∀ reply, session.recognizeAllWithin budget e = some reply → reply.Atomic session) ∧
    (∀ reply, session.parseWithin budget e = some reply → reply.Atomic session) ∧
    (∀ reply, session.parseAllWithin budget e = some reply → reply.Atomic session) ∧
    ∀ (rounds : Nat) (env : Env) (s t : State) (failure : Failure),
      (Recognition.dispatch rounds (Recognition.run budget env) env e s = .failed failure t →
        t.cursor = s.cursor ∧ t.skipping = s.skipping) ∧
      (Parsing.dispatch rounds (Recognition.run budget env) (Parsing.run budget env) env e s =
        .failed failure t → t.cursor = s.cursor ∧ t.skipping = s.skipping) := by
  have recognizeSettles (env : Env) (f : Expr) (t : State) :=
    run_settles budget rightFor_recognizer env f t
  have parseSettles (env : Env) (f : Expr) (t : State) :=
    run_settles budget (rightFor_any Builder.tree) env f t
  refine ⟨?_, ?_, ?_, ?_, ?_⟩
  · intro reply replied
    rw [session.recognizeWithin_eq] at replied
    have settles := recognizeSettles session.toEnv e session.state
    exact ⟨Session.atomic_of_settles settles replied, fun stop succeeded =>
      (Session.right_of_settles settles replied succeeded).symm⟩
  · intro reply replied
    rw [session.recognizeAllWithin_eq] at replied
    exact Session.atomic_of_settles
      (runToEnd_settles budget rightFor_recognizer session.toEnv e session.state) replied
  · intro reply replied
    rw [session.parseWithin_eq] at replied
    exact Session.atomic_of_settles (parseSettles session.toEnv e session.state) replied
  · intro reply replied
    rw [session.parseAllWithin_eq] at replied
    exact Session.atomic_of_settles
      (runToEnd_settles budget (rightFor_any Builder.tree) session.toEnv e session.state) replied
  · intro rounds env s t failure
    rw [Recognition.dispatch_eq, Parsing.dispatch_eq, Recognition.run_eq, Parsing.run_eq]
    constructor
    · intro failed
      have settles := dispatch_settles rightFor_recognizer (recognizeSettles env)
        (recognizeSettles env) rounds env e s
      rw [failed] at settles
      exact ⟨settles.2, settles.1⟩
    · intro failed
      have settles := dispatch_settles (rightFor_any Builder.tree) (recognizeSettles env)
        (parseSettles env) rounds env e s
      rw [failed] at settles
      exact ⟨settles.2, settles.1⟩

/-- A session on a text with a blank, which it skips. -/
def Session.sample : Session where
  source := #['a', ' ', 'b', 'b']
  definitions := ⟨[("bs", .plus (.char 'b'))], List.pairwise_singleton _ _⟩
  skipping := ⟨[.char ' '], false⟩
  cursor := .start #['a', ' ', 'b', 'b']

/-- What was skipped in front of the last item is given back when it does not match. -/
theorem sample_atomic : ∃ reply,
    Session.sample.recognizeWithin 12 (.seq [.char 'a', .char 'c']) = some reply ∧
      reply.Atomic Session.sample := by
  have answered :
      (Session.sample.recognizeWithin 12 (.seq [.char 'a', .char 'c'])).isSome = true := by
    decide
  obtain ⟨reply, replied⟩ := Option.isSome_iff_exists.mp answered
  exact ⟨reply, replied, ((matches_atomic 12 Session.sample _).1 reply replied).1⟩

end PegEngine
