import PegEngine.Proofs.Rollback

/-! Undefined names. A look-up that finds nothing notes the name and fails with a fault, and from then on
nothing is noted any more: every operator hands a fault on as it is, also the ones that recover from
mismatches. So the name is noted exactly where the whole match fails for it, once and last. There is one
lemma for each operator on what it adds to the log, and an induction on the budget. -/
namespace PegEngine

namespace Event

/-- The event says that a name has no definition. -/
def isUndefined : Event → Bool
  | undefined _ => true
  | skipped _ _ | resolved _ _ => false

/-- The later log goes on from the earlier one without a word on undefined names. -/
def Quiet (earlier later : List Event) : Prop :=
  ∃ events, later = events ++ earlier ∧ ∀ event ∈ events, event.isUndefined = false

theorem Quiet.refl (log : List Event) : Quiet log log :=
  ⟨[], rfl, nofun⟩

theorem Quiet.trans {first second third : List Event} (before : Quiet first second)
    (behind : Quiet second third) : Quiet first third := by
  obtain ⟨earlier, rfl, earlierQuiet⟩ := before
  obtain ⟨later, rfl, laterQuiet⟩ := behind
  refine ⟨later ++ earlier, (List.append_assoc _ _ _).symm, fun event mem => ?_⟩
  exact (List.mem_append.mp mem).elim (laterQuiet event) (earlierQuiet event)

theorem Quiet.note {earlier later : List Event} (quiet : Quiet earlier later) {event : Event}
    (harmless : event.isUndefined = false) : Quiet earlier (event :: later) :=
  quiet.trans ⟨[event], rfl, List.forall_mem_singleton.mpr harmless⟩

end Event

open Event

namespace Failure

/-- The name for want of which the attempt failed, if that was the reason. -/
def missing? : Failure → Option String
  | fault (.undefined name) => some name
  | _ => none

/-- What a failed attempt added to the log: nothing on undefined names, but at the very end the one for
want of which it failed. -/
def Reports (failure : Failure) (earlier later : List Event) : Prop :=
  match failure.missing? with
  | some name => ∃ quiet, Quiet earlier quiet ∧ later = .undefined name :: quiet
  | none => Quiet earlier later

theorem missing?_eq_some_iff {failure : Failure} {name : String} :
    failure.missing? = some name ↔ failure = .fault (.undefined name) := by
  unfold missing?
  split
  · simp
  · next other => exact ⟨nofun, fun same => absurd same (other name)⟩

@[simp] theorem missing?_within (failure : Failure) (context : Mismatch) :
    (failure.within context).missing? = failure.missing? := by
  cases failure with
  | mismatch trail => rfl
  | fault broken => rfl

theorem Reports.within {failure : Failure} {earlier later : List Event}
    (reports : failure.Reports earlier later) (context : Mismatch) :
    (failure.within context).Reports earlier later := by
  rw [Reports, missing?_within]
  exact reports

theorem Reports.after {failure : Failure} {first second third : List Event}
    (reports : failure.Reports second third) (before : Quiet first second) :
    failure.Reports first third := by
  rw [Reports] at reports ⊢
  split
  · next name missing =>
    rw [missing] at reports
    obtain ⟨quiet, behind, last⟩ := reports
    exact ⟨quiet, before.trans behind, last⟩
  · next present =>
    rw [present] at reports
    exact before.trans reports

end Failure

namespace Run

variable {α β : Type}

/-- What a run adds to the log that it found. -/
def Logs (earlier : List Event) (r : Run α) : Prop :=
  r.Ends (fun _ t => Quiet earlier t.log) fun failure t => failure.Reports earlier t.log

theorem Logs.after {earlier later : List Event} {r : Run α} (logs : r.Logs later)
    (before : Quiet earlier later) : r.Logs earlier :=
  Ends.imp logs (fun _ _ quiet => before.trans quiet) fun _ _ reports => reports.after before

theorem Logs.andThen {earlier : List Event} {r : Run α} {rest : α → State → Run β}
    (logs : r.Logs earlier) (restLogs : ∀ a t, (rest a t).Logs t.log) :
    (r.andThen rest).Logs earlier :=
  Ends.andThen logs fun a t quiet => (restLogs a t).after quiet

theorem Logs.map {earlier : List Event} {r : Run α} (logs : r.Logs earlier) (f : α → β) :
    (r.map f).Logs earlier :=
  Ends.map logs fun _ _ quiet => quiet

theorem logs_arrive (s : State) : s.arrive.Logs s.log :=
  Quiet.refl _

theorem logs_mismatch (pattern : Expr) (s : State) : (s.mismatch pattern : Run α).Logs s.log :=
  Quiet.refl _

/-! ## Primitives -/

theorem checkBounds_logs (e : Expr) (s : State) : (checkBounds e s).Logs s.log := by
  rw [checkBounds, Expr.checkBounds]
  cases e.boundsFault? with
  | none => exact Quiet.refl _
  | some why => exact Quiet.refl _

theorem oneOf_logs (source : Source) (pattern : Expr) (accepts : Char → Bool) (s : State) :
    (oneOf source pattern accepts s).Logs s.log := by
  unfold oneOf
  split
  · split
    · exact logs_arrive (s.next source)
    · exact logs_mismatch pattern s
  · exact logs_mismatch pattern s

theorem allOf_logs (source : Source) (pattern : Expr) (start : Cursor) (chars : List Char)
    (s : State) : (allOf source pattern start chars s).Logs s.log := by
  induction chars generalizing s with
  | nil => exact logs_arrive s
  | cons c rest ih =>
    rw [allOf]
    split
    · exact ih (s.next source)
    · exact Quiet.refl _

theorem atEnd_logs (pattern : Expr) (s : State) : (atEnd pattern s).Logs s.log := by
  unfold atEnd
  split
  · exact logs_arrive s
  · exact logs_mismatch pattern s

theorem lineBreak_logs (source : Source) (pattern : Expr) (s : State) :
    (lineBreak source pattern s).Logs s.log := by
  unfold lineBreak
  split
  · exact logs_arrive (s.next source)
  · split
    · split
      · exact logs_arrive ((s.next source).next source)
      · exact logs_arrive (s.next source)
    · exact logs_mismatch pattern s

theorem blank_logs (source : Source) (pattern : Expr) (s : State) :
    (blank source pattern s).Logs s.log := by
  unfold blank
  split
  · exact logs_arrive (s.next source)
  · exact lineBreak_logs source pattern s

/-! ## Compounds -/

section Compounds

section Lists

variable {item : Expr → State → Run α} (itemLogs : ∀ e t, (item e t).Logs t.log)
  (pattern : Expr) (start : Cursor)
include itemLogs

theorem sequence_logs (items : List Expr) (values : List α) (s : State) :
    (sequence item pattern start items values s).Logs s.log := by
  induction items generalizing values s with
  | nil => exact Quiet.refl _
  | cons e rest ih =>
    have logs := itemLogs e s
    rw [sequence]
    cases ran : item e s with
    | done a t =>
      rw [ran] at logs
      exact (ih (a :: values) t).after logs
    | failed failure t =>
      rw [ran] at logs
      exact Failure.Reports.within logs _
    | exhausted => trivial

theorem firstOf_logs (alternatives : List Expr) (last : Option Trail) (s : State) :
    (firstOf item pattern start alternatives last s).Logs s.log := by
  induction alternatives generalizing last s with
  | nil =>
    cases last with
    | none => exact Quiet.refl _
    | some trail => exact Quiet.refl _
  | cons e rest ih =>
    have logs := itemLogs e s
    rw [firstOf]
    cases ran : item e s with
    | done a t =>
      rw [ran] at logs
      exact logs
    | failed failure t =>
      rw [ran] at logs
      cases failure with
      | mismatch trail => exact (ih (some trail) t).after logs
      | fault broken => exact logs
    | exhausted => trivial

end Lists

section Bodies

variable {body : State → Run α} (bodyLogs : ∀ t, (body t).Logs t.log)
include bodyLogs

theorem optional_logs {fallback : State → Run α} (fallbackLogs : ∀ t, (fallback t).Logs t.log)
    (s : State) : (optional body fallback s).Logs s.log := by
  have logs := bodyLogs s
  unfold optional
  cases ran : body s with
  | done a t =>
    rw [ran] at logs
    exact logs
  | failed failure t =>
    rw [ran] at logs
    cases failure with
    | mismatch trail => exact (fallbackLogs t).after logs
    | fault broken => exact logs
  | exhausted => trivial

theorem repetition_logs (pattern : Expr) (min max : Nat) (start : Cursor) (rounds count : Nat)
    (values : List α) (s : State) :
    (repetition body pattern min max start rounds count values s).Logs s.log := by
  induction rounds generalizing count values s with
  | zero => trivial
  | succ rounds ih =>
    have logs := bodyLogs s
    rw [repetition]
    split
    · exact Quiet.refl _
    · cases ran : body s with
      | done a t =>
        rw [ran] at logs
        dsimp only
        split
        · exact logs
        · exact (ih (count + 1) (a :: values) t).after logs
      | failed failure t =>
        rw [ran] at logs
        cases failure with
        | mismatch trail =>
          dsimp only
          split
          · exact logs
          · exact logs
        | fault broken =>
          dsimp only
          rw [if_neg fun both => Bool.false_ne_true both.1]
          exact logs
      | exhausted => trivial

end Bodies

section Looks

variable {look : State → Run Cursor} (lookLogs : ∀ t, (look t).Logs t.log) (pattern : Expr)
  (s : State)
include lookLogs

theorem notAhead_logs : (notAhead look pattern s).Logs s.log := by
  have logs := lookLogs s
  unfold notAhead
  cases ran : look s with
  | done stop t =>
    rw [ran] at logs
    exact logs
  | failed failure t =>
    rw [ran] at logs
    cases failure with
    | mismatch trail => exact logs
    | fault broken => exact logs
  | exhausted => trivial

theorem ahead_logs : (ahead look pattern s).Logs s.log := by
  have logs := lookLogs s
  unfold ahead
  cases ran : look s with
  | done stop t =>
    rw [ran] at logs
    exact logs
  | failed failure t =>
    rw [ran] at logs
    exact Failure.Reports.within logs _
  | exhausted => trivial

theorem oneBut_logs (source : Source) : (oneBut source look pattern s).Logs s.log := by
  have logs := lookLogs s
  unfold oneBut
  cases ran : look s with
  | done stop t =>
    rw [ran] at logs
    exact logs
  | failed failure t =>
    rw [ran] at logs
    cases failure with
    | mismatch trail => exact (oneOf_logs source pattern _ t).after logs
    | fault broken => exact logs
  | exhausted => trivial

end Looks

end Compounds

/-! ## Skipping -/

section Skipping

variable {recognize : Expr → State → Run Cursor}
  (recognizeLogs : ∀ e t, (recognize e t).Logs t.log)
include recognizeLogs

theorem skipOne_logs (ignore : List Expr) (s : State) : (skipOne recognize ignore s).Logs s.log := by
  induction ignore generalizing s with
  | nil => exact Quiet.refl _
  | cons e rest ih =>
    have logs := recognizeLogs e s
    rw [skipOne]
    cases ran : recognize e s with
    | done stop t =>
      rw [ran] at logs
      dsimp only
      split
      · exact Quiet.note logs rfl
      · exact (ih t).after logs
    | failed failure t =>
      rw [ran] at logs
      cases failure with
      | mismatch trail => exact (ih t).after logs
      | fault broken => exact logs
    | exhausted => trivial

theorem skipAll_logs (ignore : List Expr) (rounds : Nat) (s : State) :
    (skipAll recognize ignore rounds s).Logs s.log := by
  induction rounds generalizing s with
  | zero => trivial
  | succ rounds ih =>
    rw [skipAll]
    refine (skipOne_logs recognizeLogs ignore s).andThen fun more t => ?_
    cases more with
    | true => exact ih t
    | false => exact Quiet.refl _

theorem skip_logs (rounds : Nat) (s : State) : (skip rounds recognize s).Logs s.log := by
  unfold skip
  split
  · exact Ends.afterwards (skipAll_logs recognizeLogs s.skipping.ignore rounds _)
      (fun _ _ quiet => quiet) fun _ _ reports => reports
  · exact Quiet.refl _

end Skipping

/-! ## The engine -/

section Engine

variable {builder : Builder α} {recognize : Expr → State → Run Cursor}
  {build : Expr → State → Run α} (recognizeLogs : ∀ e t, (recognize e t).Logs t.log)
  (buildLogs : ∀ e t, (build e t).Logs t.log)

theorem close_logs (members : List α) (s : State) : (builder.close members s).Logs s.log :=
  Quiet.refl _

include buildLogs in
theorem unskipped_logs (e : Expr) (s : State) : (unskipped (build e) s).Logs s.log :=
  Ends.afterwards (buildLogs e _) (fun _ _ quiet => quiet) fun _ _ reports => reports

/-- Here names are looked up, and those that are not found are noted. -/
theorem resolve_logs (definitions : Definitions) (name : String) (s : State) :
    (resolve definitions name s).Logs s.log := by
  unfold resolve
  split
  · exact (Quiet.refl s.log).note rfl
  · exact ⟨s.log, Quiet.refl _, rfl⟩

include recognizeLogs buildLogs

theorem dispatch_logs (rounds : Nat) (env : Env) (e : Expr) (s : State) :
    (dispatch builder rounds recognize build env e s).Logs s.log := by
  cases e with
  | char c => exact (oneOf_logs env.source _ _ s).map _
  | literal text => exact (allOf_logs env.source _ s.cursor text.toList s).map _
  | seq items => exact (sequence_logs buildLogs _ s.cursor items [] s).andThen close_logs
  | choice alternatives => exact firstOf_logs buildLogs _ s.cursor alternatives none s
  | optional body => exact optional_logs (buildLogs body) (close_logs []) s
  | rep min max body =>
    exact (checkBounds_logs _ s).andThen fun _ t =>
      (repetition_logs (buildLogs body) _ min max t.cursor rounds 0 [] t).andThen close_logs
  | not body => exact (notAhead_logs (recognizeLogs body) _ s).map _
  | peek body => exact (ahead_logs (recognizeLogs body) _ s).map _
  | capture name body => exact (buildLogs body s).andThen fun _ _ => Quiet.refl _
  | any => exact (oneOf_logs env.source _ _ s).map _
  | anyBut body => exact (oneBut_logs (recognizeLogs body) _ s env.source).map _
  | range low high =>
    exact (checkBounds_logs _ s).andThen fun _ t => (oneOf_logs env.source _ _ t).map _
  | eof => exact (atEnd_logs _ s).map _
  | eol => exact (lineBreak_logs env.source _ s).map _
  | space => exact (blank_logs env.source _ s).map _
  | ref name => exact (resolve_logs env.definitions name s).andThen buildLogs
  | verbatim body => exact unskipped_logs buildLogs body s

theorem step_logs (rounds : Nat) (env : Env) (e : Expr) (s : State) :
    (step builder rounds recognize build env e s).Logs s.log := by
  have logs : ((skip rounds recognize s).andThen fun _ t =>
      dispatch builder rounds recognize build env e t).Logs s.log :=
    (skip_logs recognizeLogs rounds s).andThen fun _ t =>
      dispatch_logs recognizeLogs buildLogs rounds env e t
  exact Ends.orReturnTo logs fun _ _ reports => reports

end Engine

end Run

open Run

theorem run_logs (budget : Nat) {α : Type} (builder : Builder α) (env : Env) (e : Expr)
    (s : State) : (run budget builder env e s).Logs s.log := by
  induction budget generalizing α e s with
  | zero => trivial
  | succ budget ih => exact step_logs (ih .recognizer) (ih builder) budget env e s

theorem runToEnd_logs (budget : Nat) {α : Type} (builder : Builder α) (env : Env) (e : Expr)
    (s : State) : (runToEnd budget builder env e s).Logs s.log := by
  refine (run_logs budget builder env e s).andThen fun a t => ?_
  have ends : (runEnd budget env t).Logs t.log :=
    (skip_logs (run_logs budget .recognizer env) budget t).andThen fun _ u => atEnd_logs .eof u
  have returned : ((runEnd budget env t).orReturnTo s.cursor).Logs t.log :=
    Ends.orReturnTo ends fun _ _ reports => reports
  exact returned.map _

/-! ## Sessions -/

/-- A name is noted as undefined exactly if the reply is that it is, and then nothing of the kind was
noted before and nothing at all behind. -/
structure Reply.Final {α : Type} (reply : Reply α) : Prop where
  noted_iff : ∀ name, .undefined name ∈ reply.log ↔ reply.outcome = .error (.fault (.undefined name))
  last : ∀ name, reply.outcome = .error (.fault (.undefined name)) →
    ∃ earlier, reply.log = earlier ++ [.undefined name] ∧
      ∀ event ∈ earlier, event.isUndefined = false

section Replies

variable {α : Type} {reply : Reply α}

theorem Reply.final_of_quiet (quiet : Quiet [] reply.log.reverse)
    (present : ∀ name, reply.outcome ≠ .error (.fault (.undefined name))) : reply.Final where
  noted_iff name := by
    obtain ⟨events, same, quiet⟩ := quiet
    rw [List.append_nil, List.reverse_eq_iff] at same
    refine ⟨fun noted => ?_, fun failed => absurd failed (present name)⟩
    rw [same, List.mem_reverse] at noted
    cases quiet _ noted
  last name failed := absurd failed (present name)

theorem Reply.final_of_last {name : String} {earlier : List Event} (quiet : Quiet [] earlier)
    (last : reply.log.reverse = .undefined name :: earlier)
    (failed : reply.outcome = .error (.fault (.undefined name))) : reply.Final := by
  obtain ⟨events, rfl, quiet⟩ := quiet
  rw [List.append_nil, List.reverse_eq_iff, List.reverse_cons] at last
  have same {other : String} (failed' : reply.outcome = .error (.fault (.undefined other))) :
      other = name := by
    rw [failed] at failed'
    cases failed'
    rfl
  refine ⟨fun other => ⟨fun noted => ?_, fun failed' => ?_⟩, fun other failed' => ?_⟩
  · rw [last, List.mem_append, List.mem_reverse, List.mem_singleton] at noted
    rcases noted with before | here
    · cases quiet _ before
    · cases here
      exact failed
  · rw [last, same failed']
    exact List.mem_append_right _ (List.mem_singleton_self _)
  · refine ⟨events.reverse, same failed' ▸ last, fun event mem => ?_⟩
    exact quiet event (List.mem_reverse.mp mem)

theorem Session.final_of_logs {session : Session} {r : Run α} (logs : r.Logs [])
    (replied : session.reply? r = some reply) : reply.Final := by
  cases r with
  | done a t =>
    cases replied
    apply Reply.final_of_quiet
    · rwa [List.reverse_reverse]
    · exact fun _ => nofun
  | failed failure t =>
    cases replied
    cases missing : failure.missing? with
    | none =>
      rw [Logs, Ends, Failure.Reports, missing] at logs
      apply Reply.final_of_quiet
      · rwa [List.reverse_reverse]
      · intro name failed
        rw [Failure.missing?_eq_some_iff.mpr (Except.error.inj failed)] at missing
        cases missing
    | some name =>
      rw [Logs, Ends, Failure.Reports, missing] at logs
      obtain ⟨earlier, quiet, last⟩ := logs
      apply Reply.final_of_last quiet
      · rwa [List.reverse_reverse]
      · rw [Failure.missing?_eq_some_iff.mp missing]
  | exhausted => cases replied

end Replies

/-- A reference that leads nowhere ends the whole match, wherever it is met: in an alternative, a
repetition or lookahead, in front of an expression or behind it, where something is to be skipped. The
match notes the name last of all, and answers that it is not defined, without a trail. -/
theorem undefined_final (session : Session) (e : Expr) (budget : Nat) :
    (∀ reply, session.recognizeWithin budget e = some reply → reply.Final) ∧
    (∀ reply, session.recognizeAllWithin budget e = some reply → reply.Final) ∧
    (∀ reply, session.parseWithin budget e = some reply → reply.Final) ∧
    ∀ reply, session.parseAllWithin budget e = some reply → reply.Final := by
  apply session.forall_replies budget e (P := Reply.Final)
  · intro α builder reply replied
    exact Session.final_of_logs (run_logs budget builder _ e session.state) replied
  · intro α builder reply replied
    exact Session.final_of_logs (runToEnd_logs budget builder _ e session.state) replied

/-- A reference that leads nowhere, inside what may fail or be missing. -/
def Expr.sampleDangling : Expr :=
  .seq [.char 'a', .optional (.not (.choice [.seq [.ref "bs", .ref "cs"], .any])), .ref "bs"]

/-- The name for want of which the match failed, if that was the reason. -/
def Reply.missing? {α : Type} (reply : Reply α) : Option String :=
  match reply.outcome with
  | .error failure => failure.missing?
  | .ok _ => none

theorem sample_final : ∃ reply,
    Session.sample.recognizeWithin 12 .sampleDangling = some reply ∧
      reply.outcome = .error (.fault (.undefined "cs")) ∧ reply.Final := by
  have answered : (Session.sample.recognizeWithin 12 .sampleDangling).map Reply.missing? =
      some (some "cs") := by
    decide +kernel
  obtain ⟨⟨outcome, after, log⟩, replied, missed⟩ := Option.map_eq_some_iff.mp answered
  rcases outcome with failure | stop
  · cases Failure.missing?_eq_some_iff.mp missed
    exact ⟨_, replied, rfl, (undefined_final Session.sample .sampleDangling 12).1 _ replied⟩
  · cases missed

end PegEngine
