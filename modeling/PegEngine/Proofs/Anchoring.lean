import PegEngine.Proofs.Concurrence

/-! Matches that only ignorable text may follow. To ask for the end of the text after a match is to match a
sequence with the end of the text as its last item; only the sequence adds its context to a failure, and
answers where the whole of it ended. -/
namespace PegEngine

open Run

/-- The second failure is the first one with the context of this expression around it; faults have none. -/
def Failure.NotedBy (pattern : Expr) (failure failure' : Failure) : Prop :=
  ∃ start stop, failure' = failure.within ⟨pattern, start, stop⟩

section Anchors

variable {α : Type} {env : Env} {ignore exprs : List Expr} {v : Bool} {budget : Nat} {e : Expr}
  {s t : State}

theorem atEnd_ends (fits : s.Fits env ignore v) (pattern : Expr) :
    (atEnd pattern s).Ends (fun _ t => t.cursor.position = env.source.size) fun _ _ => True := by
  rw [atEnd]
  split
  · next done =>
    have none : s.cursor.character = none := Option.isNone_iff_eq_none.mp done
    have beyond := Array.getElem?_eq_none_iff.mp (fits.marks.character_eq.symm.trans none)
    exact Nat.le_antisymm fits.marks.within beyond
  · trivial

/-- Nothing but the end of the text is left behind a match that only ignorable text may follow, and its value
is that of the match itself. -/
theorem runToEnd_ends (builder : Builder α) (fits : s.Fits env ignore v) :
    (runToEnd budget builder env e s).Ends
      (fun a t => t.cursor.position = env.source.size ∧
        ∃ u, run budget builder env e s = .done a u) fun _ _ => True := by
  have goes := run_goes fits budget builder e
  rw [runToEnd]
  cases ran : run budget builder env e s with
  | done a u =>
    rw [ran] at goes
    have ends : (runEnd budget env u).Ends (fun _ t => t.cursor.position = env.source.size)
        fun _ _ => True :=
      Ends.andThen (skip_fits goes.1 budget budget) fun _ w there => atEnd_ends there .eof
    exact (Ends.orReturnTo ends fun _ _ => id).map fun _ _ here => ⟨here, u, rfl⟩
  | failed failure u => trivial
  | exhausted => trivial

variable (steady : Steady env ignore exprs budget) (fits : s.Fits env ignore v)
include steady fits

theorem Steady.run_eof (listed : .eof ∈ exprs) :
    run budget .recognizer env .eof s = (runEnd budget env s).orReturnTo s.cursor := by
  rw [steady.run_eq_step listed fits, step, runEnd]
  cases skip budget (run budget .recognizer env) s with
  | done _ t =>
    rw [andThen_done, andThen_done, dispatch]
    cases atEnd .eof t <;> rfl
  | failed failure t => rfl
  | exhausted => rfl

/-- To ask for nothing but ignorable text up to the end is to go on to the end as to the last item. -/
theorem Steady.runEnd_concur (listed : .eof ∈ exprs) (beside : s.Beside t) (pattern : Expr)
    (start back stop : Cursor) (values : List Cursor) :
    (((runEnd budget env s).orReturnTo back).map fun _ => stop).Concur (fun _ _ => True)
      (Failure.NotedBy pattern)
      (((Run.sequence (run budget .recognizer env) pattern start [.eof] values t).andThen
        Builder.recognizer.close).orReturnTo back) := by
  have last := run_beside budget .recognizer env .eof beside
  rw [steady.run_eof fits listed] at last
  rw [Run.sequence]
  cases ended : runEnd budget env s with
  | done stop' u =>
    rw [ended, orReturnTo_done] at last
    obtain ⟨_, u', ran, _, beside⟩ := last.symm.eq_done
    rw [ran]
    exact .done trivial beside.symm
  | failed failure u =>
    rw [ended, orReturnTo_failed] at last
    obtain ⟨_, u', ran, rfl, beside⟩ := last.symm.eq_failed
    rw [ran]
    exact .failed ⟨_, _, rfl⟩ (beside.symm.moveTo back)
  | exhausted =>
    rw [ended, orReturnTo_exhausted] at last
    rw [last.symm.eq_exhausted]
    exact .exhausted

/-- The sequence with the end of the text as its last item goes the same way, except that it notes its
context. -/
theorem Steady.runToEnd_concur (listed : .seq [e, .eof] ∈ exprs) :
    (runToEnd budget .recognizer env e s).Concur (fun _ _ => True)
      (Failure.NotedBy (.seq [e, .eof])) (run budget .recognizer env (.seq [e, .eof]) s) := by
  have inside : e ∈ exprs := steady.closed.part listed List.mem_cons_self
  have behind : .eof ∈ exprs := steady.closed.part listed (.tail _ List.mem_cons_self)
  have faults := skip_faults (run budget .recognizer env) budget s
  have reached := skip_fits fits budget budget
  rw [runToEnd, steady.run_eq_step listed fits, step]
  cases skipped : skip budget (run budget .recognizer env) s with
  | done _ t =>
    rw [skipped] at reached
    have first := steady.run_skipped .recognizer inside fits skipped
    have goes := run_goes reached budget .recognizer e
    rw [andThen_done, dispatch, Run.sequence]
    cases ran : run budget .recognizer env e t with
    | done stop u =>
      rw [ran] at goes
      rw [ran, orReturnTo_done] at first
      obtain ⟨stop', w, ran', _, beside⟩ := first.eq_done
      rw [ran']
      exact steady.runEnd_concur (goes.1.beside beside.symm) behind beside _ t.cursor s.cursor stop' [stop]
    | failed failure u =>
      rw [ran, orReturnTo_failed] at first
      obtain ⟨_, w, ran', rfl, beside⟩ := first.eq_failed
      rw [ran']
      exact .failed ⟨_, _, rfl⟩ beside
    | exhausted =>
      rw [ran, orReturnTo_exhausted] at first
      rw [first.eq_exhausted]
      exact .exhausted
  | failed failure t =>
    rw [steady.run_eq_step inside fits, step, skipped]
    rw [skipped] at faults
    cases failure with
    | mismatch trail => cases faults
    | fault broken => exact .failed ⟨s.cursor, s.cursor, rfl⟩ (.refl _)
  | exhausted =>
    rw [steady.run_eq_step inside fits, step, skipped]
    exact .exhausted

end Anchors

/-- To match where only ignorable text may follow is to match up to the end of the text, with the sequence
that says so. -/
theorem anchored_matches (session : Session) (marks : session.cursor.Marks session.source)
    (e : Expr) :
    Option.Rel (Reply.Concur (fun _ _ => True) (Failure.NotedBy (.seq [e, .eof])))
      (session.recognizeAll e) (session.recognize (.seq [e, .eof])) ∧
    (∀ reply stop, session.recognizeAll e = some reply → reply.outcome = .ok stop →
      reply.session.cursor.position = session.source.size ∧
        ∃ reply', session.recognize e = some reply' ∧ reply'.outcome = .ok stop) ∧
    (session.parseAll e).map Reply.forget = (session.recognizeAll e).map Reply.forget ∧
    ∀ reply result, session.parseAll e = some reply → reply.outcome = .ok result →
      ∃ reply', session.parse e = some reply' ∧ reply'.outcome = .ok result := by
  have fits := session.state_fits marks
  refine ⟨?_, fun reply stop replied succeeded => ?_,
    session.reply?_forget (Parsing.runToEnd_forget _ e session.state),
    fun reply result replied succeeded => ?_⟩
  · have listed := session.mem_reachable (.seq [e, .eof]) List.mem_cons_self
    have less : session.budget e ≤ session.budget (.seq [e, .eof]) :=
      session.budget_le_of_mem_parts List.mem_cons_self
    rw [← session.recognizeAllWithin_of_le marks less, Session.recognizeAllWithin_eq,
      Session.recognize_eq]
    exact Session.reply?_concur
      ((session.steady (Nat.le_refl _)).runToEnd_concur fits listed)
  · rw [session.recognizeAll_eq] at replied
    obtain ⟨t, ran, rfl⟩ := Session.done_of_reply? replied succeeded
    have ends : (runToEnd (session.budget e) _ _ e _).Ends _ _ := runToEnd_ends .recognizer fits
    rw [ran] at ends
    obtain ⟨here, u, ran'⟩ := ends
    rw [session.recognize_eq, ran']
    exact ⟨here, _, rfl, rfl⟩
  · rw [session.parseAll_eq] at replied
    obtain ⟨t, ran, rfl⟩ := Session.done_of_reply? replied succeeded
    have ends : (runToEnd (session.budget e) _ _ e _).Ends _ _ := runToEnd_ends .tree fits
    rw [ran] at ends
    obtain ⟨_, u, ran'⟩ := ends
    rw [session.parse_eq, ran']
    exact ⟨_, rfl, rfl⟩

/-- With `b` and the blank to be skipped, only the `a` has to be matched: the match is over behind it, and the
session is left at the end of the text. -/
theorem sample_anchored : ∃ reply stop,
    (Session.sample.setIgnore [.char ' ', .char 'b']).recognizeAll (.char 'a') = some reply ∧
      reply.outcome = .ok stop ∧ stop.position = 1 ∧ reply.session.cursor.position = 4 := by
  have answered : ((Session.sample.setIgnore [.char ' ', .char 'b']).recognizeAll (.char 'a')).map
      (fun reply => reply.outcome.toOption.map Cursor.position) = some (some 1) := by
    decide +kernel
  obtain ⟨⟨outcome, after, log⟩, replied, succeeded⟩ := Option.map_eq_some_iff.mp answered
  cases outcome with
  | error failure => cases succeeded
  | ok stop =>
    obtain ⟨_, ends, _⟩ := anchored_matches (Session.sample.setIgnore [.char ' ', .char 'b'])
      (Cursor.start_marks _) (.char 'a')
    exact ⟨_, stop, replied, rfl, Option.some.inj succeeded, (ends _ stop replied rfl).1⟩

end PegEngine
