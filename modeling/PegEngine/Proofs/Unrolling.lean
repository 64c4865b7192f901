import PegEngine.Proofs.Synonyms

/-! Repetitions and what they unroll to. A run of the body that reads nothing ends a repetition whatever its
minimum. This is sound because the body could be run again and again from there: each of the copies that it is
unrolled to does what that run did, and leads nowhere. -/
namespace PegEngine

open Run

/-! ## A fixed number of runs -/

/-- The failure as another expression would tell of it, if all that is inside is the same. -/
def Failure.onBehalfOf (pattern : Expr) : Failure → Failure
  | mismatch (.single context) => mismatch (.single { context with pattern })
  | mismatch (.within inner context) => mismatch (inner.within { context with pattern })
  | fault broken => fault broken

@[simp] theorem Failure.onBehalfOf_within (failure : Failure) (pattern pattern' : Expr)
    (start stop : Cursor) : (failure.within ⟨pattern', start, stop⟩).onBehalfOf pattern =
      failure.within ⟨pattern, start, stop⟩ := by
  cases failure with
  | mismatch trail => rfl
  | fault broken => rfl

/-- It tells of the same kind of failure, which stopped at the same place for the same reasons. -/
theorem Failure.onBehalfOf_same (failure : Failure) (pattern : Expr) :
    failure.SameStop (failure.onBehalfOf pattern) ∧
      failure.entries.dropLast = (failure.onBehalfOf pattern).entries.dropLast := by
  cases failure with
  | mismatch trail =>
    cases trail with
    | single context => exact ⟨⟨rfl, rfl⟩, rfl⟩
    | within inner context =>
      refine ⟨⟨rfl, rfl⟩, ?_⟩
      rw [onBehalfOf, entries, entries, Trail.entries_within, Trail.entries_within,
        List.dropLast_concat, List.dropLast_concat]
  | fault broken => exact ⟨⟨rfl, rfl⟩, rfl⟩

/-- With this setting of skipping, the expression reads something wherever it matches. -/
def Env.AlwaysReads {α : Type} (env : Env) (engine : Engine α) (k : Skipping) (e : Expr) : Prop :=
  ∀ c a d, c.Marks env.source → env.Yields engine k e c a d → c.position < d.position

/-- What surely reads something does so wherever it matches. -/
theorem alwaysReads_of_consumes {α : Type} {env : Env} {builder : Builder α} {k : Skipping} {e : Expr}
    (consumes : e.consumes = true) : env.AlwaysReads builder.engine k e := by
  intro c a d marks yields
  obtain ⟨budget, t, ran, rfl⟩ := Env.yields_engine_iff.mp yields
  have fits : State.Fits env k.ignore k.verbatim ⟨c, k, []⟩ := ⟨marks, rfl, fun _ => rfl⟩
  have answers := run_answers budget builder e fits
  rw [ran] at answers
  have reads : Reads env k.ignore k.verbatim (.whole e) c.position (.upTo t.cursor.position) :=
    answers _ rfl
  exact reads.onward consumes

section Copies

variable {α : Type} {env : Env} {ignore exprs : List Expr} {v : Bool} {budget : Nat} {e : Expr}
  {s t : State} (builder : Builder α) (pattern pattern' : Expr) (start : Cursor)

/-- Behind a run that read nothing, further copies read nothing either. -/
theorem sequence_still {a : α} (ran : run budget builder env e s = .done a t) (beside : s.Beside t)
    (copies : Nat) (values : List α) {u : State} (there : s.Beside u) :
    ∃ results w, Run.sequence (run budget builder env) pattern start (List.replicate copies e) values u =
      .done results w ∧ s.Beside w := by
  induction copies generalizing values u with
  | zero => exact ⟨values.reverse, u, rfl, there⟩
  | succ copies ih =>
    have concur := (run_beside budget builder env e there).symm
    rw [ran] at concur
    obtain ⟨b, w, again, _, stays⟩ := concur.eq_done
    rw [List.replicate_succ, Run.sequence, again]
    exact ih _ (beside.trans stays.symm)

/-- A repetition that must and may have so many runs goes on as so many copies in a row do. Only if it stops
short, behind a run that read nothing, what it makes of its runs may be something else. -/
theorem repetition_concur {k : Skipping} {n : Nat} (positive : 0 < n) (copies rounds count : Nat)
    (values : List α) (total : count + copies = n) (fits : s.Fits env ignore v)
    (kept : s.skipping = k) (enough : env.source.size - s.cursor.position < rounds) :
    (repetition (run budget builder env e) pattern n n start rounds count values s).Concur
      (fun results results' => env.AlwaysReads builder.engine k e → results = results')
      (fun failure failure' => failure' = failure.onBehalfOf pattern')
      (Run.sequence (run budget builder env) pattern' start (List.replicate copies e) values s) := by
  induction copies generalizing rounds count values s with
  | zero =>
    obtain ⟨rounds, rfl⟩ := Nat.exists_eq_add_one_of_ne_zero (Nat.ne_zero_of_lt enough)
    have full : 0 < n ∧ n ≤ count := ⟨positive, Nat.le_of_eq total.symm⟩
    rw [repetition, if_pos full]
    exact .done (fun _ => rfl) (.refl s)
  | succ copies ih =>
    obtain ⟨rounds, rfl⟩ := Nat.exists_eq_add_one_of_ne_zero (Nat.ne_zero_of_lt enough)
    have room : ¬(0 < n ∧ n ≤ count) := by omega
    have goes := run_goes fits budget builder e
    have settles := run_settles budget (rightFor_any builder) env e s
    rw [repetition, if_neg room, List.replicate_succ, Run.sequence]
    cases ran : run budget builder env e s with
    | done a t =>
      rw [ran] at goes settles
      dsimp only
      split
      · next still =>
        -- The other copies begin beside where this run began, so each of them does what it did.
        have stays : s.Beside t :=
          ⟨(run_still ran (Nat.le_of_eq still)).symm, settles.1.1.symm⟩
        obtain ⟨results, w, copied, there⟩ :=
          sequence_still builder pattern' start ran stays copies (a :: values) stays
        rw [copied]
        refine .done (fun reads => ?_) (stays.symm.trans there)
        have further := reads _ _ _ fits.marks (kept ▸ yields_of_run ran)
        exact absurd still (Nat.ne_of_gt further)
      · next moved =>
        have within := goes.1.marks.within
        have onward := goes.2
        exact ih rounds (count + 1) _ (by omega) goes.1 (settles.1.1.trans kept) (by omega)
    | failed failure t =>
      have few : ¬(failure.isMismatch = true ∧ n ≤ count) := fun enough => by omega
      dsimp only
      rw [if_neg few]
      exact .failed (Failure.onBehalfOf_within _ _ _ _ _).symm (.refl _)
    | exhausted => exact .exhausted

/-- A repetition of exactly so many runs is so many copies in a row. -/
theorem Steady.run_replicate (steady : Steady env ignore exprs budget) {n : Nat} (positive : 0 < n)
    (listed : .rep n n e ∈ exprs) (listed' : .seq (List.replicate n e) ∈ exprs)
    (fits : s.Fits env ignore v) {value : α → α → Prop}
    (gathers : ∀ results results' stop, (env.AlwaysReads builder.engine s.skipping e → results = results') →
      value (builder.gather results stop) (builder.gather results' stop)) :
    (run budget builder env (.rep n n e) s).Concur value
      (fun failure failure' => failure' = failure.onBehalfOf (.seq (List.replicate n e)))
      (run budget builder env (.seq (List.replicate n e)) s) := by
  refine steady.run_concur builder listed fits builder listed' (fun _ => rfl)
    fun t there kept _ => ?_
  have enough : env.source.size - t.cursor.position < budget :=
    Nat.lt_of_le_of_lt (Nat.sub_le _ _) steady.rounds
  rw [dispatch, dispatch, checkBounds_rep e (Or.inr (Nat.le_refl n)), andThen_done]
  refine (repetition_concur builder _ _ _ positive n budget 0 [] (Nat.zero_add n) there kept
    enough).andThen fun results results' u u' _ same beside => ?_
  rw [Builder.close, Builder.close, beside.cursor]
  exact .done (gathers _ _ _ same) beside

end Copies

/-! ## Unrolling the first runs -/

section Rounds

variable {env : Env} {ignore : List Expr} {v : Bool} {e : Expr} {min max count p : Nat} {o : Outcome}

/-- Of a repetition it only matters how many runs it still must and may have. -/
theorem repeats_shift {min' max' count' : Nat}
    (full : ∀ further, 0 < max ∧ max ≤ count + further ↔ 0 < max' ∧ max' ≤ count' + further)
    (enough : ∀ further, min ≤ count + further ↔ min' ≤ count' + further)
    (reads : Reads env ignore v (.repeats min max e count) p o) :
    Reads env ignore v (.repeats min' max' e count') p o := by
  generalize said : Task.repeats min max e count = task at reads
  induction reads generalizing count count' with
  | repeatsFull reached =>
    cases said
    exact .repeatsFull ((full 0).mp reached)
  | repeatsStill room still =>
    cases said
    exact .repeatsStill (mt (full 0).mpr room) still
  | repeatsMore room one moved _ _ ih =>
    cases said
    refine .repeatsMore (mt (full 0).mpr room) one moved (ih (fun further => ?_) (fun further => ?_) rfl)
    · rw [Nat.add_assoc, Nat.add_assoc]
      exact full (1 + further)
    · rw [Nat.add_assoc, Nat.add_assoc]
      exact enough (1 + further)
  | repeatsEnough room none reached =>
    cases said
    exact .repeatsEnough (mt (full 0).mpr room) none ((enough 0).mp reached)
  | repeatsShort room none few =>
    cases said
    exact .repeatsShort (mt (full 0).mpr room) none
      (Nat.not_le.mp (mt (enough 0).mpr (Nat.not_le.mpr few)))
  | repeatsFault room broken =>
    cases said
    exact .repeatsFault (mt (full 0).mpr room) broken
  | _ => cases said

theorem repeats_shift_iff {min' max' count' : Nat}
    (full : ∀ further, 0 < max ∧ max ≤ count + further ↔ 0 < max' ∧ max' ≤ count' + further)
    (enough : ∀ further, min ≤ count + further ↔ min' ≤ count' + further) :
    Reads env ignore v (.repeats min max e count) p o ↔
      Reads env ignore v (.repeats min' max' e count') p o :=
  ⟨repeats_shift full enough,
    repeats_shift (fun further => (full further).symm) fun further => (enough further).symm⟩

/-- Where the body reads nothing, so does its repetition, whatever its bounds. -/
theorem repeats_still_iff (within : p ≤ env.source.size)
    (still : Reads env ignore v (.whole e) p (.upTo p)) :
    Reads env ignore v (.repeats min max e count) p o ↔ o = .upTo p := by
  constructor
  · intro reads
    cases reads with
    | repeatsFull reached => rfl
    | repeatsStill room _ => rfl
    | repeatsMore room one moved _ => exact absurd (Outcome.upTo.inj (Reads.unique within one still)) moved
    | repeatsEnough room none => cases Reads.unique within none still
    | repeatsShort room none => cases Reads.unique within none still
    | repeatsFault room broken => cases Reads.unique within broken still
  · rintro rfl
    by_cases reached : 0 < max ∧ max ≤ count
    · exact .repeatsFull reached
    · exact .repeatsStill reached still

/-- A repetition that may have a run has one and goes on from there, also if that run reads nothing. -/
theorem repeats_iff (within : p ≤ env.source.size) (room : ¬(0 < max ∧ max ≤ count)) :
    Reads env ignore v (.repeats min max e count) p o ↔
      ∃ part, Reads env ignore v (.whole e) p part ∧
        part.Leads (Reads env ignore v (.repeats min max e (count + 1)))
          (· = if min ≤ count then .upTo p else .mismatch) o := by
  constructor
  · intro reads
    cases reads with
    | repeatsFull reached => exact absurd reached room
    | repeatsStill _ still => exact ⟨_, still, (repeats_still_iff within still).mpr rfl⟩
    | repeatsMore _ one _ rest => exact ⟨_, one, rest⟩
    | repeatsEnough _ none reached => exact ⟨_, none, (if_pos reached).symm⟩
    | repeatsShort _ none few => exact ⟨_, none, (if_neg (Nat.not_le.mpr few)).symm⟩
    | repeatsFault _ broken => exact ⟨_, broken, rfl⟩
  · rintro ⟨part, reads, leads⟩
    cases part with
    | upTo q =>
      by_cases still : q = p
      · subst still
        obtain rfl := (repeats_still_iff within reads).mp leads
        exact .repeatsStill room reads
      · exact .repeatsMore room reads still leads
    | mismatch =>
      obtain rfl : o = if min ≤ count then .upTo p else .mismatch := leads
      split
      · next reached => exact .repeatsEnough room reads reached
      · next few => exact .repeatsShort room reads (Nat.not_le.mp few)
    | fault broken =>
      obtain rfl : o = .fault broken := leads
      exact .repeatsFault room reads

theorem bare_rep_iff (bounds : max = 0 ∨ min ≤ max) :
    Reads env ignore v (.bare (.rep min max e)) p o ↔
      Reads env ignore v (.repeats min max e 0) p o := by
  have valid : (Expr.rep min max e).boundsFault? = none := by
    rw [Expr.boundsFault?, if_neg (by omega)]
  constructor
  · intro reads
    cases reads with
    | rep _ repeats => exact repeats
    | spelled primitive => cases primitive
    | unspelled primitive => cases primitive
    | illBounded wrong =>
      rw [valid] at wrong
      cases wrong
  · exact .rep valid

/-- A repetition without a minimum does not mismatch. -/
theorem ne_mismatch_of_repeats (reads : Reads env ignore v (.repeats 0 max e count) p o) :
    o ≠ .mismatch := by
  generalize said : Task.repeats 0 max e count = task at reads
  induction reads generalizing count with
  | repeatsMore _ _ _ _ _ ih =>
    cases said
    exact ih rfl
  | repeatsShort _ _ few =>
    cases said
    exact absurd few (Nat.not_lt_zero _)
  | repeatsFull _ => nofun
  | repeatsStill _ _ => nofun
  | repeatsEnough _ _ _ => nofun
  | repeatsFault _ _ => nofun
  | _ => cases said

end Rounds

section Unskipped

variable {env : Env} {ignore : List Expr} {v : Bool} {e : Expr}
  (rested : ∀ p ≤ env.source.size, Rested env ignore v p)
include rested

/-- Where nothing is skipped, the runs that a repetition must have may as well come before it. -/
theorem repeats_copies_iff {min max p : Nat} (bounds : max = 0 ∨ min < max) (within : p ≤ env.source.size)
    {o : Outcome} :
    Reads env ignore v (.repeats min max e 0) p o ↔
      Reads env ignore v (.items (List.replicate min e ++ [.rep 0 (max - min) e])) p o := by
  induction min generalizing max p o with
  | zero =>
    rw [List.replicate_zero, List.nil_append, items_singleton_iff, (rested p within).whole_iff,
      bare_rep_iff (Or.inr (Nat.zero_le _)), Nat.sub_zero]
  | succ min ih =>
    have room : ¬(0 < max ∧ max ≤ 0) := by omega
    rw [repeats_iff within room, List.replicate_succ, List.cons_append, items_cons_iff,
      if_neg (Nat.not_succ_le_zero min)]
    refine exists_congr fun part => and_congr_right fun reads => ?_
    cases part with
    | upTo q =>
      have fewer : Reads env ignore v (.repeats min (max - 1) e 0) q o ↔ _ :=
        ih (by omega) (reads.within within)
      rw [Nat.sub_sub, Nat.add_comm 1 min] at fewer
      exact (repeats_shift_iff (fun further => by omega) fun further => by omega).trans fewer
    | mismatch => exact Iff.rfl
    | fault broken => exact Iff.rfl

theorem synonymous_copies {min max : Nat} (bounds : max = 0 ∨ min < max) :
    Synonymous env ignore v (.rep min max e)
      (.seq (List.replicate min e ++ [.rep 0 (max - min) e])) := by
  intro p here o
  rw [bare_rep_iff (bounds.imp_right Nat.le_of_lt), bare_seq_iff,
    repeats_copies_iff rested bounds here.within]

/-- Where nothing is skipped, to repeat is to read nothing, or once and then to repeat. -/
theorem synonymous_star :
    Synonymous env ignore v (.star e) (.optional (.seq [e, .star e])) := by
  intro p here o
  rw [Expr.star, bare_rep_iff (Or.inl rfl), repeats_iff here.within (by omega), bare_optional_iff,
    if_pos (Nat.zero_le _)]
  have once (whole : Outcome) : Reads env ignore v (.bare (.seq [e, .rep 0 0 e])) p whole ↔ _ :=
    bare_seq_iff.trans items_cons_iff
  simp only [here.whole_iff (e := .seq _), once, Outcome.exists_leads_leads, exists_eq_left]
  refine exists_congr fun part => and_congr_right fun reads => ?_
  cases part with
  | upTo q =>
    have within := reads.within here.within
    have rest (o : Outcome) : Reads env ignore v (.items [.rep 0 0 e]) q o ↔
        Reads env ignore v (.repeats 0 0 e 1) q o := by
      rw [items_singleton_iff, (rested q within).whole_iff, bare_rep_iff (Or.inl rfl)]
      exact repeats_shift_iff (fun further => by omega) fun further => by omega
    have never (whole : Outcome) (reads : Reads env ignore v (.items [.rep 0 0 e]) q whole) :
        whole ≠ .mismatch :=
      ne_mismatch_of_repeats ((rest whole).mp reads)
    exact ((Outcome.exists_leads_self never).trans (rest o)).symm
  | mismatch => exact Iff.rfl
  | fault broken => exact Iff.rfl

end Unskipped

/-- Where skipping is off, or there is nothing to skip, every place is at rest. -/
theorem Session.rested_of_inactive {session : Session} (inactive : session.skipping.active = false)
    {p : Nat} (within : p ≤ session.source.size) :
    Rested session.toEnv session.skipping.ignore session.skipping.verbatim p := by
  refine ⟨within, fun on => ?_⟩
  have nothing : session.skipping.ignore = [] := by
    simpa [Skipping.active, on] using inactive
  rw [nothing, on]
  exact .skipsEnd .skipsOneNil

/-- Repetitions do what they unroll to. -/
theorem repetition_unrolls (session : Session) (marks : session.cursor.Marks session.source)
    (e : Expr) :
    (∀ n, 0 < n →
      session.RecognizesAlike
        (fun failure failure' => failure' = failure.onBehalfOf (.seq (List.replicate n e)))
        (.rep n n e) (.seq (List.replicate n e)) ∧
      (session.AlwaysReads Parsing.run session.skipping e →
        session.ParsesAlike
          (fun failure failure' => failure' = failure.onBehalfOf (.seq (List.replicate n e)))
          (.rep n n e) (.seq (List.replicate n e)))) ∧
    (session.skipping.active = false →
      (∀ min, session.RecognizesAlike Failure.SameKind (.rep min 0 e)
        (.seq (List.replicate min e ++ [.rep 0 0 e]))) ∧
      (∀ min max, min < max → session.RecognizesAlike Failure.SameKind (.rep min max e)
        (.seq (List.replicate min e ++ [.rep 0 (max - min) e]))) ∧
      session.RecognizesAlike Failure.SameKind (.rep 0 0 e) (.optional (.seq [e, .rep 0 0 e]))) := by
  have fits := session.state_fits marks
  rw [Parsing.run_eq_engine]
  constructor
  · intro n positive
    refine ⟨Session.recognizesAlike_of_concur marks fun steady listed listed' => ?_,
      fun reads => Session.parsesAlike_of_concur marks fun steady listed listed' => ?_⟩
    · exact steady.run_replicate .recognizer positive listed listed' fits fun _ _ _ _ => rfl
    · exact steady.run_replicate .tree positive listed listed' fits
        fun _ _ _ same => by rw [same reads]
  · intro inactive
    have rested (p : Nat) (within : p ≤ session.source.size) :=
      Session.rested_of_inactive inactive within
    refine ⟨fun min => ?_, fun min max fewer => ?_, ?_⟩
    · have copies : Synonymous _ _ _ (.rep min 0 e) _ := synonymous_copies rested (Or.inl rfl)
      rw [Nat.zero_sub] at copies
      exact session.recognizesAlike_of_synonymous marks copies
    · exact session.recognizesAlike_of_synonymous marks (synonymous_copies rested (Or.inr fewer))
    · exact session.recognizesAlike_of_synonymous marks (synonymous_star rested)

/-- Two captures come out the same, repeated or written out; and with skipping off, the run that a repetition
must have may come before it. -/
theorem sample_unrolled :
    Session.sample.ParsesAlike
      (fun failure failure' => failure' = failure.onBehalfOf (.seq [.capture "c" .any, .capture "c" .any]))
      (.rep 2 2 (.capture "c" .any)) (.seq [.capture "c" .any, .capture "c" .any]) ∧
    (Session.sample.setVerbatim true).RecognizesAlike Failure.SameKind (.rep 1 3 .any)
      (.seq [.any, .rep 0 2 .any]) := by
  obtain ⟨exactly, _⟩ := repetition_unrolls Session.sample (Cursor.start_marks _) (.capture "c" .any)
  obtain ⟨_, unskipped⟩ :=
    repetition_unrolls (Session.sample.setVerbatim true) (Cursor.start_marks _) .any
  rw [Parsing.run_eq_engine] at exactly
  exact ⟨(exactly 2 (by decide)).2 (alwaysReads_of_consumes rfl),
    (unskipped rfl).2.1 1 3 (by decide)⟩

end PegEngine
