import PegEngine.Proofs.CaptureSpans
import PegEngine.Proofs.Concurrence
import PegEngine.Proofs.Repetition

/-! Operators that could be put in terms of others. What an operator makes of its parts is said by one
equivalence for each; from these two expressions turn out to read the same wherever nothing is left to skip.
The parts of the one are then skipped in front of once more than those of the other, which leads nowhere.
Trees and the places of mismatches are not read off positions; where they are compared, so are the runs. -/
namespace PegEngine

open Run

/-! ## Reading where nothing is left to skip -/

/-- The position is in the source, and there is nothing to skip there, or skipping is off. -/
structure Rested (env : Env) (ignore : List Expr) (v : Bool) (p : Nat) : Prop where
  within : p ≤ env.source.size
  skipped : v = false → Reads env ignore v .skips p (.upTo p)

/-- Where nothing is left to skip, the one expression reads what the other reads. -/
def Synonymous (env : Env) (ignore : List Expr) (v : Bool) (e f : Expr) : Prop :=
  ∀ p, Rested env ignore v p →
    ∀ o, Reads env ignore v (.bare e) p o ↔ Reads env ignore v (.bare f) p o

section Rested

variable {env : Env} {ignore : List Expr} {v : Bool} {e f : Expr} {p q : Nat} {o : Outcome}

theorem rested_of_skips (skips : Reads env ignore false .skips p (.upTo q))
    (within : p ≤ env.source.size) : Rested env ignore false q :=
  ⟨skips.within within, fun _ => .skipsEnd skips.skips_end⟩

/-- From where nothing is left to skip, skipping leads nowhere. -/
theorem Rested.eq_of_skips (rested : Rested env ignore false p)
    (skips : Reads env ignore false .skips p o) : o = .upTo p :=
  Reads.unique rested.within skips (rested.skipped rfl)

/-- Where nothing is left to skip, an expression reads what it says. -/
theorem Rested.whole_iff (rested : Rested env ignore v p) :
    Reads env ignore v (.whole e) p o ↔ Reads env ignore v (.bare e) p o := by
  constructor
  · intro reads
    cases reads with
    | wholeVerbatim bare => exact bare
    | whole skips bare =>
      cases rested.eq_of_skips skips
      exact bare
    | wholeFault skips => cases rested.eq_of_skips skips
  · intro bare
    cases v with
    | true => exact .wholeVerbatim bare
    | false => exact .whole (rested.skipped rfl) bare

namespace Synonymous

variable (synonymous : Synonymous env ignore v e f)
include synonymous

theorem symm : Synonymous env ignore v f e :=
  fun p rested o => (synonymous p rested o).symm

/-- Synonyms read the same behind what is skipped. -/
theorem whole (within : p ≤ env.source.size) (reads : Reads env ignore v (.whole e) p o) :
    Reads env ignore v (.whole f) p o := by
  cases reads with
  | wholeVerbatim bare => exact .wholeVerbatim ((synonymous p ⟨within, nofun⟩ o).mp bare)
  | whole skips bare =>
    exact .whole skips ((synonymous _ (rested_of_skips skips within) o).mp bare)
  | wholeFault skips => exact .wholeFault skips

end Synonymous

end Rested

/-- Synonyms are recognized alike. -/
theorem Session.recognizesAlike_of_synonymous (session : Session)
    (marks : session.cursor.Marks session.source) {e f : Expr}
    (synonymous : Synonymous session.toEnv session.skipping.ignore session.skipping.verbatim e f) :
    session.RecognizesAlike Failure.SameKind e f :=
  recognizesAlike_of_reads marks fun _ =>
    ⟨synonymous.whole marks.within, synonymous.symm.whole marks.within⟩

/-! ## What operators make of their parts -/

/-- What a part leads to: one thing from where it ends, if it matches, and another if it mismatches. A fault
leads to itself. -/
def Outcome.Leads (part : Outcome) (matched : Nat → Outcome → Prop) (mismatched : Outcome → Prop)
    (o : Outcome) : Prop :=
  match part with
  | upTo q => matched q o
  | mismatch => mismatched o
  | fault broken => o = .fault broken

namespace Outcome

variable {reads : Outcome → Prop} {matched matched' : Nat → Outcome → Prop}
  {mismatched mismatched' : Outcome → Prop} {part o : Outcome}

theorem leads_congr (onMatch : ∀ q, matched q o ↔ matched' q o)
    (onMismatch : mismatched o ↔ mismatched' o) :
    part.Leads matched mismatched o ↔ part.Leads matched' mismatched' o := by
  cases part with
  | upTo q => exact onMatch q
  | mismatch => exact onMismatch
  | fault broken => exact Iff.rfl

/-- What a part of a part leads to. -/
theorem exists_leads_leads :
    (∃ whole, (∃ part, reads part ∧ part.Leads matched mismatched whole) ∧
      whole.Leads matched' mismatched' o) ↔
    ∃ part, reads part ∧ part.Leads
      (fun q o => ∃ whole, matched q whole ∧ whole.Leads matched' mismatched' o)
      (fun o => ∃ whole, mismatched whole ∧ whole.Leads matched' mismatched' o) o := by
  constructor
  · rintro ⟨whole, ⟨part, here, first⟩, second⟩
    refine ⟨part, here, ?_⟩
    cases part with
    | upTo q => exact ⟨whole, first, second⟩
    | mismatch => exact ⟨whole, first, second⟩
    | fault broken =>
      cases first
      exact second
  · rintro ⟨part, here, leads⟩
    cases part with
    | upTo q =>
      obtain ⟨whole, first, second⟩ := leads
      exact ⟨whole, ⟨_, here, first⟩, second⟩
    | mismatch =>
      obtain ⟨whole, first, second⟩ := leads
      exact ⟨whole, ⟨_, here, first⟩, second⟩
    | fault broken => exact ⟨_, ⟨_, here, rfl⟩, leads⟩

/-- What does not mismatch comes out as it is where a match leads to itself. -/
theorem exists_leads_self (never : ∀ part, reads part → part ≠ .mismatch) :
    (∃ part, reads part ∧ part.Leads (fun q o => o = .upTo q) mismatched o) ↔ reads o := by
  constructor
  · rintro ⟨part, here, leads⟩
    cases part with
    | upTo q => exact leads ▸ here
    | mismatch => exact absurd rfl (never _ here)
    | fault broken => exact leads ▸ here
  · intro here
    cases o with
    | upTo q => exact ⟨_, here, rfl⟩
    | mismatch => exact absurd rfl (never _ here)
    | fault broken => exact ⟨_, here, rfl⟩

end Outcome

section Parts

variable {env : Env} {ignore : List Expr} {v : Bool} {e : Expr} {es : List Expr} {p : Nat}
  {o : Outcome}

theorem bare_not_iff : Reads env ignore v (.bare (.not e)) p o ↔
    ∃ part, Reads env ignore v (.whole e) p part ∧
      part.Leads (fun _ o => o = .mismatch) (· = .upTo p) o := by
  constructor
  · intro reads
    cases reads with
    | notHere part => exact ⟨_, part, rfl⟩
    | notNone part => exact ⟨_, part, rfl⟩
    | notFault part => exact ⟨_, part, rfl⟩
    | spelled primitive => cases primitive
    | unspelled primitive => cases primitive
    | illBounded wrong => cases wrong
  · rintro ⟨part, reads, leads⟩
    cases part with
    | upTo q => exact leads ▸ .notHere reads
    | mismatch => exact leads ▸ .notNone reads
    | fault broken => exact leads ▸ .notFault reads

theorem bare_peek_iff : Reads env ignore v (.bare (.peek e)) p o ↔
    ∃ part, Reads env ignore v (.whole e) p part ∧
      part.Leads (fun _ o => o = .upTo p) (· = .mismatch) o := by
  constructor
  · intro reads
    cases reads with
    | peekHere part => exact ⟨_, part, rfl⟩
    | peekNone part => exact ⟨_, part, rfl⟩
    | peekFault part => exact ⟨_, part, rfl⟩
    | spelled primitive => cases primitive
    | unspelled primitive => cases primitive
    | illBounded wrong => cases wrong
  · rintro ⟨part, reads, leads⟩
    cases part with
    | upTo q => exact leads ▸ .peekHere reads
    | mismatch => exact leads ▸ .peekNone reads
    | fault broken => exact leads ▸ .peekFault reads

theorem bare_anyBut_iff : Reads env ignore v (.bare (.anyBut e)) p o ↔
    ∃ part, Reads env ignore v (.whole e) p part ∧
      part.Leads (fun _ o => o = .mismatch) (Reads env ignore v (.bare .any) p) o := by
  constructor
  · intro reads
    cases reads with
    | anyButHere part => exact ⟨_, part, rfl⟩
    | anyButNone part one => exact ⟨_, part, one⟩
    | anyButFault part => exact ⟨_, part, rfl⟩
    | spelled primitive => cases primitive
    | unspelled primitive => cases primitive
    | illBounded wrong => cases wrong
  · rintro ⟨part, reads, leads⟩
    cases part with
    | upTo q => exact leads ▸ .anyButHere reads
    | mismatch => exact .anyButNone reads leads
    | fault broken => exact leads ▸ .anyButFault reads

theorem bare_optional_iff : Reads env ignore v (.bare (.optional e)) p o ↔
    ∃ part, Reads env ignore v (.whole e) p part ∧
      part.Leads (fun q o => o = .upTo q) (· = .upTo p) o := by
  constructor
  · intro reads
    cases reads with
    | optionalHere part => exact ⟨_, part, rfl⟩
    | optionalNone part => exact ⟨_, part, rfl⟩
    | optionalFault part => exact ⟨_, part, rfl⟩
    | spelled primitive => cases primitive
    | unspelled primitive => cases primitive
    | illBounded wrong => cases wrong
  · rintro ⟨part, reads, leads⟩
    cases part with
    | upTo q => exact leads ▸ .optionalHere reads
    | mismatch => exact leads ▸ .optionalNone reads
    | fault broken => exact leads ▸ .optionalFault reads

theorem bare_seq_iff :
    Reads env ignore v (.bare (.seq es)) p o ↔ Reads env ignore v (.items es) p o := by
  constructor
  · intro reads
    cases reads with
    | seq items => exact items
    | spelled primitive => cases primitive
    | unspelled primitive => cases primitive
    | illBounded wrong => cases wrong
  · exact .seq

theorem items_cons_iff : Reads env ignore v (.items (e :: es)) p o ↔
    ∃ part, Reads env ignore v (.whole e) p part ∧
      part.Leads (Reads env ignore v (.items es)) (· = .mismatch) o := by
  constructor
  · intro reads
    cases reads with
    | itemsCons part rest => exact ⟨_, part, rest⟩
    | itemsMismatch part => exact ⟨_, part, rfl⟩
    | itemsFault part => exact ⟨_, part, rfl⟩
  · rintro ⟨part, reads, leads⟩
    cases part with
    | upTo q => exact .itemsCons reads leads
    | mismatch => exact leads ▸ .itemsMismatch reads
    | fault broken => exact leads ▸ .itemsFault reads

theorem items_singleton_iff :
    Reads env ignore v (.items [e]) p o ↔ Reads env ignore v (.whole e) p o := by
  refine ⟨reads_items_singleton, fun reads => ?_⟩
  cases o with
  | upTo q => exact .itemsCons reads .itemsNil
  | mismatch => exact .itemsMismatch reads
  | fault broken => exact .itemsFault reads

theorem bare_choice_iff :
    Reads env ignore v (.bare (.choice es)) p o ↔ Reads env ignore v (.alternatives es) p o := by
  constructor
  · intro reads
    cases reads with
    | choice alternatives => exact alternatives
    | spelled primitive => cases primitive
    | unspelled primitive => cases primitive
    | illBounded wrong => cases wrong
  · exact .choice

theorem alternatives_cons_iff : Reads env ignore v (.alternatives (e :: es)) p o ↔
    ∃ part, Reads env ignore v (.whole e) p part ∧
      part.Leads (fun q o => o = .upTo q) (Reads env ignore v (.alternatives es) p) o := by
  constructor
  · intro reads
    cases reads with
    | alternativesHere part => exact ⟨_, part, rfl⟩
    | alternativesNext part rest => exact ⟨_, part, rest⟩
    | alternativesFault part => exact ⟨_, part, rfl⟩
  · rintro ⟨part, reads, leads⟩
    cases part with
    | upTo q => exact leads ▸ .alternativesHere reads
    | mismatch => exact .alternativesNext reads leads
    | fault broken => exact leads ▸ .alternativesFault reads

/-- Primitives are spelled out by the characters ahead. -/
theorem bare_primitive_iff (primitive : e.isPrimitive = true) (bounded : e.boundsFault? = none) :
    Reads env ignore v (.bare e) p o ↔ o = .ofExtent? p (e.extent? (env.source.ahead p)) := by
  constructor
  · intro reads
    cases reads with
    | spelled _ _ extent => rw [extent, Outcome.ofExtent?]
    | unspelled _ _ extent => rw [extent, Outcome.ofExtent?]
    | illBounded wrong =>
      rw [bounded] at wrong
      cases wrong
    | _ => cases primitive
  · rintro rfl
    exact .primitive primitive bounded

end Parts

/-! ## Operators in terms of others -/

section Operators

variable {env : Env} {ignore : List Expr} {v : Bool}

/-- To look ahead is to look twice for what must not be there. -/
theorem synonymous_peek (e : Expr) : Synonymous env ignore v (.peek e) (.not (.not e)) := by
  intro p rested o
  rw [bare_peek_iff, bare_not_iff]
  simp only [rested.whole_iff (e := .not e), bare_not_iff, Outcome.exists_leads_leads, exists_eq_left]
  exact exists_congr fun part => and_congr_right fun _ =>
    Outcome.leads_congr (fun _ => Iff.rfl) Iff.rfl

/-- To read one character but for what must not be there is to make sure of that first. -/
theorem synonymous_anyBut (e : Expr) : Synonymous env ignore v (.anyBut e) (.seq [.not e, .any]) := by
  intro p rested o
  rw [bare_anyBut_iff, bare_seq_iff, items_cons_iff]
  simp only [rested.whole_iff (e := .not e), bare_not_iff, Outcome.exists_leads_leads, exists_eq_left]
  refine exists_congr fun part => and_congr_right fun _ =>
    Outcome.leads_congr (fun _ => Iff.rfl) ?_
  exact rested.whole_iff.symm.trans items_singleton_iff.symm

/-- A choice of primitives reads what the first of them reads that is spelled out ahead. -/
theorem alternatives_primitive_iff {p : Nat} (rested : Rested env ignore v p) {es : List Expr}
    (primitives : ∀ e ∈ es, e.isPrimitive = true ∧ e.boundsFault? = none) {o : Outcome} :
    Reads env ignore v (.alternatives es) p o ↔
      o = .ofExtent? p (es.findSome? (·.extent? (env.source.ahead p))) := by
  induction es with
  | nil =>
    constructor
    · rintro ⟨⟩
      rfl
    · rintro rfl
      exact .alternativesNil
  | cons e rest ih =>
    obtain ⟨⟨primitive, bounded⟩, others⟩ := List.forall_mem_cons.mp primitives
    simp only [alternatives_cons_iff, rested.whole_iff, bare_primitive_iff primitive bounded,
      exists_eq_left, List.findSome?_cons]
    cases e.extent? (env.source.ahead p) with
    | none => exact ih others
    | some n => exact Iff.rfl

/-- A line break is both characters in a row, or else one of them. -/
theorem extent?_eol (ahead : List Char) :
    Expr.eol.extent? ahead =
      [Expr.literal "\r\n", .char '\n', .char '\r'].findSome? (·.extent? ahead) := by
  have both : "\r\n".toList = ['\r', '\n'] := rfl
  rcases ahead with _ | ⟨c, rest⟩
  · rfl
  · by_cases isReturn : c = '\r'
    · subst isReturn
      by_cases follows : rest.head? = some '\n'
      · obtain ⟨tail, rfl⟩ := List.head?_eq_some_iff.mp follows
        simp [Expr.extent?, Expr.breakExtent?, both]
      · have lone : ¬['\n'] <+: rest := by
          rintro ⟨tail, rfl⟩
          exact follows rfl
        simp [Expr.extent?, Expr.breakExtent?_return follows, both, lone]
    · have notBoth : ¬['\r', '\n'] <+: c :: rest := by
        rw [List.cons_prefix_cons]
        exact fun begins => isReturn begins.1.symm
      by_cases isFeed : c = '\n'
      · subst isFeed
        simp [Expr.extent?, Expr.breakExtent?, both]
      · have none : Expr.breakExtent? (c :: rest) = none :=
          Expr.breakExtent?_other (by simpa using isFeed) (by simpa using isReturn)
        simp [Expr.extent?, none, both, notBoth, isFeed, isReturn]

theorem extent?_blank (ahead : List Char) :
    Expr.space.extent? ahead =
      [Expr.char ' ', .char '\t', .eol].findSome? (·.extent? ahead) := by
  rcases ahead with _ | ⟨c, rest⟩
  · rfl
  · by_cases isSpace : c = ' '
    · subst isSpace
      rfl
    · by_cases isTab : c = '\t'
      · subst isTab
        rfl
      · rw [Expr.extent?_space (by simpa using isSpace) (by simpa using isTab)]
        simp [Expr.extent?, isSpace, isTab]

theorem synonymous_eol :
    Synonymous env ignore v .eol (.choice [.literal "\r\n", .char '\n', .char '\r']) := by
  intro p rested o
  rw [bare_choice_iff, bare_primitive_iff rfl rfl, extent?_eol,
    alternatives_primitive_iff rested (by simp [Expr.isPrimitive, Expr.boundsFault?])]

theorem synonymous_space :
    Synonymous env ignore v .space (.choice [.char ' ', .char '\t', .eol]) := by
  intro p rested o
  rw [bare_choice_iff, bare_primitive_iff rfl rfl, extent?_blank,
    alternatives_primitive_iff rested (by simp [Expr.isPrimitive, Expr.boundsFault?])]

end Operators

/-! ## Options -/

section Options

variable {α : Type} {env : Env} {ignore exprs : List Expr} {v : Bool} {budget : Nat} {e : Expr}
  {s : State}

/-- An option is a choice that has nothing as its last alternative. -/
theorem Steady.run_optional (steady : Steady env ignore exprs budget) (builder : Builder α)
    (listed : .optional e ∈ exprs) (listed' : .choice [e, .seq []] ∈ exprs)
    (fits : s.Fits env ignore v) :
    (run budget builder env (.optional e) s).Concur Eq Failure.SameKind
      (run budget builder env (.choice [e, .seq []]) s) := by
  have inside : .seq [] ∈ exprs :=
    steady.closed.part listed' (List.mem_cons_of_mem _ (List.mem_singleton_self _))
  refine steady.run_concur builder listed fits builder listed' (fun _ => rfl) fun t there _ rested => ?_
  rw [dispatch, dispatch, optional_eq_orElse, firstOf_cons]
  refine (Concur.refl (run budget builder env e t)).sameKind.orElse fun trail trail' u u' ran beside => ?_
  have back := (beside_of_failed builder ran).trans beside
  have nothing := steady.run_settled builder inside (there.beside back) (rested.beside back)
  rw [dispatch, Run.sequence, List.reverse_nil, andThen_done, Builder.close] at nothing
  rw [firstOf_cons, Builder.close, beside.cursor]
  obtain ⟨_, w, ran', same, stays⟩ := nothing.eq_done
  rw [ran']
  exact .done same.symm (beside.trans stays.symm)

end Options

/-! ## Literals -/

/-- Both are mismatches that stop at the same place, or both are the same fault. -/
structure Failure.SameStop (failure failure' : Failure) : Prop where
  kind : failure.SameKind failure'
  stop : failure.stop? = failure'.stop?

namespace Run

variable {α : Type} {s : State}

theorem map_recognizer_nothing (r : Run Cursor) : r.map Builder.recognizer.nothing = r := by
  cases r <;> rfl

/-- Characters are read whatever is skipped. -/
theorem allOf_withSkipping (source : Source) (pattern : Expr) (start : Cursor) (chars : List Char)
    (k : Skipping) :
    allOf source pattern start chars (s.withSkipping k) =
      (allOf source pattern start chars s).afterwards fun t => t.withSkipping k := by
  induction chars generalizing s with
  | nil => rfl
  | cons c rest ih =>
    rw [allOf, allOf, State.withSkipping_cursor]
    split
    · exact ih (s := s.next source)
    · rfl

/-- After the body skipping is set as it was before. -/
theorem unskipped_eq {right : α → Cursor → Prop} {start : Cursor} {body : State → Run α}
    (settles : Settles right start (s.withSkipping (s.skipping.toggle true))
      (body (s.withSkipping (s.skipping.toggle true)))) :
    unskipped body s = (body (s.withSkipping (s.skipping.toggle true))).afterwards
      fun t => t.withSkipping s.skipping := by
  rw [unskipped]
  cases ran : body (s.withSkipping (s.skipping.toggle true)) with
  | done a t =>
    rw [ran] at settles
    rw [afterwards_done, afterwards_done, settles.1.1]
    rfl
  | failed failure t =>
    rw [ran] at settles
    rw [afterwards_failed, afterwards_failed, settles.1]
    rfl
  | exhausted => rfl

end Run

section Literals

variable {env : Env} {ignore exprs : List Expr} {v : Bool} {budget : Nat} {s : State}
  (steady : Steady env ignore exprs budget)
include steady

/-- With skipping off, characters in a row are read as expressions for them are one after the other. -/
theorem Steady.allOf_concur (chars : List Char) (listed : ∀ c ∈ chars, .char c ∈ exprs)
    (fits : s.Fits env ignore true) (pattern pattern' : Expr) (start : Cursor)
    (values : List Cursor) :
    (allOf env.source pattern start chars s).Concur Eq Failure.SameStop
      (((Run.sequence (run budget .recognizer env) pattern' start (chars.map .char) values s).andThen
        Builder.recognizer.close).orReturnTo start) := by
  induction chars generalizing s values with
  | nil => exact .done rfl (.refl s)
  | cons c rest ih =>
    obtain ⟨here, others⟩ := List.forall_mem_cons.mp listed
    rw [List.map_cons, allOf, Run.sequence, steady.run_eq_step here fits, step, skip_off fits,
      andThen_done, dispatch, oneOf]
    cases ahead : s.cursor.character with
    | none => exact .failed ⟨rfl, rfl⟩ (.refl _)
    | some a =>
      by_cases same : a = c
      · subst same
        simp only [if_pos, beq_self_eq_true]
        exact ih others fits.next _
      · simp only [Option.some.injEq, same, if_false, beq_iff_eq]
        exact .failed ⟨rfl, rfl⟩ (.refl _)

/-- A literal is its characters one after the other, with nothing skipped between them. -/
theorem Steady.run_literal {text : String} (listed : .literal text ∈ exprs)
    (listed' : .verbatim (.seq (text.toList.map .char)) ∈ exprs) (fits : s.Fits env ignore v) :
    (run budget .recognizer env (.literal text) s).Concur Eq Failure.SameStop
      (run budget .recognizer env (.verbatim (.seq (text.toList.map .char))) s) := by
  refine steady.run_concur .recognizer listed fits .recognizer listed' (fun _ => ⟨rfl, rfl⟩)
    fun t there _ _ => ?_
  have inside : (t.withSkipping (t.skipping.toggle true)).Fits env ignore true := there.off rfl
  have spelled := steady.closed.part listed' (List.mem_singleton_self _)
  rw [dispatch, dispatch, unskipped_eq (run_settles budget rightFor_recognizer env _ _),
    steady.run_eq_step spelled inside, step, skip_off inside, andThen_done, dispatch]
  have chars := steady.allOf_concur text.toList
    (fun c mem => steady.closed.part spelled (List.mem_map_of_mem mem)) inside (.literal text)
    (.seq (text.toList.map .char)) t.cursor []
  have mended : allOf env.source (.literal text) t.cursor text.toList t = _ :=
    allOf_withSkipping (s := t.withSkipping (t.skipping.toggle true)) _ _ _ _ t.skipping
  rw [map_recognizer_nothing, mended]
  exact chars.afterwards fun _ _ beside => beside.withSkipping t.skipping

end Literals

/-! ## Where lookahead ends -/

section Stays

variable {α : Type} {env : Env} {builder : Builder α} {budget : Nat} {e : Expr} {s t : State} {a : α}

theorem notAhead_stays (body : State → Run Cursor) (pattern : Expr) (s : State) :
    (notAhead body pattern s).Ends (fun _ t => t.cursor = s.cursor) fun _ _ => True := by
  rw [notAhead]
  cases body s with
  | done stop t => trivial
  | failed failure t =>
    cases failure with
    | mismatch trail => rfl
    | fault broken => trivial
  | exhausted => trivial

theorem ahead_stays (body : State → Run Cursor) (pattern : Expr) (s : State) :
    (ahead body pattern s).Ends (fun _ t => t.cursor = s.cursor) fun _ _ => True := by
  rw [ahead]
  cases body s with
  | done stop t => rfl
  | failed failure t => trivial
  | exhausted => trivial

/-- An expression that stays where nothing is left to skip ends where skipping ends. -/
theorem skips_of_stays
    (stays : ∀ u, (dispatch builder budget (run budget .recognizer env) (run budget builder env) env e
      u).Ends (fun _ t => t.cursor = u.cursor) fun _ _ => True)
    (ran : run (budget + 1) builder env e s = .done a t) :
    ∃ u, skip budget (run budget .recognizer env) s = .done () u ∧ u.cursor = t.cursor := by
  obtain ⟨_, u, skipped, said⟩ := andThen_eq_done (orReturnTo_eq_done ran)
  have ends := stays u
  rw [said] at ends
  exact ⟨u, skipped, ends.symm⟩

end Stays

/-- An expression that stays where nothing is left to skip only skips. -/
theorem Session.skipsUpTo_of_stays (session : Session) (marks : session.cursor.Marks session.source)
    {e : Expr}
    (stays : ∀ budget u, (dispatch .recognizer budget (run budget .recognizer session.toEnv)
      (run budget .recognizer session.toEnv) session.toEnv e u).Ends
        (fun _ t => t.cursor = u.cursor) fun _ _ => True)
    {reply : Reply Cursor} {stop : Cursor} (replied : session.recognize e = some reply)
    (succeeded : reply.outcome = .ok stop) :
    session.SkipsUpTo stop ∧ reply.session = session.jump stop := by
  rw [← session.recognizeWithin_of_le marks (Nat.le_succ _), recognizeWithin_eq] at replied
  obtain ⟨t, ran, rfl⟩ := done_of_reply? replied succeeded
  obtain ⟨u, skipped, here⟩ := skips_of_stays (stays _) ran
  have settles := run_settles (session.budget e + 1) rightFor_recognizer session.toEnv e session.state
  rw [ran] at settles
  obtain ⟨⟨kept, _⟩, reached⟩ := settles
  have kept : t.skipping = session.skipping := kept
  refine ⟨skipsUpTo_iff.mpr ⟨_, u, skipped, here.trans reached.symm⟩, ?_⟩
  rw [leave, kept, ← reached, jump]

/-- An operator that could be put in terms of others does what these say, and one that looks ahead consumes
nothing but what is skipped. -/
theorem operators_defined (session : Session) (marks : session.cursor.Marks session.source)
    (e : Expr) (text : String) :
    session.RecognizesAlike Failure.SameKind (.peek e) (.not (.not e)) ∧
    session.RecognizesAlike Failure.SameKind (.anyBut e) (.seq [.not e, .any]) ∧
    session.RecognizesAlike Failure.SameKind (.optional e) (.choice [e, .seq []]) ∧
    session.ParsesAlike Failure.SameKind (.optional e) (.choice [e, .seq []]) ∧
    session.RecognizesAlike Failure.SameStop (.literal text)
      (.verbatim (.seq (text.toList.map .char))) ∧
    session.RecognizesAlike Failure.SameKind .eol
      (.choice [.literal "\r\n", .char '\n', .char '\r']) ∧
    session.RecognizesAlike Failure.SameKind .space (.choice [.char ' ', .char '\t', .eol]) ∧
    ∀ ahead ∈ [Expr.not e, .peek e], ∀ reply stop, session.recognize ahead = some reply →
      reply.outcome = .ok stop → session.SkipsUpTo stop ∧ reply.session = session.jump stop := by
  have fits := session.state_fits marks
  refine ⟨session.recognizesAlike_of_synonymous marks (synonymous_peek e),
    session.recognizesAlike_of_synonymous marks (synonymous_anyBut e),
    Session.recognizesAlike_of_concur marks fun steady listed listed' =>
      steady.run_optional .recognizer listed listed' fits,
    Session.parsesAlike_of_concur marks fun steady listed listed' =>
      steady.run_optional .tree listed listed' fits,
    Session.recognizesAlike_of_concur marks fun steady listed listed' =>
      steady.run_literal listed listed' fits,
    session.recognizesAlike_of_synonymous marks synonymous_eol,
    session.recognizesAlike_of_synonymous marks synonymous_space, ?_⟩
  refine List.forall_mem_cons.mpr ⟨fun _ _ => session.skipsUpTo_of_stays marks fun _ u => ?_,
    List.forall_mem_singleton.mpr fun _ _ => session.skipsUpTo_of_stays marks fun _ u => ?_⟩
  · exact (notAhead_stays _ _ u).map fun _ _ => id
  · exact (ahead_stays _ _ u).map fun _ _ => id

/-- Behind the `a` nothing but the blank is consumed, to find out that there is no further `a`. -/
theorem sample_operators : ∃ reply stop,
    (Session.sample.advance 1).recognize (.not (.char 'a')) = some reply ∧
      reply.outcome = .ok stop ∧ (Session.sample.advance 1).SkipsUpTo stop ∧ stop.position = 2 := by
  have answered : ((Session.sample.advance 1).recognize (.not (.char 'a'))).map
      (fun reply => reply.outcome.toOption.map Cursor.position) = some (some 2) := by
    decide +kernel
  obtain ⟨⟨outcome, after, log⟩, replied, succeeded⟩ := Option.map_eq_some_iff.mp answered
  cases outcome with
  | error failure => cases succeeded
  | ok stop =>
    obtain ⟨_, _, _, _, _, _, _, skips⟩ :=
      operators_defined (Session.sample.advance 1) (Cursor.start_marks _).next (.char 'a') ""
    exact ⟨_, stop, replied, rfl, (skips _ List.mem_cons_self _ stop replied rfl).1,
      Option.some.inj succeeded⟩

end PegEngine
