import PegEngine.Proofs.Legible
import PegEngine.Proofs.Unrolling
import Mathlib.Data.List.Forall2

/-! Expressions that are written alike. They may differ in how they are spelled out and, where the written form
leaves it open, in more than that. How they are spelled out makes no difference to what they match: a choice of one
is as good as a sequence of one, and any character but another as good as the sequence that it is written as. -/
namespace PegEngine

open Run
open List (Forall₂)

/-! ## Outcomes of the same sort -/

/-- Both read up to the same position, or both mismatch, or both are at fault, whatever the fault. -/
inductive Outcome.Like : Outcome → Outcome → Prop where
  | upTo (stop : Nat) : Like (.upTo stop) (.upTo stop)
  | mismatch : Like .mismatch .mismatch
  | fault (broken broken' : Fault) : Like (.fault broken) (.fault broken')

namespace Outcome

variable {o o' o'' part part' : Outcome}

theorem Like.refl (o : Outcome) : o.Like o := by
  cases o with
  | upTo stop => exact .upTo stop
  | mismatch => exact .mismatch
  | fault broken => exact .fault broken broken

theorem Like.trans (like : o.Like o') (like' : o'.Like o'') : o.Like o'' := by
  cases like with
  | upTo stop => exact like'
  | mismatch => exact like'
  | fault broken broken' =>
    cases like' with
    | fault _ broken'' => exact .fault broken broken''

/-- Parts that come out alike lead to outcomes that are alike. -/
theorem Like.leads (like : part.Like part') {matched matched' : Nat → Outcome → Prop}
    {mismatched mismatched' : Outcome → Prop} (leads : part.Leads matched mismatched o)
    (onMatch : ∀ q, part = .upTo q → matched q o → ∃ o', matched' q o' ∧ o.Like o')
    (onMismatch : mismatched o → ∃ o', mismatched' o' ∧ o.Like o') :
    ∃ o', part'.Leads matched' mismatched' o' ∧ o.Like o' := by
  cases like with
  | upTo stop => exact onMatch stop rfl leads
  | mismatch => exact onMismatch leads
  | fault broken broken' =>
    obtain rfl : o = .fault broken := leads
    exact ⟨_, rfl, .fault broken broken'⟩

end Outcome

/-! ## Emulation -/

/-- However reading the one comes out, reading the other from there comes out alike. -/
def Emulates (env : Env) (ignore : List Expr) (task task' : Task) : Prop :=
  ∀ v p, p ≤ env.source.size → ∀ o, Reads env ignore v task p o →
    ∃ o', Reads env ignore v task' p o' ∧ o.Like o'

section Emulation

variable {env : Env} {ignore : List Expr} {task task' task'' : Task} {e f : Expr} {es fs : List Expr}

theorem Emulates.refl (task : Task) : Emulates env ignore task task :=
  fun _ _ _ o reads => ⟨o, reads, .refl o⟩

theorem Emulates.trans (first : Emulates env ignore task task') (second : Emulates env ignore task' task'') :
    Emulates env ignore task task'' := by
  intro v p within o reads
  obtain ⟨o', reads', like⟩ := first v p within o reads
  obtain ⟨o'', reads'', like'⟩ := second v p within o' reads'
  exact ⟨o'', reads'', like.trans like'⟩

/-- An expression emulates another if it does so where nothing is left to skip. -/
theorem Emulates.whole (bare : ∀ v p, Rested env ignore v p → ∀ o, Reads env ignore v (.bare e) p o →
      ∃ o', Reads env ignore v (.bare f) p o' ∧ o.Like o') :
    Emulates env ignore (.whole e) (.whole f) := by
  intro v p within o reads
  cases reads with
  | wholeVerbatim reads =>
    obtain ⟨o', reads', like⟩ := bare true _ ⟨within, nofun⟩ o reads
    exact ⟨o', .wholeVerbatim reads', like⟩
  | whole skips reads =>
    obtain ⟨o', reads', like⟩ := bare false _ (rested_of_skips skips within) o reads
    exact ⟨o', .whole skips reads', like⟩
  | wholeFault skips => exact ⟨_, .wholeFault skips, .refl _⟩

theorem emulates_of_synonymous (synonymous : ∀ v, Synonymous env ignore v e f) :
    Emulates env ignore (.whole e) (.whole f) :=
  .whole fun v p rested o reads => ⟨o, (synonymous v p rested o).mp reads, .refl o⟩

/-- What is made of parts comes out alike if the parts do, and if what they lead to does. -/
theorem Emulates.leads (parts : Emulates env ignore (.whole e) (.whole f)) {v : Bool} {p : Nat}
    (within : p ≤ env.source.size) {reads reads' : Outcome → Prop} {matched matched' : Nat → Outcome → Prop}
    {mismatched mismatched' : Outcome → Prop}
    (made : ∀ o, reads o ↔ ∃ part, Reads env ignore v (.whole e) p part ∧ part.Leads matched mismatched o)
    (made' : ∀ o, reads' o ↔ ∃ part, Reads env ignore v (.whole f) p part ∧ part.Leads matched' mismatched' o)
    {o : Outcome}
    (onMatch : ∀ q ≤ env.source.size, matched q o → ∃ o', matched' q o' ∧ o.Like o')
    (onMismatch : mismatched o → ∃ o', mismatched' o' ∧ o.Like o') (here : reads o) :
    ∃ o', reads' o' ∧ o.Like o' := by
  obtain ⟨part, reads, leads⟩ := (made o).mp here
  obtain ⟨part', reads', like⟩ := parts v p within part reads
  obtain ⟨o', leads', likely⟩ := like.leads leads
    (fun q stops => onMatch q ((stops ▸ reads).within within)) onMismatch
  exact ⟨o', (made' o').mpr ⟨part', reads', leads'⟩, likely⟩

/-- An outcome that is told is like itself. -/
theorem Outcome.exists_like_of_eq {o told : Outcome} (same : o = told) : ∃ o', o' = told ∧ o.Like o' :=
  ⟨told, rfl, same ▸ .refl o⟩

theorem emulates_items (parts : Forall₂ (fun e f => Emulates env ignore (.whole e) (.whole f)) es fs) :
    Emulates env ignore (.items es) (.items fs) := by
  induction parts with
  | nil => exact .refl _
  | cons first _ ih =>
    intro v p within o
    exact first.leads within (fun _ => items_cons_iff) (fun _ => items_cons_iff)
      (fun q reached => ih v q reached o) Outcome.exists_like_of_eq

theorem emulates_alternatives
    (parts : Forall₂ (fun e f => Emulates env ignore (.whole e) (.whole f)) es fs) :
    Emulates env ignore (.alternatives es) (.alternatives fs) := by
  induction parts with
  | nil => exact .refl _
  | cons first _ ih =>
    intro v p within o
    exact first.leads within (fun _ => alternatives_cons_iff) (fun _ => alternatives_cons_iff)
      (fun _ _ => Outcome.exists_like_of_eq) (ih v p within o)

theorem emulates_seq (items : Emulates env ignore (.items es) (.items fs)) :
    Emulates env ignore (.whole (.seq es)) (.whole (.seq fs)) :=
  .whole fun v p rested o reads => by
    obtain ⟨o', reads', like⟩ := items v p rested.within o (bare_seq_iff.mp reads)
    exact ⟨o', .seq reads', like⟩

theorem emulates_choice (alternatives : Emulates env ignore (.alternatives es) (.alternatives fs)) :
    Emulates env ignore (.whole (.choice es)) (.whole (.choice fs)) :=
  .whole fun v p rested o reads => by
    obtain ⟨o', reads', like⟩ := alternatives v p rested.within o (bare_choice_iff.mp reads)
    exact ⟨o', .choice reads', like⟩

variable (body : Emulates env ignore (.whole e) (.whole f))
include body

theorem emulates_optional : Emulates env ignore (.whole (.optional e)) (.whole (.optional f)) :=
  .whole fun _ _ rested _ => body.leads rested.within (fun _ => bare_optional_iff) (fun _ => bare_optional_iff)
    (fun _ _ => Outcome.exists_like_of_eq) Outcome.exists_like_of_eq

theorem emulates_not : Emulates env ignore (.whole (.not e)) (.whole (.not f)) :=
  .whole fun _ _ rested _ => body.leads rested.within (fun _ => bare_not_iff) (fun _ => bare_not_iff)
    (fun _ _ => Outcome.exists_like_of_eq) Outcome.exists_like_of_eq

theorem emulates_peek : Emulates env ignore (.whole (.peek e)) (.whole (.peek f)) :=
  .whole fun _ _ rested _ => body.leads rested.within (fun _ => bare_peek_iff) (fun _ => bare_peek_iff)
    (fun _ _ => Outcome.exists_like_of_eq) Outcome.exists_like_of_eq

theorem emulates_capture (name : String) :
    Emulates env ignore (.whole (.capture name e)) (.whole (.capture name f)) :=
  .whole fun v p rested o reads => by
    cases reads with
    | capture inside =>
      obtain ⟨o', inside', like⟩ := body v p rested.within o inside
      exact ⟨o', .capture inside', like⟩
    | spelled primitive => cases primitive
    | unspelled primitive => cases primitive
    | illBounded wrong => cases wrong

theorem emulates_verbatim : Emulates env ignore (.whole (.verbatim e)) (.whole (.verbatim f)) :=
  .whole fun v p rested o reads => by
    cases reads with
    | verbatim inside =>
      obtain ⟨o', inside', like⟩ := body true p rested.within o inside
      exact ⟨o', .verbatim inside', like⟩
    | spelled primitive => cases primitive
    | unspelled primitive => cases primitive
    | illBounded wrong => cases wrong

theorem emulates_repeats (min max count : Nat) :
    Emulates env ignore (.repeats min max e count) (.repeats min max f count) := by
  intro v p within o reads
  generalize said : Task.repeats min max e count = task at reads
  induction reads generalizing count with
  | repeatsFull reached =>
    cases said
    exact ⟨_, .repeatsFull reached, .refl _⟩
  | repeatsStill room still =>
    cases said
    obtain ⟨_, still', ⟨⟩⟩ := body _ _ within _ still
    exact ⟨_, .repeatsStill room still', .refl _⟩
  | repeatsMore room one moved _ _ ih =>
    cases said
    obtain ⟨_, one', ⟨⟩⟩ := body _ _ within _ one
    obtain ⟨o', rest', like⟩ := ih _ (one.within within) rfl
    exact ⟨o', .repeatsMore room one' moved rest', like⟩
  | repeatsEnough room none reached =>
    cases said
    obtain ⟨_, none', ⟨⟩⟩ := body _ _ within _ none
    exact ⟨_, .repeatsEnough room none' reached, .refl _⟩
  | repeatsShort room none few =>
    cases said
    obtain ⟨_, none', ⟨⟩⟩ := body _ _ within _ none
    exact ⟨_, .repeatsShort room none' few, .refl _⟩
  | repeatsFault room broken =>
    cases said
    obtain ⟨_, broken', ⟨⟩⟩ := body _ _ within _ broken
    exact ⟨_, .repeatsFault room broken', .fault _ _⟩
  | _ => cases said

theorem emulates_rep (min max : Nat) :
    Emulates env ignore (.whole (.rep min max e)) (.whole (.rep min max f)) :=
  .whole fun v p rested o reads => by
    cases reads with
    | rep valid repeats =>
      obtain ⟨o', repeats', like⟩ := emulates_repeats body min max 0 v p rested.within o repeats
      exact ⟨o', .rep valid repeats', like⟩
    | illBounded wrong => exact ⟨_, .illBounded wrong, .fault _ _⟩
    | spelled primitive => cases primitive
    | unspelled primitive => cases primitive

end Emulation

/-! ## Other spellings -/

/-- Each of the two emulates the other. -/
structure Interchangeable (env : Env) (ignore : List Expr) (e f : Expr) : Prop where
  forth : Emulates env ignore (.whole e) (.whole f)
  back : Emulates env ignore (.whole f) (.whole e)

section Spellings

variable {env : Env} {ignore : List Expr} {e f g : Expr} {es fs : List Expr}

namespace Interchangeable

theorem refl (e : Expr) : Interchangeable env ignore e e :=
  ⟨.refl _, .refl _⟩

theorem symm (same : Interchangeable env ignore e f) : Interchangeable env ignore f e :=
  ⟨same.back, same.forth⟩

theorem trans (first : Interchangeable env ignore e f) (second : Interchangeable env ignore f g) :
    Interchangeable env ignore e g :=
  ⟨first.forth.trans second.forth, second.back.trans first.back⟩

theorem of_synonymous (synonymous : ∀ v, Synonymous env ignore v e f) : Interchangeable env ignore e f :=
  ⟨emulates_of_synonymous synonymous, emulates_of_synonymous fun v => (synonymous v).symm⟩

/-- What emulates when its body does can be exchanged when its body can. -/
theorem congr {build : Expr → Expr} (same : Interchangeable env ignore e f)
    (emulates : ∀ {e f}, Emulates env ignore (.whole e) (.whole f) →
      Emulates env ignore (.whole (build e)) (.whole (build f))) :
    Interchangeable env ignore (build e) (build f) :=
  ⟨emulates same.forth, emulates same.back⟩

theorem seq (parts : Forall₂ (Interchangeable env ignore) es fs) :
    Interchangeable env ignore (.seq es) (.seq fs) where
  forth := emulates_seq (emulates_items (parts.imp fun _ _ same => same.forth))
  back := emulates_seq (emulates_items (parts.flip.imp fun _ _ same => same.back))

theorem choice (parts : Forall₂ (Interchangeable env ignore) es fs) :
    Interchangeable env ignore (.choice es) (.choice fs) where
  forth := emulates_choice (emulates_alternatives (parts.imp fun _ _ same => same.forth))
  back := emulates_choice (emulates_alternatives (parts.flip.imp fun _ _ same => same.back))

end Interchangeable

/-- A choice of one is a sequence of one. -/
theorem synonymous_single (v : Bool) (e : Expr) : Synonymous env ignore v (.choice [e]) (.seq [e]) := by
  intro p _ o
  rw [bare_choice_iff, bare_seq_iff, items_singleton_iff, alternatives_cons_iff]
  constructor
  · rintro ⟨part, reads, leads⟩
    cases part with
    | upTo q => exact leads ▸ reads
    | mismatch =>
      cases leads
      exact reads
    | fault broken => exact leads ▸ reads
  · intro reads
    refine ⟨o, reads, ?_⟩
    cases o with
    | upTo q => rfl
    | mismatch => exact .alternativesNil
    | fault broken => rfl

/-- How an expression is spelled out makes no difference. -/
theorem interchangeable_respell (e : Expr) : Interchangeable env ignore e e.respell := by
  induction e using Expr.byParts with
  | whole e ih =>
    have members {es : List Expr} (each : ∀ e ∈ es, Interchangeable env ignore e e.respell) :
        Forall₂ (Interchangeable env ignore) es (Expr.respellAll es) := by
      rw [Expr.respellAll_eq_map, List.forall₂_map_right_iff]
      exact List.forall₂_same.mpr each
    cases e with
    | seq items => exact .seq (members ih)
    | choice alternatives =>
      match alternatives with
      | [] => exact .refl _
      | [only] =>
        have inside := ih only (List.mem_singleton_self _)
        exact (Interchangeable.of_synonymous fun v => synonymous_single v only).trans (.seq (.cons inside .nil))
      | _ :: _ :: _ => exact .choice (members ih)
    | optional body =>
      have inside := ih body (List.mem_singleton_self _)
      exact inside.congr emulates_optional
    | rep min max body =>
      have inside := ih body (List.mem_singleton_self _)
      exact inside.congr fun same => emulates_rep same min max
    | not body =>
      have inside := ih body (List.mem_singleton_self _)
      exact inside.congr emulates_not
    | peek body =>
      have inside := ih body (List.mem_singleton_self _)
      exact inside.congr emulates_peek
    | capture name body =>
      have inside := ih body (List.mem_singleton_self _)
      exact inside.congr fun same => emulates_capture same name
    | anyBut body =>
      have inside := ih body (List.mem_singleton_self _)
      have refused : Interchangeable env ignore (.not body) (.not body.respell) :=
        inside.congr emulates_not
      exact (Interchangeable.of_synonymous fun _ => synonymous_anyBut body).trans
        (.seq (.cons refused (.cons (.refl .any) .nil)))
    | verbatim body =>
      have inside := ih body (List.mem_singleton_self _)
      exact inside.congr emulates_verbatim
    | _ => exact .refl _

end Spellings

/-! ## Sessions -/

/-- Both are mismatches, or both are faults. -/
def Failure.SameSort (failure failure' : Failure) : Prop :=
  failure.isMismatch = failure'.isMismatch

theorem Failure.SameKind.sameSort {failure failure' : Failure} (kind : failure.SameKind failure') :
    failure.SameSort failure' := by
  cases failure with
  | mismatch _ =>
    cases failure' with
    | mismatch _ => rfl
    | fault _ => cases kind
  | fault _ =>
    cases failure' with
    | mismatch _ => cases kind
    | fault _ => rfl

namespace Session

variable {session : Session} (marks : session.cursor.Marks session.source) {e f : Expr}
include marks

/-- Interchangeable expressions are recognized alike, except that they may be at fault for different reasons. -/
theorem recognizesAlike_of_interchangeable
    (same : Interchangeable session.toEnv session.skipping.ignore e f) :
    session.RecognizesAlike Failure.SameSort e f := by
  have left (o : Outcome) := session.run_reading_iff e (o := o) marks .recognizer
  have right (o : Outcome) := session.run_reading_iff f (o := o) marks .recognizer
  simp only [reply?_reading] at left right
  rw [RecognizesAlike, recognize_eq, recognize_eq]
  refine reply?_concur ?_
  have equal (answers : (run (session.budget e) .recognizer session.toEnv e session.state).outcome? =
      (run (session.budget f) .recognizer session.toEnv f session.state).outcome?) :=
    (concur_of_outcome?_eq answers).imp (fun _ _ => id) fun _ _ => Failure.SameKind.sameSort
  cases came : (run (session.budget e) .recognizer session.toEnv e session.state).outcome? with
  | none =>
    have alike : (run (session.budget f) .recognizer session.toEnv f session.state).outcome? = none := by
      cases came' : (run (session.budget f) .recognizer session.toEnv f session.state).outcome? with
      | none => rfl
      | some o' =>
        obtain ⟨o, reads, -⟩ := same.back _ _ marks.within o' ((right o').mp came')
        rw [(left o).mpr reads] at came
        cases came
    exact equal (came.trans alike.symm)
  | some o =>
    obtain ⟨o', reads, like⟩ := same.forth _ _ marks.within o ((left o).mp came)
    have came' := (right o').mpr reads
    cases like with
    | upTo stop => exact equal (came.trans came'.symm)
    | mismatch => exact equal (came.trans came'.symm)
    | fault broken broken' =>
      obtain ⟨failure, t, ran, kind⟩ :
          ∃ failure t, _ = Run.failed failure t ∧ (Failure.fault broken).SameKind failure :=
        eq_failed_of_outcome? came
      obtain ⟨failure', t', ran', kind'⟩ :
          ∃ failure' t', _ = Run.failed failure' t' ∧ (Failure.fault broken').SameKind failure' :=
        eq_failed_of_outcome? came'
      have stays := (beside_of_failed .recognizer ran).symm.trans (beside_of_failed .recognizer ran')
      have faults : (Failure.fault broken).SameSort (.fault broken') := rfl
      rw [ran, ran']
      exact .failed (kind.sameSort.symm.trans (faults.trans kind'.sameSort)) stays

omit marks in
/-- Of expressions that are recognized alike, one matches where the other does. -/
theorem RecognizesAlike.isOk_eq {failure : Failure → Failure → Prop}
    (alike : session.RecognizesAlike failure e f) :
    (session.recognize e).map (·.outcome.isOk) = (session.recognize f).map (·.outcome.isOk) := by
  rw [RecognizesAlike] at alike
  generalize session.recognize e = answer at alike ⊢
  generalize session.recognize f = answer' at alike ⊢
  cases alike with
  | some concur => cases concur <;> rfl
  | none => rfl

end Session

/-- What an expression matches can be read off its written form, but for two things that this leaves open. Where two
expressions with proper names are written alike, and suffixes and signs for lookahead around each other apply in the
same order in both and empty groups are sequences in both or choices in both, a match of one ends as a match of the
other does: at the same cursor, or with a mismatch, or with a fault, or not at all. Nothing is left open where no
suffix is for a lookahead and no choice is empty. -/
theorem homographs_recognized_alike (session : Session) (marks : session.cursor.Marks session.source)
    {e f : Expr} (named : e.Named) (named' : f.Named) (same : e.render = f.render)
    (told : e.outline = f.outline ∨ e.Clear ∧ f.Clear) :
    session.RecognizesAlike Failure.SameSort e f := by
  have tokens := Expr.tokens_eq_of_render_eq named named' same
  have outlines : e.outline = f.outline :=
    told.elim id fun clear => Expr.outline_eq_of_clear named named' tokens clear.1 clear.2
  obtain ⟨spelled, -⟩ := Expr.respell_eq_of_tokens_eq named named' tokens (congrArg (· ++ []) outlines)
  apply Session.recognizesAlike_of_interchangeable marks
  exact (interchangeable_respell e).trans (spelled ▸ (interchangeable_respell f).symm)

/-- A choice of one is written and matched as the sequence of one, also with a lookahead in it that is optional. -/
theorem sample_homographs :
    (Expr.choice [.optional (.not (.ref "bs"))]).render = "(!bs?)" ∧
    (Expr.seq [.optional (.not (.ref "bs"))]).render = "(!bs?)" ∧
    Session.sample.RecognizesAlike Failure.SameSort (.choice [.optional (.not (.ref "bs"))])
      (.seq [.optional (.not (.ref "bs"))]) := by
  have proper : Expr.IsName "bs" := ⟨by decide, by decide⟩
  have named {e : Expr} (listed : e.preorder.tail = [.optional (.not (.ref "bs")), .not (.ref "bs"), .ref "bs"])
      (here : e.NamedHere) : e.Named := by
    rw [Expr.preorder_eq, List.tail_cons] at listed
    rw [Expr.Named, Expr.preorder_eq, listed]
    exact List.forall_mem_cons.mpr ⟨here, by simp [Expr.NamedHere, proper]⟩
  refine ⟨by decide, by decide, ?_⟩
  exact homographs_recognized_alike Session.sample (Cursor.start_marks _) (named (by decide) trivial)
    (named (by decide) trivial) (by decide) (Or.inl (by decide))

/-- A session at the start of a text of one letter. -/
def Session.sampleLetter : Session where
  source := #['b']
  definitions := .empty
  skipping := ⟨[], false⟩
  cursor := .start #['b']

/-- The first of these never matches, the second always does, and they are written alike, with no names in them. So
are a sequence and a choice of nothing. -/
theorem homographs_differ :
    ((Expr.not (.optional (.char 'a'))).Named ∧ (Expr.optional (.not (.char 'a'))).Named ∧
      (Expr.not (.optional (.char 'a'))).render = (Expr.optional (.not (.char 'a'))).render ∧
      ¬Session.sampleLetter.RecognizesAlike Failure.SameSort (.not (.optional (.char 'a')))
        (.optional (.not (.char 'a')))) ∧
    (Expr.seq []).Named ∧ (Expr.choice []).Named ∧ (Expr.seq []).render = (Expr.choice []).render ∧
      ¬Session.sampleLetter.RecognizesAlike Failure.SameSort (.seq []) (.choice []) := by
  refine ⟨⟨?_, ?_, by decide, fun alike => ?_⟩, ?_, ?_, by decide, fun alike => ?_⟩
  · simp [Expr.Named, Expr.preorder, Expr.NamedHere]
  · simp [Expr.Named, Expr.preorder, Expr.NamedHere]
  · exact absurd alike.isOk_eq (by decide)
  · simp [Expr.Named, Expr.preorder, Expr.preorderAll, Expr.NamedHere]
  · simp [Expr.Named, Expr.preorder, Expr.preorderAll, Expr.NamedHere]
  · exact absurd alike.isOk_eq (by decide)

end PegEngine
