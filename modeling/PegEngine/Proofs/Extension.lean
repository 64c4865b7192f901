import Mathlib.Data.List.Perm.Subperm
import PegEngine.Proofs.Agreement

/-! More definitions. A look-up that finds nothing ends the whole match as a fault, and nothing recovers
from a fault. So a match that was not ended that way has never been told that a name is missing, not
even where it looks ahead or skips, and definitions of further names change nothing for it. -/
namespace PegEngine

namespace Definitions

/-- All definitions are among those of `more`, which may define further names. -/
def Among (definitions more : Definitions) : Prop :=
  ∀ name e, definitions.find? name = some e → more.find? name = some e

/-- A definition of a name that had none is one more. -/
theorem among_insert {definitions : Definitions} {name : String}
    (free : definitions.find? name = none) (e : Expr) :
    definitions.Among (definitions.insert name e) := by
  intro query f found
  rw [find?_insert, if_neg]
  · exact found
  · rintro rfl
    rw [free] at found
    cases found

/-- Each defining expression is one of the others, and so for each of its repetitions. -/
theorem Among.subperm {definitions more : Definitions} (among : definitions.Among more) :
    definitions.exprs.Subperm more.exprs := by
  have nodup : definitions.entries.Nodup :=
    definitions.sorted.imp fun less => ne_of_apply_ne Prod.fst (String.ne_of_lt less)
  have subset : definitions.entries ⊆ more.entries := fun _ mem =>
    mem_of_lookup_eq_some (among _ _ (lookup_eq_some_of_mem definitions.sorted mem))
  obtain ⟨entries, perm, sublist⟩ := nodup.subperm subset
  exact ⟨entries.map Prod.snd, perm.map Prod.snd, sublist.map Prod.snd⟩

end Definitions

namespace Expr

theorem sizeAll_eq_of_perm {es fs : List Expr} (perm : es.Perm fs) : sizeAll es = sizeAll fs := by
  induction perm with
  | nil => rfl
  | cons e _ ih => rw [sizeAll, sizeAll, ih]
  | swap e f rest => rw [sizeAll, sizeAll, sizeAll, sizeAll, Nat.add_left_comm]
  | trans _ _ first second => exact first.trans second

theorem sizeAll_le_of_sublist {es fs : List Expr} (sublist : es.Sublist fs) :
    sizeAll es ≤ sizeAll fs := by
  induction sublist with
  | slnil => exact Nat.le_refl _
  | cons e _ ih => exact Nat.le_trans ih (Nat.le_add_left _ _)
  | cons_cons e _ ih => exact Nat.add_le_add_left ih _

end Expr

namespace Likeness

variable {α β : Type} {env env' : Env} {more : Definitions}

/-- An engine that is like another is like that with more definitions, unless it meets a name that has
none. -/
def extend (alike : Likeness env env') (among : env'.definitions.Among more) :
    Likeness env { env' with definitions := more } where
  covers := alike.covers
  cursor := alike.cursor
  skipping := alike.skipping
  log := alike.log
  fault := alike.fault
  excuse broken := alike.excuse broken ∨ ∃ name, broken = .undefined name
  covers_part := alike.covers_part
  character_eq := alike.character_eq
  cursor_next := alike.cursor_next
  position_lt_iff := alike.position_lt_iff
  active_eq := alike.active_eq
  ignore_eq := alike.ignore_eq
  suspended := alike.suspended
  toggle := alike.toggle
  skipped := alike.skipped
  resolved := alike.resolved
  found covered sought := (alike.found covered sought).imp_left (among _ _)
  missing _ _ := Or.inl (Or.inr ⟨_, rfl⟩)
  bounds covered broken := (alike.bounds covered broken).imp_left Or.inl

variable {alike : Likeness env env'}

theorem Exact.extend (exact : alike.Exact) {among : env'.definitions.Among more} :
    (alike.extend among).Exact :=
  ⟨exact.cursor, exact.skipping, exact.log, exact.fault⟩

theorem Builds.extend {builder : Builder α} {builder' : Builder β} {value : α → β → Prop}
    (builds : alike.Builds builder builder' value) {among : env'.definitions.Among more} :
    (alike.extend among).Builds builder builder' value :=
  ⟨builds.gather, builds.capture⟩

end Likeness

open Likeness

/-! ## Runs that miss no definition -/

namespace Run

variable {α : Type} {env : Env} {more : Definitions} (among : env.definitions.Among more)

/-- The run ends, and not for want of a definition. -/
def Resolves (r : Run α) : Prop :=
  r ≠ .exhausted ∧ ∀ name t, r ≠ .failed (.fault (.undefined name)) t

theorem eq_of_follows_extend {r r' : Run α} (follows : ((same env).extend among).Follows Eq r r')
    (resolves : r.Resolves) : r' = r := by
  obtain ⟨fails, succeeds⟩ := follows.exact exact_same.extend
  cases r with
  | done a s =>
    obtain ⟨b, ran', rfl⟩ := succeeds a s rfl
    exact ran'
  | failed f s =>
    rcases fails f s rfl with excused | ran'
    · cases f with
      | mismatch trail => exact excused.elim
      | fault broken =>
        obtain excused | ⟨name, rfl⟩ := excused
        · exact excused.elim
        · exact absurd rfl (resolves.2 name s)
    · exact ran'
  | exhausted => exact absurd rfl resolves.1

end Run

section Runs

variable {α : Type} {env : Env} {more : Definitions} (among : env.definitions.Among more)
  {budget larger : Nat} (enough : budget ≤ larger) {builder : Builder α} {e : Expr} {s : State}
include among enough

/-- More definitions change nothing for a run that missed none. -/
theorem run_extended (resolves : (run budget builder env e s).Resolves) :
    run larger builder { env with definitions := more } e s = run budget builder env e s :=
  Run.eq_of_follows_extend among
    (run_follows (builds_same builder).extend enough trivial ⟨rfl, rfl, rfl⟩) resolves

theorem runToEnd_extended (resolves : (runToEnd budget builder env e s).Resolves) :
    runToEnd larger builder { env with definitions := more } e s =
      runToEnd budget builder env e s :=
  Run.eq_of_follows_extend among
    (runToEnd_follows (builds_same builder).extend enough trivial ⟨rfl, rfl, rfl⟩) resolves

end Runs

/-! ## Sessions -/

variable {α : Type}

/-- The same session with other definitions. -/
def Session.withDefinitions (session : Session) (definitions : Definitions) : Session :=
  { session with definitions := definitions }

namespace Reply

/-- The same reply of a session with other definitions. -/
def withDefinitions (reply : Reply α) (definitions : Definitions) : Reply α :=
  { reply with session := reply.session.withDefinitions definitions }

/-- The reply does not say that a name has no definition. -/
def Resolves (reply : Reply α) : Prop :=
  ∀ name, reply.outcome ≠ .error (.fault (.undefined name))

/-- With these definitions the answer is still the same, if it was not that a name has none. -/
def Persists (definitions : Definitions) (before after : Option (Reply α)) : Prop :=
  ∀ reply, before = some reply → reply.Resolves → after = some (reply.withDefinitions definitions)

end Reply

namespace Session

variable {session : Session} {more : Definitions} {r : Run α} {reply : Reply α}

theorem resolves_of_reply? (replied : session.reply? r = some reply) (resolves : reply.Resolves) :
    r.Resolves := by
  cases r with
  | done a t => exact ⟨nofun, nofun⟩
  | failed failure t =>
    refine ⟨nofun, fun name u same => ?_⟩
    cases same
    cases replied
    exact resolves name rfl
  | exhausted => cases replied

/-- The definitions of a session have no part in the rest of its replies. -/
theorem reply?_withDefinitions (definitions : Definitions) (r : Run α) :
    (session.withDefinitions definitions).reply? r =
      (session.reply? r).map (·.withDefinitions definitions) := by
  cases r with
  | done a t => rfl
  | failed failure t => rfl
  | exhausted => rfl

section Replies

variable (among : session.definitions.Among more) (e : Expr) {budget larger : Nat}
  (enough : budget ≤ larger)
include among enough

theorem reply?_run_persists (builder : Builder α) :
    Reply.Persists more (session.reply? (run budget builder session.toEnv e session.state))
      ((session.withDefinitions more).reply?
        (run larger builder { session.toEnv with definitions := more } e session.state)) := by
  intro reply replied resolves
  rw [run_extended among enough (resolves_of_reply? replied resolves), reply?_withDefinitions,
    replied, Option.map_some]

theorem reply?_runToEnd_persists (builder : Builder α) :
    Reply.Persists more (session.reply? (runToEnd budget builder session.toEnv e session.state))
      ((session.withDefinitions more).reply?
        (runToEnd larger builder { session.toEnv with definitions := more } e session.state)) := by
  intro reply replied resolves
  rw [runToEnd_extended among enough (resolves_of_reply? replied resolves), reply?_withDefinitions,
    replied, Option.map_some]

theorem recognizeWithin_persists :
    Reply.Persists more (session.recognizeWithin budget e)
      ((session.withDefinitions more).recognizeWithin larger e) := by
  rw [recognizeWithin_eq, recognizeWithin_eq]
  exact reply?_run_persists among e enough .recognizer

theorem recognizeAllWithin_persists :
    Reply.Persists more (session.recognizeAllWithin budget e)
      ((session.withDefinitions more).recognizeAllWithin larger e) := by
  rw [recognizeAllWithin_eq, recognizeAllWithin_eq]
  exact reply?_runToEnd_persists among e enough .recognizer

theorem parseWithin_persists :
    Reply.Persists more (session.parseWithin budget e)
      ((session.withDefinitions more).parseWithin larger e) := by
  rw [parseWithin_eq, parseWithin_eq]
  exact reply?_run_persists among e enough .tree

theorem parseAllWithin_persists :
    Reply.Persists more (session.parseAllWithin budget e)
      ((session.withDefinitions more).parseAllWithin larger e) := by
  rw [parseAllWithin_eq, parseAllWithin_eq]
  exact reply?_runToEnd_persists among e enough .tree

end Replies

/-- A session with more definitions gives itself no smaller budget. -/
theorem budget_le_extended (among : session.definitions.Among more) (e : Expr) :
    session.budget e ≤ (session.withDefinitions more).budget e := by
  have sizes : Expr.sizeAll session.exprs ≤ Expr.sizeAll (session.withDefinitions more).exprs := by
    obtain ⟨es, perm, sublist⟩ := among.subperm
    rw [exprs, exprs, Expr.sizeAll_append, Expr.sizeAll_append, ← Expr.sizeAll_eq_of_perm perm]
    exact Nat.add_le_add_right (Expr.sizeAll_le_of_sublist sublist) _
  have places : 2 * (e.size + Expr.sizeAll session.exprs) * (session.source.size + 1) ≤
      2 * (e.size + Expr.sizeAll (session.withDefinitions more).exprs) *
        (session.source.size + 1) :=
    Nat.mul_le_mul_right _ (Nat.mul_le_mul_left 2 (Nat.add_le_add_left sizes _))
  exact Nat.add_le_add_right (Nat.add_le_add_right places _) _

end Session

/-- Definitions of further names never change what a match answers, unless its answer was that a name
has no definition: the value or the failure, the state of the session and the log are the same. So it
is with the same budget or any larger one, and where each session gives itself its own. -/
theorem matches_extended (session : Session) {more : Definitions}
    (among : session.definitions.Among more) (e : Expr) :
    (∀ budget larger, budget ≤ larger →
      Reply.Persists more (session.recognizeWithin budget e)
        ((session.withDefinitions more).recognizeWithin larger e) ∧
      Reply.Persists more (session.recognizeAllWithin budget e)
        ((session.withDefinitions more).recognizeAllWithin larger e) ∧
      Reply.Persists more (session.parseWithin budget e)
        ((session.withDefinitions more).parseWithin larger e) ∧
      Reply.Persists more (session.parseAllWithin budget e)
        ((session.withDefinitions more).parseAllWithin larger e)) ∧
    Reply.Persists more (session.recognize e) ((session.withDefinitions more).recognize e) ∧
    Reply.Persists more (session.recognizeAll e) ((session.withDefinitions more).recognizeAll e) ∧
    Reply.Persists more (session.parse e) ((session.withDefinitions more).parse e) ∧
    Reply.Persists more (session.parseAll e) ((session.withDefinitions more).parseAll e) := by
  have own := session.budget_le_extended among e
  refine ⟨fun budget larger enough => ⟨?_, ?_, ?_, ?_⟩, ?_, ?_, ?_, ?_⟩
  · exact Session.recognizeWithin_persists among e enough
  · exact Session.recognizeAllWithin_persists among e enough
  · exact Session.parseWithin_persists among e enough
  · exact Session.parseAllWithin_persists among e enough
  · exact Session.recognizeWithin_persists among e own
  · exact Session.recognizeAllWithin_persists among e own
  · exact Session.parseWithin_persists among e own
  · exact Session.parseAllWithin_persists among e own

/-- A reference to a name without a definition, behind something that keeps it from being met. -/
def Expr.sampleGuarded : Expr :=
  .seq [.char 'a', .not (.seq [.char 'c', .ref "cs"]), .choice [.ref "bs", .ref "cs"]]

/-- The definition of the name comes too late to matter. -/
theorem sample_extended : ∃ reply,
    Session.sample.parse .sampleGuarded = some reply ∧ reply.Resolves ∧
      (Session.sample.withDefinitions (Session.sample.definitions.insert "cs" .any)).parse
          .sampleGuarded =
        some (reply.withDefinitions (Session.sample.definitions.insert "cs" .any)) := by
  have among : Session.sample.definitions.Among (Session.sample.definitions.insert "cs" .any) :=
    Definitions.among_insert rfl .any
  have answered : (Session.sample.parse .sampleGuarded).map
      (fun reply => reply.outcome.toOption.isSome) = some true := by
    decide +kernel
  obtain ⟨reply, replied, succeeded⟩ := Option.map_eq_some_iff.mp answered
  have resolves : reply.Resolves := by
    intro name failed
    rw [failed] at succeeded
    cases succeeded
  exact ⟨reply, replied, resolves,
    (matches_extended Session.sample among .sampleGuarded).2.2.2.1 reply replied resolves⟩

end PegEngine
