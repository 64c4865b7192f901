import PegEngine.Proofs.Anchoring
import PegEngine.Proofs.Captures
import PegEngine.Proofs.Unrolling

/-! A definition that refers to itself. A name stands for a zero and the same name again, or else for a one. So it
is read up to the first one if there are only zeros in front of it, and is not read at all otherwise: every round
leaves one character less ahead, and where the last of them fails each of those around it fails too. -/
namespace PegEngine

open Run

/-- A zero and the same again, or a one. -/
def Expr.circular : Expr :=
  .choice [.seq [.char '0', .ref "circular"], .literal "1"]

/-- Zeros, any number of them, and a one behind them. -/
def zerosThenOne (zeros : Nat) : List Char :=
  List.replicate zeros '0' ++ ['1']

@[simp] theorem length_zerosThenOne (zeros : Nat) : (zerosThenOne zeros).length = zeros + 1 := by
  rw [zerosThenOne, List.length_append, List.length_replicate, List.length_singleton]

theorem Source.of_ahead_eq_cons {source : Source} {p : Nat} {c : Char} {rest : List Char}
    (ahead : source.ahead p = c :: rest) : p < source.size ∧ source.ahead (p + 1) = rest := by
  have before : p < source.size := by
    by_contra beyond
    rw [Source.ahead_eq_nil (Array.getElem?_eq_none (Nat.le_of_not_lt beyond))] at ahead
    cases ahead
  refine ⟨before, ?_⟩
  rw [Source.ahead_eq_cons (Array.getElem?_eq_getElem before)] at ahead
  exact (List.cons.inj ahead).2

theorem Source.ahead_add (source : Source) (p count : Nat) :
    source.ahead (p + count) = (source.ahead p).drop count := by
  rw [ahead, ahead, List.drop_drop]

theorem Source.text_ofString (text : String) :
    (Source.ofString text).text ⟨0, text.toList.length⟩ = text := by
  rw [Source.text, ofString, List.extract_toArray]
  simp

/-! ## Rounds -/

section Rounds

variable {env : Env} {ignore : List Expr} {v : Bool} {p : Nat}

/-- Where nothing is left to skip, an expression gathers what it says. -/
theorem Rested.gathers {e : Expr} {q : Nat} {h : Harvest} (rested : Rested env ignore v p)
    (bare : Gathers env ignore v (.bare e) p q h) : Gathers env ignore v (.whole e) p q h := by
  cases v with
  | true => exact .wholeVerbatim bare
  | false => exact .whole (rested.skipped rfl) bare

variable (rested : ∀ p ≤ env.source.size, Rested env ignore v p)
include rested

/-- Characters in a row are read where they lie ahead, and nothing is gathered. -/
theorem gathers_primitive {e : Expr} (primitive : e.isPrimitive = true) (bounded : e.boundsFault? = none)
    (cannot : e.canCapture = false) (within : p ≤ env.source.size) {count : Nat}
    (spelled : e.extent? (env.source.ahead p) = some count) :
    Gathers env ignore v (.whole e) p (p + count) (.group []) :=
  (rested p within).gathers (.nothing cannot (.spelled primitive bounded spelled))

theorem reads_unspelled {e : Expr} (primitive : e.isPrimitive = true) (bounded : e.boundsFault? = none)
    (within : p ≤ env.source.size) (unspelled : e.extent? (env.source.ahead p) = none) :
    Reads env ignore v (.whole e) p .mismatch :=
  (rested p within).whole_iff.mpr (.unspelled primitive bounded unspelled)

variable (defined : env.definitions.find? "circular" = some .circular)
include defined

/-- A round is to read a zero and the next round, or else a one. -/
theorem circular_gathers_of {q : Nat} {h : Harvest} (within : p ≤ env.source.size)
    (gathers : Gathers env ignore v
      (.alternatives [.seq [.char '0', .ref "circular"], .literal "1"]) p q h) :
    Gathers env ignore v (.whole (.ref "circular")) p q h :=
  (rested p within).gathers (.ref defined ((rested p within).gathers (.choice gathers)))

/-- A round that finds neither fails. -/
theorem circular_mismatches_of (within : p ≤ env.source.size) (noOne : ¬['1'] <+: env.source.ahead p)
    (noZero : Reads env ignore v (.items [.char '0', .ref "circular"]) p .mismatch) :
    Reads env ignore v (.whole (.ref "circular")) p .mismatch := by
  have rests {e : Expr} {o : Outcome} : Reads env ignore v (.bare e) p o → Reads env ignore v (.whole e) p o :=
    (rested p within).whole_iff.mpr
  have one : Reads env ignore v (.whole (.literal "1")) p .mismatch :=
    reads_unspelled rested rfl rfl within (if_neg noOne)
  exact rests (.ref defined (rests (.choice
    (.alternativesNext (rests (.seq noZero)) (.alternativesNext one .alternativesNil)))))

/-- With zeros and a one ahead, the rounds lead behind the one, and capture nothing. -/
theorem circular_gathers {zeros : Nat} (ahead : zerosThenOne zeros <+: env.source.ahead p) :
    ∃ h, Gathers env ignore v (.whole (.ref "circular")) p (p + (zeros + 1)) h ∧
      h.tree env.source = none := by
  induction zeros generalizing p with
  | zero =>
    obtain ⟨rest, ahead⟩ := ahead
    obtain ⟨before, -⟩ := Source.of_ahead_eq_cons ahead.symm
    have within := Nat.le_of_lt before
    have noZero : Reads env ignore v (.whole (.char '0')) p .mismatch :=
      reads_unspelled rested rfl rfl within (by rw [← ahead]; rfl)
    have one : Gathers env ignore v (.whole (.literal "1")) p (p + 1) (.group []) :=
      gathers_primitive rested rfl rfl rfl within (by rw [← ahead]; rfl)
    have noRound : Reads env ignore v (.whole (.seq [.char '0', .ref "circular"])) p .mismatch :=
      (rested p within).whole_iff.mpr (.seq (.itemsMismatch noZero))
    exact ⟨_, circular_gathers_of rested defined within (.alternativesNext noRound (.alternativesHere one)),
      rfl⟩
  | succ zeros ih =>
    obtain ⟨rest, ahead⟩ := ahead
    obtain ⟨before, behind⟩ := Source.of_ahead_eq_cons ahead.symm
    have within := Nat.le_of_lt before
    have zero : Gathers env ignore v (.whole (.char '0')) p (p + 1) (.group []) :=
      gathers_primitive rested rfl rfl rfl within (by rw [← ahead]; rfl)
    obtain ⟨h, further, nothing⟩ := ih (p := p + 1) ⟨rest, behind.symm⟩
    rw [Nat.succ_add_eq_add_succ] at further
    have round : Gathers env ignore v (.whole (.seq [.char '0', .ref "circular"])) p (p + (zeros + 1 + 1))
        (.group [.group [], h]) :=
      (rested p within).gathers (.seq (.itemsCons zero (.itemsCons further .itemsNil)))
    refine ⟨_, circular_gathers_of rested defined within (.alternativesHere round), ?_⟩
    rw [Harvest.tree, Harvest.trees, Harvest.trees, Harvest.trees, nothing]
    rfl

/-- With anything else ahead, some round fails, and with it all that led to it. -/
theorem circular_mismatches (within : p ≤ env.source.size)
    (never : ∀ zeros, ¬zerosThenOne zeros <+: env.source.ahead p) :
    Reads env ignore v (.whole (.ref "circular")) p .mismatch := by
  -- The induction is on what lies ahead, of which every round leaves one character less.
  generalize ahead : env.source.ahead p = text at never
  induction text generalizing p with
  | nil =>
    have noZero : Reads env ignore v (.whole (.char '0')) p .mismatch :=
      reads_unspelled rested rfl rfl within (by rw [ahead]; rfl)
    exact circular_mismatches_of rested defined within (by rw [ahead]; exact never 0) (.itemsMismatch noZero)
  | cons c rest ih =>
    obtain ⟨before, behind⟩ := Source.of_ahead_eq_cons ahead
    refine circular_mismatches_of rested defined within (by rw [ahead]; exact never 0) ?_
    by_cases isZero : c = '0'
    · subst isZero
      have zero : Gathers env ignore v (.whole (.char '0')) p (p + 1) (.group []) :=
        gathers_primitive rested rfl rfl rfl within (by rw [ahead]; rfl)
      have noRound : Reads env ignore v (.whole (.ref "circular")) (p + 1) .mismatch :=
        ih before behind fun zeros begins => never (zeros + 1) (List.cons_prefix_cons.mpr ⟨rfl, begins⟩)
      exact .itemsCons zero.reads (.itemsMismatch noRound)
    · have noZero : Reads env ignore v (.whole (.char '0')) p .mismatch :=
        reads_unspelled rested rfl rfl within (by rw [ahead]; exact if_neg isZero)
      exact .itemsMismatch noZero

/-- With zeros and a one ahead and nothing behind them, the text is read up to its end. -/
theorem circular_reads_all {zeros : Nat} (name : String) (within : p ≤ env.source.size)
    (ahead : env.source.ahead p = zerosThenOne zeros) :
    ∃ h, Gathers env ignore v (.whole (.capture name (.ref "circular"))) p (p + (zeros + 1))
        (.capture ⟨name, .ref "circular", v, ⟨p, p + (zeros + 1)⟩⟩ h) ∧
      h.tree env.source = none ∧
      Reads env ignore v (.items [.capture name (.ref "circular"), .eof]) p (.upTo (p + (zeros + 1))) := by
  obtain ⟨h, gathers, nothing⟩ := circular_gathers rested defined ⟨[], by rw [ahead, List.append_nil]⟩
  have captured : Gathers env ignore v (.whole (.capture name (.ref "circular"))) p (p + (zeros + 1))
      (.capture ⟨name, .ref "circular", v, ⟨p, p + (zeros + 1)⟩⟩ h) :=
    (rested p within).gathers (.capture gathers)
  have done : env.source.ahead (p + (zeros + 1)) = [] := by
    rw [Source.ahead_add, ahead, ← length_zerosThenOne, List.drop_length]
  have atEnd : Gathers env ignore v (.whole .eof) (p + (zeros + 1)) (p + (zeros + 1) + 0) (.group []) :=
    gathers_primitive rested rfl rfl rfl (gathers.within within) (by rw [done]; rfl)
  exact ⟨h, captured, nothing, .itemsCons captured.reads (.itemsCons atEnd.reads .itemsNil)⟩

/-- With anything else ahead, the text is not read up to its end. -/
theorem circular_misses (name : String) (within : p ≤ env.source.size)
    (never : ∀ zeros, env.source.ahead p ≠ zerosThenOne zeros) :
    Reads env ignore v (.items [.capture name (.ref "circular"), .eof]) p .mismatch := by
  have captures {o : Outcome} (reads : Reads env ignore v (.whole (.ref "circular")) p o) :
      Reads env ignore v (.whole (.capture name (.ref "circular"))) p o :=
    (rested p within).whole_iff.mpr (.capture reads)
  by_cases begins : ∃ zeros, zerosThenOne zeros <+: env.source.ahead p
  · obtain ⟨zeros, begins⟩ := begins
    obtain ⟨h, gathers, -⟩ := circular_gathers rested defined begins
    obtain ⟨rest, ahead⟩ := begins
    have left : env.source.ahead (p + (zeros + 1)) = rest := by
      rw [Source.ahead_add, ← ahead, ← length_zerosThenOne, List.drop_left]
    have more : Reads env ignore v (.whole .eof) (p + (zeros + 1)) .mismatch := by
      refine reads_unspelled rested rfl rfl (gathers.within within) ?_
      rw [left]
      cases rest with
      | nil => exact absurd (ahead.symm.trans (List.append_nil _)) (never zeros)
      | cons c rest => rfl
    exact .itemsCons (captures gathers.reads) (.itemsMismatch more)
  · exact .itemsMismatch (captures
      (circular_mismatches rested defined within fun zeros here => begins ⟨zeros, here⟩))

end Rounds

/-! ## Sessions -/

namespace Session

variable (session : Session) (marks : session.cursor.Marks session.source) {e : Expr}
include marks

/-- A parse up to the end of the text answers the tree of what is gathered on its way. -/
theorem parseAll_of_gathers {q stop : Nat} {h : Harvest} (gathers : session.Gathers e q h)
    (reads : session.Reads (.items [e, .eof]) (.upTo stop)) :
    ∃ reply, session.parseAll e = some reply ∧ reply.outcome = .ok (h.tree session.source) := by
  have came := (session.runToEnd_reading_iff e marks .tree).mpr reads
  rw [reply?_reading] at came
  obtain ⟨result, t, ran, -⟩ := eq_done_of_outcome? came
  have fits := session.state_fits marks
  have ends : (runToEnd (session.budget e) _ _ e _).Ends _ _ := runToEnd_ends .tree fits
  rw [ran] at ends
  obtain ⟨_, u, whole⟩ := ends
  have harvests := run_harvests (session.budget e) e fits
  rw [whole] at harvests
  obtain ⟨h', gathers', built⟩ := harvests
  rw [Gathers.unique marks.within gathers' gathers] at built
  rw [session.parseAll_eq, ran]
  exact ⟨_, rfl, congrArg Except.ok built⟩

/-- A parse up to the end of the text that mismatches leaves the session as it was. -/
theorem parseAll_of_mismatch (reads : session.Reads (.items [e, .eof]) .mismatch) :
    ∃ reply trail, session.parseAll e = some reply ∧ reply.outcome = .error (.mismatch trail) ∧
      reply.session = session := by
  have came := (session.runToEnd_reading_iff e marks .tree).mpr reads
  rw [reply?_reading] at came
  obtain ⟨trail, t, ran⟩ := eq_mismatch_of_outcome? came
  have replied : session.reply? (runToEnd (session.budget e) .tree session.toEnv e session.state) =
      some ⟨.error (.mismatch trail), session.leave t, t.log.reverse⟩ :=
    congrArg session.reply? ran
  have atomic : Reply.Atomic session ⟨.error (.mismatch trail), session.leave t, t.log.reverse⟩ :=
    atomic_of_settles (runToEnd_settles (session.budget e) (rightFor_any .tree) session.toEnv e session.state)
      replied
  rw [session.parseAll_eq]
  exact ⟨_, trail, replied, rfl, atomic⟩

end Session

/-- A name that stands for a zero and itself, or for a one, is parsed up to the end of a text just if the text is
any number of zeros with a one behind them. The text is then captured as a whole; otherwise there is a mismatch,
and the session is back at the start. -/
theorem circular_recognizes (session : Session) (text : String) (source : session.source = .ofString text)
    (start : session.cursor = .start session.source) (nothing : session.skipping.ignore = [])
    (defined : session.definition? "circular" =
      some (.choice [.seq [.char '0', .ref "circular"], .literal "1"])) :
    ∃ reply, session.parseAll (.capture "c" (.ref "circular")) = some reply ∧
      ((∃ result, reply.outcome = .ok result) ↔ ∃ zeros, text.toList = List.replicate zeros '0' ++ ['1']) ∧
      (∀ result, reply.outcome = .ok result → result = some (.leaf "c" text)) ∧
      ∀ failure, reply.outcome = .error failure →
        failure.isMismatch = true ∧ reply.session.cursor.position = 0 ∧ reply.session = session := by
  have marks : session.cursor.Marks session.source := start ▸ Cursor.start_marks _
  have first : session.cursor.position = 0 := congrArg Cursor.position start
  have off : session.skipping.active = false := by
    rw [Skipping.active, nothing, List.isEmpty_nil, Bool.not_true, Bool.and_false]
  have rested (p : Nat) (within : p ≤ session.source.size) := Session.rested_of_inactive off within
  have spelled : session.source.ahead session.cursor.position = text.toList := by
    rw [first, source]
    rfl
  by_cases ends : ∃ zeros, text.toList = zerosThenOne zeros
  · obtain ⟨zeros, shape⟩ := ends
    obtain ⟨h, gathers, empty, reads⟩ :=
      circular_reads_all rested defined "c" marks.within (spelled.trans shape)
    obtain ⟨reply, replied, succeeded⟩ := session.parseAll_of_gathers marks gathers reads
    refine ⟨reply, replied, ⟨fun _ => ⟨zeros, shape⟩, fun _ => ⟨_, succeeded⟩⟩, fun result came => ?_,
      fun failure failed => ?_⟩
    · rw [succeeded] at came
      obtain rfl := Except.ok.inj came
      rw [Harvest.tree, empty, first, source, Nat.zero_add, ← length_zerosThenOne, ← shape]
      exact congrArg (fun value => some (Tree.leaf "c" value)) (Source.text_ofString text)
    · rw [succeeded] at failed
      cases failed
  · obtain ⟨reply, trail, replied, failed, back⟩ := session.parseAll_of_mismatch marks
      (circular_misses rested defined "c" marks.within fun zeros same => ends ⟨zeros, spelled ▸ same⟩)
    refine ⟨reply, replied, ⟨?_, fun shape => absurd shape ends⟩, ?_, ?_⟩
    · rintro ⟨result, came⟩
      rw [failed] at came
      cases came
    · intro result came
      rw [failed] at came
      cases came
    · intro failure came
      rw [failed] at came
      cases came
      exact ⟨rfl, back ▸ first, back⟩

/-- A session at the start of a text of two zeros and a one, with zeros and a one defined. -/
def Session.sampleZeros : Session where
  source := .ofString "001"
  definitions := Definitions.empty.insert "circular" .circular
  skipping := ⟨[], false⟩
  cursor := .start (.ofString "001")

/-- The whole text is captured. -/
theorem sampleZeros_recognized :
    ∃ reply, Session.sampleZeros.parseAll (.capture "c" (.ref "circular")) = some reply ∧
      reply.outcome = .ok (some (.leaf "c" "001")) := by
  obtain ⟨reply, replied, recognizes, value, _⟩ :=
    circular_recognizes Session.sampleZeros "001" rfl rfl rfl (by decide)
  obtain ⟨result, succeeded⟩ := recognizes.mpr ⟨2, by decide⟩
  exact ⟨reply, replied, value result succeeded ▸ succeeded⟩

end PegEngine
