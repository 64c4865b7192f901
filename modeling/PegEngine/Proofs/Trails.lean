import PegEngine.Proofs.Agreement
import PegEngine.Proofs.Dialogue

/-! Trails as explanations. The trail of a mismatch is a path through the grammar: its outermost mismatch
is that of the expression that was matched, or of what that stands for, and each further one is that of
the part on which the one around it puts the blame, down to an expression that mismatches on its own
account. The places of the mismatches follow each other in the text along the path. There is one lemma
for each operator that fails because of a part, and an induction on the budget. -/
namespace PegEngine

/-! ## What a trail may say -/

/-- A mismatch of the expression is due to the text alone: it looks at characters, it looks ahead for what
must not be there, or it has no alternatives. -/
def Expr.mismatchesAlone : Expr → Bool
  | .char _ | .literal _ | .any | .range _ _ | .eof | .eol | .space | .anyBut _ | .not _ => true
  | .choice alternatives => alternatives.isEmpty
  | .seq _ | .optional _ | .rep _ _ _ | .peek _ | .capture _ _ | .ref _ | .verbatim _ => false

/-- The first expression under the first setting of skipping stands for the second under the second:
captures stand for their bodies, names for their definitions, and an expression without skipping for its
body with skipping off. -/
inductive StandsFor (definitions : Definitions) : Skipping → Expr → Skipping → Expr → Prop where
  | itself {k e} : StandsFor definitions k e k e
  | capture {k k' name body e} : StandsFor definitions k body k' e →
      StandsFor definitions k (.capture name body) k' e
  | ref {k k' name target e} : definitions.find? name = some target →
      StandsFor definitions k target k' e → StandsFor definitions k (.ref name) k' e
  | verbatim {k k' body e} : StandsFor definitions (k.toggle true) body k' e →
      StandsFor definitions k (.verbatim body) k' e

namespace Env

/-- With this setting of skipping, the expression matches from the first cursor to the second. -/
def Matches (env : Env) (k : Skipping) (e : Expr) (start stop : Cursor) : Prop :=
  ∃ budget t, Recognition.run budget env e ⟨start, k, []⟩ = .done stop t

/-- With this setting of skipping, the expression mismatches at the cursor and leaves the trail. -/
def Mismatches (env : Env) (k : Skipping) (e : Expr) (start : Cursor) (trail : Trail) : Prop :=
  ∃ budget t, Recognition.run budget env e ⟨start, k, []⟩ = .failed (.mismatch trail) t

theorem matches_iff {env : Env} {k : Skipping} {e : Expr} {start stop : Cursor} :
    env.Matches k e start stop ↔
      ∃ budget t, run budget .recognizer env e ⟨start, k, []⟩ = .done stop t := by
  simp only [Matches, Recognition.run_eq]

theorem mismatches_iff {env : Env} {k : Skipping} {e : Expr} {start : Cursor} {trail : Trail} :
    env.Mismatches k e start trail ↔
      ∃ budget t, run budget .recognizer env e ⟨start, k, []⟩ = .failed (.mismatch trail) t := by
  simp only [Mismatches, Recognition.run_eq]

/-- The expressions match one after the other, from the first cursor to the second. -/
inductive MatchesAll (env : Env) (k : Skipping) : List Expr → Cursor → Cursor → Prop where
  | nil {start} : MatchesAll env k [] start start
  | cons {e rest start middle stop} : env.Matches k e start middle →
      MatchesAll env k rest middle stop → MatchesAll env k (e :: rest) start stop

end Env

/-- The mismatch puts the blame on this part of its pattern, behind what did match. -/
inductive Blames (env : Env) (k : Skipping) : Mismatch → Expr → Prop where
  /-- All items before this one match, up to where the mismatch stops. -/
  | item {before part behind start stop} : env.MatchesAll k before start stop →
      Blames env k ⟨.seq (before ++ part :: behind), start, stop⟩ part
  /-- Of the alternatives it is the last one. -/
  | alternative {others part start} : Blames env k ⟨.choice (others ++ [part]), start, start⟩ part
  /-- The body matches less often than it must, up to where the mismatch stops. -/
  | iteration {min max body count start stop} : count < min →
      env.MatchesAll k (List.replicate count body) start stop →
      Blames env k ⟨.rep min max body, start, stop⟩ body
  | lookahead {body start} : Blames env k ⟨.peek body, start, start⟩ body

/-- The trail explains why the expression mismatches from the position on. -/
inductive Explains (env : Env) : Skipping → Expr → Nat → Trail → Prop where
  | single {k k' e position mismatch} :
      StandsFor env.definitions k e k' mismatch.pattern →
      mismatch.pattern.mismatchesAlone = true →
      position ≤ mismatch.start.position → mismatch.start.position ≤ mismatch.stop.position →
      Explains env k e position (.single mismatch)
  | within {k k' e part position inner context} :
      StandsFor env.definitions k e k' context.pattern → Blames env k' context part →
      position ≤ context.start.position → context.start.position ≤ context.stop.position →
      env.Mismatches k' part context.stop inner →
      Explains env k' part context.stop.position inner →
      Explains env k e position (.within inner context)

namespace Trail

/-- The positions where the mismatches start and stop, from the outermost mismatch inwards. -/
def positions (trail : Trail) : List Nat :=
  trail.entries.reverse.flatMap fun mismatch => [mismatch.start.position, mismatch.stop.position]

@[simp] theorem positions_single (mismatch : Mismatch) :
    (single mismatch).positions = [mismatch.start.position, mismatch.stop.position] := by
  simp [positions]

@[simp] theorem positions_within (inner : Trail) (context : Mismatch) :
    (within inner context).positions =
      context.start.position :: context.stop.position :: inner.positions := by
  simp [positions]

/-- Every position of a trail is that of a cursor in it. -/
theorem exists_cursor {trail : Trail} {position : Nat} (listed : position ∈ trail.positions) :
    ∃ c ∈ (Failure.mismatch trail).cursors, c.position = position := by
  obtain ⟨mismatch, mem, place⟩ := List.mem_flatMap.mp listed
  have shown (c : Cursor) (here : c ∈ [mismatch.start, mismatch.stop]) :
      c ∈ (Failure.mismatch trail).cursors :=
    List.mem_flatMap.mpr ⟨mismatch, List.mem_reverse.mp mem, here⟩
  rw [List.mem_cons, List.mem_singleton] at place
  rcases place with rfl | rfl
  · exact ⟨mismatch.start, shown _ List.mem_cons_self, rfl⟩
  · exact ⟨mismatch.stop, shown _ (List.mem_cons_of_mem _ List.mem_cons_self), rfl⟩

end Trail

variable {env : Env} {k : Skipping} {e : Expr} {position : Nat}

theorem Env.MatchesAll.snoc {es : List Expr} {start middle stop : Cursor}
    (all : env.MatchesAll k es start middle) (last : env.Matches k e middle stop) :
    env.MatchesAll k (es ++ [e]) start stop := by
  induction all with
  | nil => exact .cons last .nil
  | cons first _ ih => exact .cons first (ih last)

namespace Explains

variable {trail : Trail}

theorem from_before {position' : Nat} (explains : Explains env k e position trail)
    (before : position' ≤ position) : Explains env k e position' trail := by
  cases explains with
  | single stands alone starts stops => exact .single stands alone (Nat.le_trans before starts) stops
  | within stands blames starts stops fails inner =>
    exact .within stands blames (Nat.le_trans before starts) stops fails inner

/-- What explains the mismatch of one expression explains that of another which stands for it. -/
theorem through {k₀ : Skipping} {e₀ : Expr} (explains : Explains env k e position trail)
    (stands : ∀ {k' f}, StandsFor env.definitions k e k' f → StandsFor env.definitions k₀ e₀ k' f) :
    Explains env k₀ e₀ position trail := by
  cases explains with
  | single rest alone starts stops => exact .single (stands rest) alone starts stops
  | within rest blames starts stops fails inner =>
    exact .within (stands rest) blames starts stops fails inner

/-- Along the path, positions never go back. -/
theorem isChain (explains : Explains env k e position trail) :
    (position :: trail.positions).IsChain (· ≤ ·) := by
  induction explains with
  | single _ _ starts stops => simp [starts, stops]
  | within _ _ starts stops _ _ ih =>
    rw [Trail.positions_within, List.isChain_cons_cons, List.isChain_cons_cons]
    exact ⟨starts, stops, ih⟩

end Explains

/-! ## Runs and what their trails say -/

namespace Run

variable {α β : Type} {s : State}

/-- If the run mismatches, its trail explains why. -/
def Explained (env : Env) (k : Skipping) (e : Expr) (position : Nat) (r : Run α) : Prop :=
  r.Ends (fun _ _ => True) fun failure _ =>
    ∀ trail, failure = .mismatch trail → Explains env k e position trail

/-- What is known of a run of an expression: a match or a mismatch of it is one of the expression, whatever
it builds and whatever was noted before, and a mismatch is explained. -/
structure Accounts (env : Env) (e : Expr) (s : State) (r : Run α) : Prop where
  settles : Settles (fun _ _ => True) s.cursor s r
  matched : ∀ a t, r = .done a t → env.Matches s.skipping e s.cursor t.cursor
  mismatched : ∀ trail t, r = .failed (.mismatch trail) t →
    env.Mismatches s.skipping e s.cursor trail
  explained : r.Explained env s.skipping e s.cursor.position

theorem Explained.andThen {r : Run α} {rest : α → State → Run β}
    (explained : r.Explained env k e position)
    (restExplained : ∀ a t, (rest a t).Explained env k e position) :
    (r.andThen rest).Explained env k e position :=
  Ends.andThen explained fun a t _ => restExplained a t

theorem Explained.map {r : Run α} (explained : r.Explained env k e position) (f : α → β) :
    (r.map f).Explained env k e position :=
  Ends.map explained fun _ _ _ => trivial

/-- A run of one expression explains itself as one of another that stands for it. -/
theorem Explained.through {k₀ : Skipping} {e₀ : Expr} {r : Run α}
    (explained : r.Explained env k e position)
    (stands : ∀ {k' f}, StandsFor env.definitions k e k' f → StandsFor env.definitions k₀ e₀ k' f) :
    r.Explained env k₀ e₀ position :=
  Ends.imp explained (fun _ _ _ => trivial) fun _ _ explains trail same =>
    (explains trail same).through stands

/-- A fault leaves no trail. -/
theorem explained_fault (broken : Fault) (t : State) :
    (failed (.fault broken) t : Run α).Explained env k e position := by
  intro trail same
  cases same

theorem explained_alone (alone : e.mismatchesAlone = true) {start stop : Cursor}
    (starts : position ≤ start.position) (stops : start.position ≤ stop.position) (t : State) :
    (failed (.ofMismatch ⟨e, start, stop⟩) t : Run α).Explained env k e position := by
  intro trail same
  cases same
  exact .single .itself alone starts stops

/-! ## Primitives -/

section Primitives

variable (source : Source) (alone : e.mismatchesAlone = true)
include alone

theorem mismatch_explained (s : State) :
    (s.mismatch e : Run α).Explained env k e s.cursor.position :=
  explained_alone alone (Nat.le_refl _) (Nat.le_refl _) s

theorem oneOf_explained (accepts : Char → Bool) (s : State) :
    (oneOf source e accepts s).Explained env k e s.cursor.position := by
  unfold oneOf
  split
  · split
    · trivial
    · exact mismatch_explained alone s
  · exact mismatch_explained alone s

theorem allOf_explained (start : Cursor) (chars : List Char) (s : State)
    (onward : start.position ≤ s.cursor.position) :
    (allOf source e start chars s).Explained env k e start.position := by
  induction chars generalizing s with
  | nil => trivial
  | cons c rest ih =>
    rw [allOf]
    split
    · exact ih _ (Nat.le_trans onward (s.cursor.position_le_next source))
    · exact explained_alone alone (Nat.le_refl _) onward _

theorem atEnd_explained (s : State) : (atEnd e s).Explained env k e s.cursor.position := by
  unfold atEnd
  split
  · trivial
  · exact mismatch_explained alone s

theorem lineBreak_explained (s : State) :
    (lineBreak source e s).Explained env k e s.cursor.position := by
  unfold lineBreak
  split
  · trivial
  · split
    · split
      · trivial
      · trivial
    · exact mismatch_explained alone s

theorem blank_explained (s : State) : (blank source e s).Explained env k e s.cursor.position := by
  unfold blank
  split
  · trivial
  · exact lineBreak_explained source alone s

end Primitives

/-! ## Compounds -/

section Lists

variable {item : Expr → State → Run α} (accounts : ∀ f t, (item f t).Accounts env f t)
  (start : Cursor)
include accounts

theorem sequence_explained (before items : List Expr) (values : List α) (s : State)
    (kept : s.skipping = k) (all : env.MatchesAll k before start s.cursor)
    (onward : start.position ≤ s.cursor.position) :
    (sequence item (.seq (before ++ items)) start items values s).Explained env k
      (.seq (before ++ items)) start.position := by
  induction items generalizing before values s with
  | nil => trivial
  | cons f rest ih =>
    obtain ⟨settles, matched, mismatched, explained⟩ := accounts f s
    rw [sequence]
    cases ran : item f s with
    | done a t =>
      rw [ran] at settles
      rw [List.append_cons]
      exact ih (before ++ [f]) (a :: values) t (settles.1.1.trans kept)
        (all.snoc (kept ▸ matched a t ran)) (Nat.le_trans onward settles.1.2)
    | failed failure t =>
      rw [ran] at explained
      cases failure with
      | mismatch inner =>
        intro trail same
        cases same
        exact .within .itself (.item all) (Nat.le_refl _) onward
          (kept ▸ mismatched inner t ran) (kept ▸ explained inner rfl)
      | fault broken => exact explained_fault broken _
    | exhausted => trivial

/-- The trail that a choice carries along is that of the last of the alternatives tried so far. -/
def LastExplained (env : Env) (k : Skipping) (start : Cursor) (tried : List Expr) :
    Option Trail → Prop
  | none => tried = []
  | some trail => ∃ others part, tried = others ++ [part] ∧ env.Mismatches k part start trail ∧
      Explains env k part start.position trail

omit accounts in
theorem noAlternative_explained {tried : List Expr} {last : Option Trail}
    (lastExplained : LastExplained env k start tried last) (t : State) :
    (failed (noAlternative (.choice tried) start last) t : Run α).Explained env k (.choice tried)
      start.position := by
  cases last with
  | none =>
    cases lastExplained
    exact explained_alone rfl (Nat.le_refl _) (Nat.le_refl _) t
  | some inner =>
    obtain ⟨others, part, rfl, fails, explains⟩ := lastExplained
    intro trail same
    cases same
    exact .within .itself .alternative (Nat.le_refl _) (Nat.le_refl _) fails explains

theorem firstOf_explained (tried alternatives : List Expr) (last : Option Trail) (s : State)
    (kept : s.skipping = k) (here : s.cursor = start)
    (lastExplained : LastExplained env k start tried last) :
    (firstOf item (.choice (tried ++ alternatives)) start alternatives last s).Explained env k
      (.choice (tried ++ alternatives)) start.position := by
  induction alternatives generalizing tried last s with
  | nil =>
    rw [List.append_nil]
    exact noAlternative_explained start lastExplained _
  | cons f rest ih =>
    obtain ⟨settles, _, mismatched, explained⟩ := accounts f s
    rw [firstOf]
    cases ran : item f s with
    | done a t => trivial
    | failed failure t =>
      rw [ran] at settles explained
      cases failure with
      | mismatch inner =>
        have fails := mismatched inner t ran
        have explains := explained inner rfl
        rw [kept, here] at fails explains
        rw [List.append_cons]
        exact ih (tried ++ [f]) (some inner) t (settles.1.trans kept) (settles.2.trans here)
          ⟨tried, f, rfl, fails, explains⟩
      | fault broken => exact explained_fault broken _
    | exhausted => trivial

end Lists

section Bodies

variable {body : State → Run α} {f : Expr} (accounts : ∀ t, (body t).Accounts env f t)
include accounts

omit accounts in
/-- An optional expression never mismatches. -/
theorem optional_explained (fallback : State → Run α)
    (fallbackExplained : ∀ t, (fallback t).Explained env k e position) (s : State) :
    (optional body fallback s).Explained env k e position := by
  unfold optional
  cases body s with
  | done a t => trivial
  | failed failure t =>
    cases failure with
    | mismatch trail => exact fallbackExplained t
    | fault broken => exact explained_fault broken _
  | exhausted => trivial

theorem repetition_explained (min max : Nat) (start : Cursor) (rounds count : Nat)
    (values : List α) (s : State) (kept : s.skipping = k)
    (all : env.MatchesAll k (List.replicate count f) start s.cursor)
    (onward : start.position ≤ s.cursor.position) :
    (repetition body (.rep min max f) min max start rounds count values s).Explained env k
      (.rep min max f) start.position := by
  induction rounds generalizing count values s with
  | zero => trivial
  | succ rounds ih =>
    obtain ⟨settles, matched, mismatched, explained⟩ := accounts s
    rw [repetition]
    split
    · trivial
    · cases ran : body s with
      | done a t =>
        rw [ran] at settles
        dsimp only
        split
        · trivial
        · apply ih (count + 1) (a :: values) t (settles.1.1.trans kept)
          · rw [List.replicate_succ']
            exact all.snoc (kept ▸ matched a t ran)
          · exact Nat.le_trans onward settles.1.2
      | failed failure t =>
        rw [ran] at explained
        cases failure with
        | mismatch inner =>
          dsimp only
          split
          · trivial
          · next few =>
            have less : count < min := Nat.lt_of_not_le fun enough => few ⟨rfl, enough⟩
            intro trail same
            cases same
            exact .within .itself (.iteration less all) (Nat.le_refl _) onward
              (kept ▸ mismatched inner t ran) (kept ▸ explained inner rfl)
        | fault broken =>
          dsimp only
          rw [if_neg fun both => Bool.false_ne_true both.1]
          exact explained_fault broken _
      | exhausted => trivial

end Bodies

section Looks

variable {look : State → Run Cursor} {f : Expr}

theorem notAhead_explained (lookSettles : ∀ t, Settles Eq t.cursor t (look t))
    (alone : e.mismatchesAlone = true) (s : State) :
    (notAhead look e s).Explained env k e s.cursor.position := by
  have settles := lookSettles s
  unfold notAhead
  cases ran : look s with
  | done stop t =>
    rw [ran] at settles
    obtain ⟨onward, rfl⟩ := settles
    exact explained_alone alone (Nat.le_refl _) onward.2 _
  | failed failure t =>
    cases failure with
    | mismatch trail => trivial
    | fault broken => exact explained_fault broken _
  | exhausted => trivial

theorem ahead_explained (accounts : ∀ t, (look t).Accounts env f t) (s : State) :
    (ahead look (.peek f) s).Explained env s.skipping (.peek f) s.cursor.position := by
  obtain ⟨_, _, mismatched, explained⟩ := accounts s
  unfold ahead
  cases ran : look s with
  | done stop t => trivial
  | failed failure t =>
    rw [ran] at explained
    cases failure with
    | mismatch inner =>
      intro trail same
      cases same
      exact .within .itself .lookahead (Nat.le_refl _) (Nat.le_refl _) (mismatched inner t ran)
        (explained inner rfl)
    | fault broken => exact explained_fault broken _
  | exhausted => trivial

theorem oneBut_explained (source : Source) (lookSettles : ∀ t, Settles Eq t.cursor t (look t))
    (alone : e.mismatchesAlone = true) (s : State) :
    (oneBut source look e s).Explained env k e s.cursor.position := by
  have settles := lookSettles s
  unfold oneBut
  cases ran : look s with
  | done stop t => exact explained_alone alone (Nat.le_refl _) (Nat.le_refl _) _
  | failed failure t =>
    rw [ran] at settles
    cases failure with
    | mismatch trail =>
      have reads : (oneOf source e (fun _ => true) t).Explained env k e t.cursor.position :=
        oneOf_explained source alone _ t
      rw [settles.2] at reads
      exact reads
    | fault broken => exact explained_fault broken _
  | exhausted => trivial

end Looks

/-! ## Skipping -/

section Skipping

variable (recognize : Expr → State → Run Cursor)

/-- Skipping fails only where an ignorable expression is at fault. -/
theorem skipOne_faults (ignore : List Expr) (s : State) :
    (skipOne recognize ignore s).Ends (fun _ _ => True)
      fun failure _ => failure.isMismatch = false := by
  induction ignore generalizing s with
  | nil => trivial
  | cons e rest ih =>
    rw [skipOne]
    cases recognize e s with
    | done stop t =>
      dsimp only
      split
      · trivial
      · exact ih t
    | failed failure t =>
      cases failure with
      | mismatch trail => exact ih t
      | fault broken => rfl
    | exhausted => trivial

theorem skipAll_faults (ignore : List Expr) (rounds : Nat) (s : State) :
    (skipAll recognize ignore rounds s).Ends (fun _ _ => True)
      fun failure _ => failure.isMismatch = false := by
  induction rounds generalizing s with
  | zero => trivial
  | succ rounds ih =>
    rw [skipAll]
    refine (skipOne_faults recognize ignore s).andThen fun more t _ => ?_
    cases more with
    | true => exact ih t
    | false => trivial

theorem skip_faults (rounds : Nat) (s : State) :
    (skip rounds recognize s).Ends (fun _ _ => True)
      fun failure _ => failure.isMismatch = false := by
  unfold skip
  split
  · exact (skipAll_faults recognize s.skipping.ignore rounds _).afterwards (fun _ _ _ => trivial)
      fun _ _ fault => fault
  · trivial

end Skipping

/-! ## The engine -/

section Engine

variable {builder : Builder α} {recognize : Expr → State → Run Cursor}
  {build : Expr → State → Run α}
  (recognizeSettles : ∀ e t, Settles Eq t.cursor t (recognize e t))
  (recognizeAccounts : ∀ e t, (recognize e t).Accounts env e t)
  (buildAccounts : ∀ e t, (build e t).Accounts env e t)

theorem close_explained (members : List α) (t : State) :
    (builder.close members t).Explained env k e position :=
  trivial

/-- A check of the bounds finds no mismatch, and goes on where it was. -/
theorem checkBounds_explained (rest : State → Run α)
    (restExplained : (rest s).Explained env k e position) :
    ((checkBounds e s).andThen fun _ t => rest t).Explained env k e position := by
  unfold checkBounds
  split
  · exact restExplained
  · exact explained_fault _ _

include buildAccounts in
theorem unskipped_explained (body : Expr) (s : State) :
    (unskipped (build body) s).Explained env s.skipping (.verbatim body) s.cursor.position := by
  exact ((buildAccounts body (s.withSkipping (s.skipping.toggle true))).explained.through
    .verbatim).afterwards (fun _ _ _ => trivial) fun _ _ explained => explained

include buildAccounts in
theorem resolve_explained (name : String) (s : State) :
    ((resolve env.definitions name s).andThen build).Explained env s.skipping (.ref name)
      s.cursor.position := by
  unfold resolve
  split
  · next target found =>
    exact (buildAccounts target (s.note (.resolved name s.cursor))).explained.through (.ref found)
  · exact explained_fault _ _

include recognizeSettles recognizeAccounts buildAccounts

theorem dispatch_explained (rounds : Nat) (e : Expr) (s : State) :
    (dispatch builder rounds recognize build env e s).Explained env s.skipping e
      s.cursor.position := by
  cases e with
  | char c => exact (oneOf_explained env.source rfl _ s).map _
  | literal text => exact (allOf_explained env.source rfl s.cursor _ s (Nat.le_refl _)).map _
  | seq items =>
    exact (sequence_explained buildAccounts s.cursor [] items [] s rfl .nil
      (Nat.le_refl _)).andThen close_explained
  | choice alternatives =>
    exact firstOf_explained buildAccounts s.cursor [] alternatives none s rfl rfl rfl
  | optional body => exact optional_explained _ (close_explained []) s
  | rep min max body =>
    refine checkBounds_explained _ ?_
    exact (repetition_explained (buildAccounts body) min max s.cursor rounds 0 [] s rfl .nil
      (Nat.le_refl _)).andThen close_explained
  | not body => exact (notAhead_explained (recognizeSettles body) rfl s).map _
  | peek body => exact (ahead_explained (recognizeAccounts body) s).map _
  | capture name body =>
    exact ((buildAccounts body s).explained.through .capture).andThen fun _ _ => trivial
  | any => exact (oneOf_explained env.source rfl _ s).map _
  | anyBut body => exact (oneBut_explained env.source (recognizeSettles body) rfl s).map _
  | range low high =>
    exact checkBounds_explained _ ((oneOf_explained env.source rfl _ s).map _)
  | eof => exact (atEnd_explained rfl s).map _
  | eol => exact (lineBreak_explained env.source rfl s).map _
  | space => exact (blank_explained env.source rfl s).map _
  | ref name => exact resolve_explained buildAccounts name s
  | verbatim body => exact unskipped_explained buildAccounts body s

/-- What is skipped first moves the mismatch onward. -/
theorem step_explained (rounds : Nat) (e : Expr) (s : State) :
    (step builder rounds recognize build env e s).Explained env s.skipping e
      s.cursor.position := by
  have skips := skip_skips recognizeSettles rounds s
  have faults := skip_faults recognize rounds s
  refine Ends.orReturnTo ?_ fun _ _ explained => explained
  cases ran : skip rounds recognize s with
  | done _ t =>
    rw [ran] at skips
    have explained : (dispatch builder rounds recognize build env e t).Explained env t.skipping e
        t.cursor.position :=
      dispatch_explained recognizeSettles recognizeAccounts buildAccounts rounds e t
    rw [skips.1] at explained
    exact Ends.imp explained (fun _ _ _ => trivial) fun _ _ explained trail same =>
      (explained trail same).from_before skips.2
  | failed failure t =>
    rw [ran] at faults
    rintro trail rfl
    cases faults
  | exhausted => trivial

end Engine

end Run

open Run Likeness

section Runs

variable {α : Type} {budget : Nat} {builder : Builder α} {s t : State}

/-- What was noted before makes no difference, and neither does what is built. -/
theorem run_unlogged (budget : Nat) (builder : Builder α) (env : Env) (e : Expr) (s : State) :
    (@keeping env (fun _ => True) fun _ _ => trivial).Follows (fun _ _ => True)
      (run budget builder env e s) (run budget .recognizer env e ⟨s.cursor, s.skipping, []⟩) :=
  run_follows (builds_any builder .recognizer) (Nat.le_refl budget) trivial
    ⟨⟨rfl, trivial⟩, rfl, trivial⟩

theorem matches_of_run {a : α} (ran : run budget builder env e s = .done a t) :
    env.Matches s.skipping e s.cursor t.cursor := by
  have follows := run_unlogged budget builder env e s
  rw [ran] at follows
  obtain ⟨stop, t', ran', _, states⟩ := follows
  have settles := run_settles budget rightFor_recognizer env e ⟨s.cursor, s.skipping, []⟩
  rw [ran'] at settles
  have here : stop = t'.cursor := settles.2
  have same : t.cursor = t'.cursor := states.cursor.1
  exact Env.matches_iff.mpr ⟨budget, t', by rw [ran', here, same]⟩

theorem mismatches_of_run {trail : Trail}
    (ran : run budget builder env e s = .failed (.mismatch trail) t) :
    env.Mismatches s.skipping e s.cursor trail := by
  have follows := run_unlogged budget builder env e s
  rw [ran] at follows
  rcases follows with excused | ⟨failure', t', ran', failures, _⟩
  · exact excused.elim
  · cases failures with
    | mismatch trails =>
      rw [trails.eq And.left]
      exact Env.mismatches_iff.mpr ⟨budget, t', ran'⟩

theorem run_accounts (budget : Nat) (builder : Builder α) (env : Env) (e : Expr) (s : State) :
    (run budget builder env e s).Accounts env e s := by
  induction budget generalizing α e s with
  | zero => exact ⟨trivial, nofun, nofun, trivial⟩
  | succ budget ih =>
    refine ⟨run_settles _ (rightFor_any builder) env e s, fun _ _ => matches_of_run,
      fun _ _ => mismatches_of_run, ?_⟩
    exact step_explained (fun f t => run_settles budget rightFor_recognizer env f t)
      (ih .recognizer) (ih builder) budget e s

end Runs

/-! ## Sessions -/

/-- The trail explains why the expression mismatches where the session stands. Along it positions never go
back, and where the session stands in its text, they never go beyond the end of it. -/
structure Session.Explains (session : Session) (e : Expr) (trail : Trail) : Prop where
  path : PegEngine.Explains session.toEnv session.skipping e session.cursor.position trail
  ordered : (session.cursor.position :: trail.positions).Pairwise (· ≤ ·)
  inside : session.cursor.Marks session.source →
    ∀ position ∈ trail.positions, position ≤ session.source.size

namespace Session

variable {α : Type} {session : Session} {budget : Nat} {builder : Builder α} {t : State} {trail : Trail}

/-- The cursors of a trail mark the text if the session stands in it. -/
theorem trail_inside (marks : session.cursor.Marks session.source)
    (ran : run budget builder session.toEnv e session.state = .failed (.mismatch trail) t) :
    ∀ position ∈ trail.positions, position ≤ session.source.size := by
  have stays (c : Cursor) (here : c.Marks session.source) :
      (c.next session.source).Marks session.source :=
    here.next
  have states : (keeping session.toEnv stays).States session.state session.state :=
    states_keeping marks
  have holds := (run_follows (builds_any builder builder) (Nat.le_refl budget) (e := e) trivial
    states).hold
  rw [ran] at holds
  intro position listed
  obtain ⟨c, shown, rfl⟩ := Trail.exists_cursor listed
  exact (holds.2 c shown).within

theorem explains_of_run {reply : Reply α}
    (replied : session.reply? (run budget builder session.toEnv e session.state) = some reply)
    (mismatched : reply.outcome = .error (.mismatch trail)) : session.Explains e trail := by
  have explained := (run_accounts budget builder session.toEnv e session.state).explained
  obtain ⟨t, ran, rfl⟩ := failed_of_reply? replied mismatched
  rw [ran] at explained
  have path := explained trail rfl
  exact ⟨path, List.isChain_iff_pairwise.mp path.isChain, fun marks => trail_inside marks ran⟩

end Session

/-- The trail of every mismatch is a path through the grammar, from the expression that was matched to one
that mismatches on its own account, and its mismatches follow each other in the text. -/
theorem trails_explain (session : Session) (e : Expr) (budget : Nat) :
    (∀ reply trail, session.recognizeWithin budget e = some reply →
      reply.outcome = .error (.mismatch trail) → session.Explains e trail) ∧
    ∀ reply trail, session.parseWithin budget e = some reply →
      reply.outcome = .error (.mismatch trail) → session.Explains e trail := by
  rw [session.recognizeWithin_eq, session.parseWithin_eq]
  exact ⟨fun _ _ => Session.explains_of_run, fun _ _ => Session.explains_of_run⟩

/-- A sequence that fails in a choice, in something captured without skipping, behind a reference, in a
repetition. -/
def Expr.sampleFailing : Expr :=
  .seq [.char 'a', .choice [.char 'x',
    .capture "c" (.verbatim (.seq [.ref "bs", .rep 2 0 (.char 'b')]))]]

/-- The trail that a reply tells of. -/
def Reply.trail? {α : Type} (reply : Reply α) : Option Trail :=
  match reply.outcome with
  | .error (.mismatch trail) => some trail
  | _ => none

/-- The outermost mismatch stops in front of what is skipped, the next ones start behind it. -/
theorem sample_explained : ∃ reply trail,
    Session.sample.recognizeWithin 12 .sampleFailing = some reply ∧
      reply.outcome = .error (.mismatch trail) ∧
      trail.positions = [0, 1, 2, 2, 2, 4, 4, 4, 4, 4] ∧
      Session.sample.Explains .sampleFailing trail := by
  have answered : (Session.sample.recognizeWithin 12 .sampleFailing).map
      (fun reply => reply.trail?.map Trail.positions) =
      some (some [0, 1, 2, 2, 2, 4, 4, 4, 4, 4]) := by
    decide +kernel
  obtain ⟨⟨outcome, after, log⟩, replied, shown⟩ := Option.map_eq_some_iff.mp answered
  rcases outcome with ⟨trail | broken⟩ | stop
  · exact ⟨_, trail, replied, rfl, Option.some.inj shown,
      (trails_explain Session.sample .sampleFailing 12).1 _ trail replied rfl⟩
  · cases shown
  · cases shown

end PegEngine
