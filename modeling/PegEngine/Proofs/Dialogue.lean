import PegEngine.Proofs.Agreement
import PegEngine.Proofs.Lines

/-! Dialogues with a session: any requests in any order, each answered or failing, with every cursor
that is handed out kept for later jumps. What is true of a cursor and stays true when it reads on, a
run keeps true of all cursors that it shows, those in the trails of its failures included. So every
cursor that a dialogue ever hands out is the canonical one of its position. -/
namespace PegEngine

namespace Failure

/-- The cursors in the mismatches of a failure. -/
def cursors (failure : Failure) : List Cursor :=
  failure.entries.flatMap fun mismatch => [mismatch.start, mismatch.stop]

end Failure

/-! ## What runs keep true of cursors -/

namespace Likeness

variable {α : Type} (env : Env) {holds : Cursor → Prop}

/-- An engine is like itself on cursors of which something holds, if that stays so on reading on. -/
def keeping (stays : ∀ c, holds c → holds (c.next env.source)) : Likeness env env where
  covers _ := True
  cursor c c' := c = c' ∧ holds c
  skipping := Eq
  log _ _ := True
  fault := Eq
  excuse _ := False
  covers_part _ _ := trivial
  character_eq := fun ⟨same, _⟩ => congrArg Cursor.character same
  cursor_next := fun ⟨same, here⟩ => ⟨congrArg (Cursor.next env.source) same, stays _ here⟩
  position_lt_iff := by
    rintro c _ d _ ⟨rfl, _⟩ ⟨rfl, _⟩
    exact Iff.rfl
  active_eq skippings := congrArg Skipping.active skippings
  ignore_eq := (same env).ignore_eq
  suspended := rfl
  toggle := (same env).toggle
  skipped _ _ _ := trivial
  resolved _ _ _ := trivial
  found := (same env).found
  missing _ sought := Or.inr ⟨sought, rfl, fun _ => trivial⟩
  bounds := (same env).bounds

variable {env} {stays : ∀ c, holds c → holds (c.next env.source)}

theorem states_keeping {s : State} (here : holds s.cursor) : (keeping env stays).States s s :=
  ⟨⟨rfl, here⟩, rfl, trivial⟩

theorem Trails.hold {trail trail' : Trail} (trails : (keeping env stays).Trails trail trail') :
    ∀ mismatch ∈ trail.entries, holds mismatch.start ∧ holds mismatch.stop := by
  induction trails with
  | single mismatches => simpa using ⟨mismatches.start.2, mismatches.stop.2⟩
  | within _ mismatches ih =>
    intro mismatch mem
    rw [Trail.entries_within, List.mem_append, List.mem_singleton] at mem
    rcases mem with inner | rfl
    · exact ih mismatch inner
    · exact ⟨mismatches.start.2, mismatches.stop.2⟩

theorem Failures.hold {failure failure' : Failure}
    (failures : (keeping env stays).Failures failure failure') : ∀ c ∈ failure.cursors, holds c := by
  intro c mem
  rw [Failure.cursors, List.mem_flatMap] at mem
  obtain ⟨mismatch, listed, mem⟩ := mem
  cases failures with
  | mismatch trails =>
    have both := trails.hold mismatch listed
    simp only [List.mem_cons, List.not_mem_nil, or_false] at mem
    rcases mem with rfl | rfl
    · exact both.1
    · exact both.2
  | fault faults => cases listed

/-- What follows itself shows only cursors of which the same holds. -/
theorem Follows.hold {value : α → α → Prop} {r : Run α}
    (follows : (keeping env stays).Follows value r r) :
    r.Ends (fun a t => value a a ∧ holds t.cursor)
      fun failure t => holds t.cursor ∧ ∀ c ∈ failure.cursors, holds c := by
  cases r with
  | done a t =>
    obtain ⟨_, _, ⟨⟩, valued, states⟩ := follows
    exact ⟨valued, states.cursor.2⟩
  | failed failure t =>
    rcases follows with excused | ⟨_, _, _, failures, states⟩
    · cases failure with
      | mismatch trail => exact excused.elim
      | fault broken => exact excused.elim
    · exact ⟨states.cursor.2, failures.hold⟩
  | exhausted => trivial

end Likeness

open Likeness

/-! ## Replies -/

namespace Reply

variable {α : Type}

/-- The cursors that a reply hands out: those that its value shows, or those of its failure. -/
def cursors (shows : α → List Cursor) (reply : Reply α) : List Cursor :=
  match reply.outcome with
  | .ok a => shows a
  | .error failure => failure.cursors

end Reply

namespace Session

variable {α : Type} {session : Session} {r : Run α} {reply : Reply α}

/-- A match reads the text of its session and leaves it alone. -/
theorem source_of_reply? (replied : session.reply? r = some reply) :
    reply.session.source = session.source := by
  cases r with
  | done a t =>
    cases replied
    rfl
  | failed failure t =>
    cases replied
    rfl
  | exhausted => cases replied

theorem reply?_hold {holds : Cursor → Prop}
    {stays : ∀ c, holds c → holds (c.next session.source)} {value : α → α → Prop}
    {shows : α → List Cursor} (shown : ∀ a, value a a → ∀ c ∈ shows a, holds c)
    (follows : (keeping session.toEnv stays).Follows value r r)
    (replied : session.reply? r = some reply) :
    holds reply.session.cursor ∧ ∀ c ∈ reply.cursors shows, holds c := by
  have ends := follows.hold
  cases r with
  | done a t =>
    cases replied
    exact ⟨ends.2, shown a ends.1⟩
  | failed failure t =>
    cases replied
    exact ends
  | exhausted => cases replied

end Session

/-! ## Dialogues -/

/-- What can be asked of a session. -/
inductive Request where
  /-- Move up to `count` characters further. -/
  | advance (count : Nat)
  /-- Go back to the start of the text. -/
  | reset
  /-- Hand out the cursor. -/
  | save
  /-- Go to the cursor that was handed out at this place of the list. -/
  | jump (index : Nat)
  | define (name : String) (e : Expr)
  | setIgnore (ignore : List Expr)
  | setVerbatim (verbatim : Bool)
  | recognize (e : Expr)
  | recognizeAll (e : Expr)
  | parse (e : Expr)
  | parseAll (e : Expr)

/-- A session with all cursors that were handed out in it so far, the latest last. -/
structure Dialogue where
  session : Session
  handed : List Cursor

namespace Dialogue

/-- A fresh session; nothing has been handed out. -/
def start (source : Source) (grammar : Grammar) : Except Fault Dialogue :=
  (Session.start source grammar).map (⟨·, []⟩)

/-- Go on with the session after a reply and with the cursors that it hands out. -/
def hear {α : Type} (dialogue : Dialogue) (shows : α → List Cursor) (reply : Reply α) : Dialogue :=
  ⟨reply.session, dialogue.handed ++ reply.cursors shows⟩

/-- The dialogue after one more request, unless the request is endless or asks to go where no cursor
was handed out. A recognizer hands out the cursor that it answers, a tree holds none. -/
def ask (dialogue : Dialogue) : Request → Option Dialogue
  | .advance count => some { dialogue with session := dialogue.session.advance count }
  | .reset => some { dialogue with session := dialogue.session.reset }
  | .save => some { dialogue with handed := dialogue.handed ++ [dialogue.session.cursor] }
  | .jump index =>
    dialogue.handed[index]?.map fun c => { dialogue with session := dialogue.session.jump c }
  | .define name e => some { dialogue with session := dialogue.session.define name e }
  | .setIgnore ignore => some { dialogue with session := dialogue.session.setIgnore ignore }
  | .setVerbatim verbatim =>
    some { dialogue with session := dialogue.session.setVerbatim verbatim }
  | .recognize e => (dialogue.session.recognize e).map (dialogue.hear fun stop => [stop])
  | .recognizeAll e => (dialogue.session.recognizeAll e).map (dialogue.hear fun stop => [stop])
  | .parse e => (dialogue.session.parse e).map (dialogue.hear fun _ => [])
  | .parseAll e => (dialogue.session.parseAll e).map (dialogue.hear fun _ => [])

/-- The dialogue after several requests. -/
def askAll (dialogue : Dialogue) : List Request → Option Dialogue
  | [] => some dialogue
  | request :: rest => (dialogue.ask request).bind (askAll · rest)

/-- The session reads this source, and its cursor and all that were handed out are canonical. -/
structure Canonical (source : Source) (dialogue : Dialogue) : Prop where
  source_eq : dialogue.session.source = source
  cursor : dialogue.session.cursor.Canonical source
  handed : ∀ c ∈ dialogue.handed, c.Canonical source

namespace Canonical

variable {source : Source} {dialogue next : Dialogue}

theorem of_start {grammar : Grammar} (started : start source grammar = .ok dialogue) :
    dialogue.Canonical source := by
  rw [start, Session.start] at started
  split at started
  · cases started
  · cases started
    exact ⟨rfl, Cursor.start_canonical source, nofun⟩

variable (canonical : dialogue.Canonical source)
include canonical

/-- Moving to a canonical cursor hands out nothing. -/
theorem moved {session : Session} (source_eq : session.source = dialogue.session.source)
    (cursor : session.cursor.Canonical source) :
    Canonical source { dialogue with session := session } :=
  ⟨source_eq.trans canonical.source_eq, cursor, canonical.handed⟩

theorem hear {α : Type} {r : Run α} {reply : Reply α} {value : α → α → Prop}
    {shows : α → List Cursor}
    {stays : ∀ c : Cursor, c.Canonical source → (c.next dialogue.session.source).Canonical source}
    (shown : ∀ a, value a a → ∀ c ∈ shows a, c.Canonical source)
    (follows : (keeping dialogue.session.toEnv stays).Follows value r r)
    (replied : dialogue.session.reply? r = some reply) :
    (dialogue.hear shows reply).Canonical source := by
  obtain ⟨cursor, answered⟩ := Session.reply?_hold shown follows replied
  refine ⟨(Session.source_of_reply? replied).trans canonical.source_eq, cursor, fun c mem => ?_⟩
  rcases List.mem_append.mp mem with earlier | now
  · exact canonical.handed c earlier
  · exact answered c now

/-- No request hands out a cursor that is not canonical. -/
theorem ask {request : Request} (asked : dialogue.ask request = some next) :
    next.Canonical source := by
  have stays (c : Cursor) (here : c.Canonical source) :
      (c.next dialogue.session.source).Canonical source := by
    rw [canonical.source_eq]
    exact here.next
  have states : (keeping dialogue.session.toEnv stays).States dialogue.session.state
      dialogue.session.state := states_keeping canonical.cursor
  have stopShown (stop : Cursor) (valued : (keeping dialogue.session.toEnv stays).cursor
      stop stop) : ∀ c ∈ [stop], c.Canonical source := by
    simpa using valued.2
  cases request with
  | advance count =>
    cases asked
    refine canonical.moved rfl ?_
    rw [Session.advance, canonical.source_eq]
    exact canonical.cursor.advance count
  | reset =>
    cases asked
    refine canonical.moved rfl ?_
    rw [Session.reset, canonical.source_eq]
    exact Cursor.start_canonical source
  | save =>
    cases asked
    refine ⟨canonical.source_eq, canonical.cursor, fun c mem => ?_⟩
    rcases List.mem_append.mp mem with earlier | now
    · exact canonical.handed c earlier
    · exact List.mem_singleton.mp now ▸ canonical.cursor
  | jump index =>
    obtain ⟨c, met, rfl⟩ := Option.map_eq_some_iff.mp asked
    exact canonical.moved rfl (canonical.handed c (List.mem_of_getElem? met))
  | define name e =>
    cases asked
    exact canonical.moved rfl canonical.cursor
  | setIgnore ignore =>
    cases asked
    exact canonical.moved rfl canonical.cursor
  | setVerbatim verbatim =>
    cases asked
    exact canonical.moved rfl canonical.cursor
  | recognize e =>
    obtain ⟨reply, replied, rfl⟩ := Option.map_eq_some_iff.mp asked
    rw [Session.recognize_eq] at replied
    exact canonical.hear stopShown
      (run_follows builds_recognizer (Nat.le_refl _) trivial states) replied
  | recognizeAll e =>
    obtain ⟨reply, replied, rfl⟩ := Option.map_eq_some_iff.mp asked
    rw [Session.recognizeAll_eq] at replied
    exact canonical.hear stopShown
      (runToEnd_follows builds_recognizer (Nat.le_refl _) trivial states) replied
  | parse e =>
    obtain ⟨reply, replied, rfl⟩ := Option.map_eq_some_iff.mp asked
    rw [Session.parse_eq] at replied
    exact canonical.hear (fun _ _ => nofun)
      (run_follows (builds_any .tree .tree) (Nat.le_refl _) trivial states) replied
  | parseAll e =>
    obtain ⟨reply, replied, rfl⟩ := Option.map_eq_some_iff.mp asked
    rw [Session.parseAll_eq] at replied
    exact canonical.hear (fun _ _ => nofun)
      (runToEnd_follows (builds_any .tree .tree) (Nat.le_refl _) trivial states) replied

theorem askAll {requests : List Request} (asked : dialogue.askAll requests = some next) :
    next.Canonical source := by
  induction requests generalizing dialogue with
  | nil =>
    cases asked
    exact canonical
  | cons request rest ih =>
    obtain ⟨after, first, others⟩ := Option.bind_eq_some_iff.mp asked
    exact ih (canonical.ask first) others

theorem mem {c : Cursor} (mem : c ∈ dialogue.session.cursor :: dialogue.handed) :
    c.Canonical source := by
  rcases List.mem_cons.mp mem with rfl | earlier
  · exact canonical.cursor
  · exact canonical.handed c earlier

end Canonical

end Dialogue

/-- Whatever is asked of a session, its cursor and every cursor it has handed out are determined by
their positions: the character is the one that stands there, none only at the end; the line is the
number of line breaks before the position, the start of the line lies right behind the last of them,
and the column is the distance from there. So no two cursors have line and column in common, and
lines and columns order them as positions do. -/
theorem cursors_canonical {source : Source} {grammar : Grammar} {first last : Dialogue}
    (started : Dialogue.start source grammar = .ok first) (requests : List Request)
    (asked : first.askAll requests = some last) :
    (∀ c ∈ last.session.cursor :: last.handed,
      c.position ≤ source.size ∧ c = Cursor.ofPosition source c.position ∧
        (c.character = none ↔ c.position = source.size)) ∧
    ∀ c ∈ last.session.cursor :: last.handed, ∀ d ∈ last.session.cursor :: last.handed,
      (c.line = d.line → c.column = d.column → c = d) ∧
        (c.position < d.position ↔ c.line < d.line ∨ c.line = d.line ∧ c.column < d.column) := by
  have canonical : last.Canonical source := (Dialogue.Canonical.of_start started).askAll asked
  constructor
  · intro c mem
    have here := canonical.mem mem
    exact ⟨here.within, here.eq_ofPosition, here.character_eq_none_iff⟩
  · intro c mem d mem'
    have here := canonical.mem mem
    have there := canonical.mem mem'
    exact ⟨here.eq_of_place_eq there, here.position_lt_iff there⟩

/-- A dialogue about a text in which a line break takes up two characters, before its first request. -/
def Dialogue.sample : Dialogue where
  session :=
    { source := #['a', '\r', '\n', 'b']
      definitions := .empty
      skipping := ⟨[], false⟩
      cursor := .start #['a', '\r', '\n', 'b'] }
  handed := []

/-- A match over the break, a parse that fails behind it, and a jump between the halves of the break to
a cursor that was saved there. -/
def Request.sample : List Request :=
  [.advance 2, .save, .reset, .recognize (.seq [.char 'a', .eol]), .setVerbatim true,
    .parse (.choice [.literal "bx"]), .jump 0]

theorem sample_cursors_canonical : ∃ last : Dialogue,
    Dialogue.start #['a', '\r', '\n', 'b'] .empty = .ok .sample ∧
      Dialogue.sample.askAll Request.sample = some last ∧
      ∀ c ∈ last.session.cursor :: last.handed,
        c = Cursor.ofPosition #['a', '\r', '\n', 'b'] c.position := by
  have started : Dialogue.start #['a', '\r', '\n', 'b'] .empty = .ok .sample := rfl
  have answered : (Dialogue.sample.askAll Request.sample).isSome = true := by decide
  obtain ⟨last, asked⟩ := Option.isSome_iff_exists.mp answered
  exact ⟨last, started, asked, fun c mem => ((cursors_canonical started _ asked).1 c mem).2.1⟩

end PegEngine
