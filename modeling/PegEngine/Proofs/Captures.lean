import PegEngine.Proofs.CaptureSpans
import PegEngine.Proofs.GatheringSound
import PegEngine.Source.Line

/-! Captures of a session. A parse that succeeds enters certain captures, and no others can be entered
from where the session stands. The tree names just these, in order, and its leaves are slices of the
text, one behind the other. -/
namespace PegEngine

namespace Session

/-- Of the expression, this harvest is gathered from where the session stands up to that position. -/
def Gathers (session : Session) (e : Expr) (stop : Nat) (h : Harvest) : Prop :=
  PegEngine.Gathers session.toEnv session.skipping.ignore session.skipping.verbatim (.whole e)
    session.cursor.position stop h

/-- This harvest is gathered up to that position, and nothing else can be gathered. -/
structure GathersOnly (session : Session) (e : Expr) (stop : Nat) (h : Harvest) : Prop where
  gathers : session.Gathers e stop h
  only : ∀ stop' h', session.Gathers e stop' h' → stop' = stop ∧ h' = h

variable {session : Session} {e : Expr} {stop : Nat} {h : Harvest}

theorem Gathers.only (gathers : session.Gathers e stop h)
    (marks : session.cursor.Marks session.source) : session.GathersOnly e stop h where
  gathers := gathers
  only _ _ gathers' :=
    ⟨PegEngine.Gathers.stop_unique marks.within gathers' gathers,
      PegEngine.Gathers.unique marks.within gathers' gathers⟩

/-- A parse that succeeds answers the tree of the one harvest that can be gathered. -/
theorem gathers_of_parseWithin (marks : session.cursor.Marks session.source) {budget : Nat}
    {reply : Reply (Option Tree)} {result : Option Tree}
    (parsed : session.parseWithin budget e = some reply) (succeeded : reply.outcome = .ok result) :
    ∃ h, session.GathersOnly e reply.session.cursor.position h ∧ result = h.tree session.source := by
  have harvests := run_harvests budget e (session.state_fits marks)
  rw [session.parseWithin_eq] at parsed
  obtain ⟨t, ran, rfl⟩ := done_of_reply? parsed succeeded
  rw [ran] at harvests
  obtain ⟨h, gathers, built⟩ := harvests
  exact ⟨h, Gathers.only gathers marks, built⟩

/-- The leaves of the tree are slices of the text: the spans of these captures, which lie behind each
other between where the session stands and that position. Each is what was matched, and begins where
nothing was left to skip, if skipping was on. -/
structure Slices (session : Session) (stop : Nat) (tree : Tree) (makers : List Capture) : Prop where
  texts : Tree.texts [tree] = makers.map (session.source.text ·.span)
  inOrder : Span.InOrder session.cursor.position (makers.map (·.span)) stop
  within : stop ≤ session.source.size
  fit : ∀ entered ∈ makers, entered.Fits session.toEnv session.skipping.ignore

theorem Gathers.slices (gathers : session.Gathers e stop h)
    (marks : session.cursor.Marks session.source) {tree : Tree}
    (built : some tree = h.tree session.source) :
    session.Slices stop tree (h.makers session.source) where
  texts := by
    rw [← Harvest.texts_tree, ← built]
    rfl
  inOrder := gathers.makers_inOrder
  within := gathers.within marks.within
  fit entered mem :=
    gathers.captures_fit marks.within (fun _ => nofun) entered
      ((h.makers_sublist session.source).subset mem)

end Session

/-- A run from a place of the text ends at a place of the text, and what it reads is a span of the
text, so a capture always has a text to take. -/
theorem Run.Goes.spans {α : Type} {env : Env} {ignore : List Expr} {v : Bool} {s t : State}
    {r : Run α} {a : α} (goes : r.Goes env ignore v s) (ran : r = .done a t) :
    t.cursor.Marks env.source ∧
      env.source.spanBetween? s.cursor t.cursor =
        some ⟨s.cursor.position, t.cursor.position⟩ := by
  rw [ran] at goes
  obtain ⟨fits, onward⟩ := goes
  exact ⟨fits.marks, if_pos ⟨onward, fits.marks.within⟩⟩

/-! ## Captures and trees of a parse -/

/-- The tree of a parse names, in preorder, exactly the captures with a name that were entered on the
one successful way through the expression, in the order of entry. -/
theorem names_eq_captures (session : Session) (marks : session.cursor.Marks session.source)
    (e : Expr) (budget : Nat) (reply : Reply (Option Tree)) (result : Option Tree)
    (parsed : session.parseWithin budget e = some reply) (succeeded : reply.outcome = .ok result) :
    ∃ h, session.GathersOnly e reply.session.cursor.position h ∧
      Tree.names result.toList = Capture.names h.captures := by
  obtain ⟨h, gathers, rfl⟩ := Session.gathers_of_parseWithin marks parsed succeeded
  exact ⟨h, gathers, h.names_tree session.source⟩

/-- An expression with an alternative that is given up after a capture, and with a capture that has no
name. -/
def Expr.sampleCapturing : Expr :=
  .seq [.capture "a" (.char 'a'), .choice [.seq [.capture "x" (.char 'b'), .char 'c'],
    .capture "" (.star (.capture "b" (.char 'b')))]]

/-- Nothing of the alternative is in the tree, and neither is what was skipped. -/
theorem Session.sample_parse : ∃ reply tree,
    Session.sample.parseWithin 12 .sampleCapturing = some reply ∧ reply.outcome = .ok (some tree) ∧
      Tree.names [tree] = ["a", "b", "b"] ∧ Tree.texts [tree] = ["a", "b", "b"] := by
  have answered : (Session.sample.parseWithin 12 .sampleCapturing).map
      (fun reply => reply.outcome.toOption.map fun result =>
        (result.isSome, Tree.names result.toList, Tree.texts result.toList)) =
      some (some (true, ["a", "b", "b"], ["a", "b", "b"])) := by
    decide +kernel
  obtain ⟨⟨outcome, after, log⟩, parsed, shown⟩ := Option.map_eq_some_iff.mp answered
  rcases outcome with failure | _ | tree
  · cases shown
  · cases shown
  · have both := congrArg Prod.snd (Option.some.inj shown)
    exact ⟨_, tree, parsed, rfl, congrArg Prod.fst both, congrArg Prod.snd both⟩

theorem sample_names : ∃ reply result h,
    Session.sample.parseWithin 12 .sampleCapturing = some reply ∧ reply.outcome = .ok result ∧
      Session.sample.GathersOnly .sampleCapturing reply.session.cursor.position h ∧
      Capture.names h.captures = ["a", "b", "b"] := by
  have marks : Session.sample.cursor.Marks Session.sample.source := Cursor.start_marks _
  obtain ⟨reply, tree, parsed, succeeded, named, _⟩ := Session.sample_parse
  obtain ⟨h, gathers, same⟩ :=
    names_eq_captures Session.sample marks _ 12 reply (some tree) parsed succeeded
  exact ⟨reply, some tree, h, parsed, succeeded, gathers, same.symm.trans named⟩

/-- The leaves of a parsed tree are slices of the text, one behind the other: the spans of those
captures on the successful way that have no tree inside them. And wherever the body of a capture is
run, what it matches can be sliced, and it ends where the next run may begin. -/
theorem leaves_are_slices (session : Session) (marks : session.cursor.Marks session.source)
    (e : Expr) (budget : Nat) :
    (∀ reply tree, session.parseWithin budget e = some reply → reply.outcome = .ok (some tree) →
      ∃ h, session.GathersOnly e reply.session.cursor.position h ∧
        (h.makers session.source).Sublist h.captures ∧
        session.Slices reply.session.cursor.position tree (h.makers session.source)) ∧
    ∀ (s t : State) (body : Expr) (inside : Option Tree), s.cursor.Marks session.source →
      Parsing.run budget session.toEnv body s = .done inside t →
        t.cursor.Marks session.source ∧
          session.source.spanBetween? s.cursor t.cursor =
            some ⟨s.cursor.position, t.cursor.position⟩ := by
  constructor
  · intro reply tree parsed succeeded
    obtain ⟨h, gathers, built⟩ := Session.gathers_of_parseWithin marks parsed succeeded
    exact ⟨h, gathers, h.makers_sublist session.source, gathers.gathers.slices marks built⟩
  · intro s t body inside marks ran
    rw [Parsing.run_eq] at ran
    have fits : s.Fits session.toEnv s.skipping.ignore s.skipping.verbatim := ⟨marks, rfl, fun _ => rfl⟩
    exact (run_goes fits budget .tree body).spans ran

theorem sample_slices : (∃ reply tree h,
    Session.sample.parseWithin 12 .sampleCapturing = some reply ∧ reply.outcome = .ok (some tree) ∧
      Session.sample.GathersOnly .sampleCapturing reply.session.cursor.position h ∧
      (h.makers Session.sample.source).map (Session.sample.source.text ·.span) = ["a", "b", "b"] ∧
      Session.sample.Slices reply.session.cursor.position tree (h.makers Session.sample.source)) ∧
    Session.sample.source.spanBetween? Session.sample.cursor
      (Session.sample.cursor.next Session.sample.source) = some ⟨0, 1⟩ := by
  have marks : Session.sample.cursor.Marks Session.sample.source := Cursor.start_marks _
  obtain ⟨slicing, spanned⟩ := leaves_are_slices Session.sample marks .sampleCapturing 12
  constructor
  · obtain ⟨reply, tree, parsed, succeeded, _, texts⟩ := Session.sample_parse
    obtain ⟨h, gathers, _, slices⟩ := slicing reply tree parsed succeeded
    exact ⟨reply, tree, h, parsed, succeeded, gathers, slices.texts.symm.trans texts, slices⟩
  · exact (spanned Session.sample.state (Session.sample.state.next Session.sample.source) (.char 'a')
      none marks rfl).2

end PegEngine
