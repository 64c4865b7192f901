import PegEngine.Proofs.Tokens

/-! What can be read off the written form. Brackets, names and operators can be told from the tokens, but two
things cannot: whether an empty group is a sequence or a choice, and which of the operators in front of an
expression and behind it apply first. With a hint for each of these, the tokens can be read back, up to another
spelling of the same. -/
namespace PegEngine

namespace Expr

/-! ## Other spellings -/

/-- The expression behind a sign for lookahead. -/
def look (negative : Bool) (e : Expr) : Expr :=
  if negative then .not e else .peek e

/-- The expression behind several signs for lookahead, the nearest first. -/
def looking (signs : List Bool) (e : Expr) : Expr :=
  signs.foldl (fun inside negative => look negative inside) e

/-- Members between brackets, with or without slashes between them. -/
def group (slashed : Bool) (members : List Expr) : Expr :=
  if slashed then .choice members else .seq members

mutual

/-- The expression as it is spelled out between its brackets, where a choice of one is not told from a sequence. -/
def respell : Expr → Expr
  | seq items => .seq (respellAll items)
  | choice alternatives => group (alternatives.length != 1) (respellAll alternatives)
  | optional body => .optional body.respell
  | rep min max body => .rep min max body.respell
  | not body => .not body.respell
  | peek body => .peek body.respell
  | capture name body => .capture name body.respell
  | anyBut body => .seq [.not body.respell, .any]
  | verbatim body => .verbatim body.respell
  | char c => .char c
  | literal text => .literal text
  | any => .any
  | range low high => .range low high
  | eof => .eof
  | eol => .eol
  | space => .space
  | ref name => .ref name

/-- The expressions of a list, each spelled out. -/
def respellAll : List Expr → List Expr
  | [] => []
  | e :: rest => e.respell :: respellAll rest

end

theorem respellAll_eq_map (es : List Expr) : respellAll es = es.map respell := by
  induction es with
  | nil => rfl
  | cons e rest ih => rw [respellAll, ih, List.map_cons]

/-- The signs for lookahead in front of an expression, the nearest first. -/
def lookaheads : Expr → List Bool
  | not body => body.lookaheads ++ [true]
  | peek body => body.lookaheads ++ [false]
  | _ => []

/-- What stands behind all signs for lookahead. -/
def operand : Expr → Expr
  | not body => body.operand
  | peek body => body.operand
  | e => e

theorem looking_operand (e : Expr) : looking e.lookaheads e.operand = e := by
  induction e using byParts with
  | whole e ih =>
    cases e with
    | not body =>
      rw [lookaheads, operand, looking, List.foldl_append]
      exact congrArg Expr.not (ih body (List.mem_singleton_self _))
    | peek body =>
      rw [lookaheads, operand, looking, List.foldl_append]
      exact congrArg Expr.peek (ih body (List.mem_singleton_self _))
    | _ => rfl

theorem lookaheads_group (slashed : Bool) (es : List Expr) : (group slashed es).lookaheads = [] := by
  cases slashed <;> rfl

theorem operand_group (slashed : Bool) (es : List Expr) :
    (group slashed es).operand = group slashed es := by
  cases slashed <;> rfl

theorem lookaheads_respell (e : Expr) : e.respell.lookaheads = e.lookaheads := by
  induction e using byParts with
  | whole e ih =>
    cases e with
    | not body => exact congrArg (· ++ [true]) (ih body (List.mem_singleton_self _))
    | peek body => exact congrArg (· ++ [false]) (ih body (List.mem_singleton_self _))
    | choice alternatives => exact lookaheads_group _ _
    | _ => rfl

theorem looking_respell (e : Expr) : looking e.lookaheads e.respell.operand = e.respell := by
  rw [← lookaheads_respell, looking_operand]

mutual

/-- What the tokens leave open, from left to right: how many signs for lookahead belong to what a suffix is for, and
of an empty group whether it is a sequence, which is 0, or a choice, which is 1. -/
def outline : Expr → List Nat
  | seq [] => [0]
  | seq (item :: rest) => item.outline ++ outlineAll rest
  | choice [] => [1]
  | choice (alternative :: rest) => alternative.outline ++ outlineAll rest
  | optional body | rep _ _ body => body.outline ++ [body.lookaheads.length]
  | not body | peek body | capture _ body | anyBut body | verbatim body => body.outline
  | char _ | literal _ | any | range _ _ | eof | eol | space | ref _ => []

def outlineAll : List Expr → List Nat
  | [] => []
  | e :: rest => e.outline ++ outlineAll rest

end

end Expr

/-! ## Reading -/

/-- A bracket that has been opened. -/
inductive Bracket where
  /-- A group with its members so far, the latest first, and whether there was a slash between them. -/
  | group (members : List Expr) (slashed : Bool)
  | capture (name : String)
  | verbatim

/-- What has been read of a row of tokens, and what is told of what they leave open. -/
structure Reader where
  /-- The brackets that are open, the innermost first, each with the signs for lookahead in front of it. -/
  opened : List (Bracket × List Bool)
  /-- The signs for lookahead that have been read and not applied, the latest first. -/
  signs : List Bool
  core : Option Expr
  hints : List Nat

namespace Reader

/-- What has been read since the last bracket or separator. -/
def pending (r : Reader) : Option Expr :=
  r.core.map (Expr.looking r.signs)

def word (chars : List Char) : Expr :=
  if chars = "EOF".toList then .eof
  else if chars = "EOL".toList then .eol
  else if chars = "SPACE".toList then .space
  else .ref (String.ofList chars)

def quoted (mark : Char) (chars : List Char) : Expr :=
  if mark = '\x27' then .char (chars.headD ' ') else .literal (String.ofList chars)

/-- A suffix takes as many of the signs with it as the hint says. -/
def suffix (r : Reader) (operator : Expr → Expr) : Reader :=
  let count := r.hints.headD 0
  { r with
    signs := r.signs.drop count
    core := r.core.map fun e => operator (Expr.looking (r.signs.take count) e)
    hints := r.hints.tail }

/-- A bracket is opened. Only what is read verbatim has a word in front of its bracket. -/
def openGroup (r : Reader) : Reader :=
  { r with
    opened := (if r.core.isSome then .verbatim else .group [] false, r.signs) :: r.opened
    signs := []
    core := none }

def openCapture (r : Reader) : Reader :=
  { r with
    opened := (.capture "", r.signs) :: r.opened
    signs := []
    core := none }

/-- What has been read is the name of the capture. -/
def label (r : Reader) : Reader :=
  match r.opened, r.core with
  | (.capture _, signs) :: opened, some (.ref name) =>
    { r with opened := (.capture name, signs) :: opened, core := none }
  | _, _ => r

/-- Behind a blank comes another member of the group. -/
def separate (r : Reader) : Reader :=
  match r.opened, r.pending with
  | (.group members slashed, signs) :: opened, some e =>
    { r with opened := (.group (e :: members) slashed, signs) :: opened, signs := [], core := none }
  | _, _ => r

def slash (r : Reader) : Reader :=
  match r.opened with
  | (.group members _, signs) :: opened => { r with opened := (.group members true, signs) :: opened }
  | _ => r

/-- The innermost bracket is closed. -/
def close (r : Reader) : Reader :=
  match r.opened, r.pending with
  | (.group members slashed, signs) :: opened, some e =>
    { r with opened, signs, core := some (.group slashed (e :: members).reverse) }
  | (.group _ _, signs) :: opened, none =>
    { opened, signs
      core := some (.group (r.hints.headD 0 != 0) [])
      hints := r.hints.tail }
  | (.capture name, signs) :: opened, some e => { r with opened, signs, core := some (.capture name e) }
  | (.verbatim, signs) :: opened, some e => { r with opened, signs, core := some (.verbatim e) }
  | _, _ => r

def step (r : Reader) : Token → Reader
  | .word chars => { r with core := some (word chars) }
  | .quoted mark chars => { r with core := some (quoted mark chars) }
  | .range low high => { r with core := some (.range low high) }
  | .count min max => r.suffix (.rep min max)
  | .sign c =>
    match c with
    | '!' => { r with signs := true :: r.signs }
    | '&' => { r with signs := false :: r.signs }
    | '.' => { r with core := some .any }
    | '?' => r.suffix .optional
    | '(' => r.openGroup
    | '<' => r.openCapture
    | ':' => r.label
    | ' ' => r.separate
    | '/' => r.slash
    | _ => r.close

/-- What is read of tokens one after the other. -/
def read (ts : List Token) (r : Reader) : Reader :=
  ts.foldl step r

@[simp] theorem read_nil (r : Reader) : read [] r = r := rfl

@[simp] theorem read_cons (t : Token) (ts : List Token) (r : Reader) :
    read (t :: ts) r = read ts (r.step t) := rfl

@[simp] theorem read_append (ts us : List Token) (r : Reader) :
    read (ts ++ us) r = read us (read ts r) :=
  List.foldl_append

/-- All tokens of the expression have been read, and nothing has been done with it. -/
def Reads (e : Expr) : Prop :=
  ∀ opened signs hints, read e.tokens ⟨opened, signs, none, e.outline ++ hints⟩ =
    ⟨opened, e.lookaheads ++ signs, some e.respell.operand, hints⟩

section Members

variable (opened : List (Bracket × List Bool)) (signs : List Bool) (hints : List Nat)

theorem read_separator (slashed flag : Bool) (members : List Expr) (signs' : List Bool) (e : Expr) :
    read (Expr.separator slashed) ⟨(.group members flag, signs) :: opened, signs', some e, hints⟩ =
      ⟨(.group (Expr.looking signs' e :: members) (flag || slashed), signs) :: opened, [], none, hints⟩ := by
  cases slashed with
  | false =>
    rw [Bool.or_false]
    rfl
  | true =>
    rw [Bool.or_true]
    rfl

theorem step_close_group (flag : Bool) (members : List Expr) (signs' : List Bool) (e : Expr) :
    step ⟨(.group members flag, signs) :: opened, signs', some e, hints⟩ (.sign ')') =
      ⟨opened, signs, some (.group flag (Expr.looking signs' e :: members).reverse), hints⟩ :=
  rfl

/-- The members of a group are read up to the bracket that closes it. -/
theorem read_members (slashed : Bool) {e : Expr} {rest : List Expr} (each : ∀ f ∈ e :: rest, Reads f)
    (flag : Bool) (members : List Expr) :
    read ((Expr.separator slashed).intercalate (Expr.tokensAll (e :: rest)) ++ [.sign ')'])
        ⟨(.group members flag, signs) :: opened, [], none, Expr.outlineAll (e :: rest) ++ hints⟩ =
      ⟨opened, signs, some (.group (flag || slashed && !rest.isEmpty)
        (members.reverse ++ Expr.respellAll (e :: rest))), hints⟩ := by
  induction rest generalizing e flag members with
  | nil =>
    have first := each e List.mem_cons_self
    rw [Expr.tokensAll, Expr.tokensAll, List.intercalate_singleton, read_append, Expr.outlineAll, Expr.outlineAll,
      List.append_nil, first, List.append_nil, read_cons, read_nil, step_close_group, Expr.looking_respell,
      List.reverse_cons, List.isEmpty_nil, Bool.not_true, Bool.and_false, Bool.or_false]
    rfl
  | cons next rest ih =>
    obtain ⟨first, others⟩ := List.forall_mem_cons.mp each
    have further := ih others (flag || slashed) (e.respell :: members)
    have slashes : (flag || slashed || slashed && !rest.isEmpty) = (flag || slashed && !(next :: rest).isEmpty) := by
      cases flag <;> cases slashed <;> rfl
    rw [slashes, List.reverse_cons, List.append_assoc, Expr.tokensAll] at further
    rw [Expr.tokensAll, Expr.tokensAll, List.intercalate_cons_cons, List.append_assoc, List.append_assoc, read_append,
      Expr.outlineAll, List.append_assoc, first, List.append_nil, read_append, read_separator, Expr.looking_respell,
      further]
    rfl

/-- A suffix is applied to what it is for. -/
theorem suffix_reads {body : Expr} (inside : Reads body) (operator : Expr → Expr) :
    (read body.tokens ⟨opened, signs, none, body.outline ++ [body.lookaheads.length] ++ hints⟩).suffix operator =
      ⟨opened, signs, some (operator body.respell), hints⟩ := by
  rw [List.append_assoc, inside, suffix, List.singleton_append, List.headD_cons, List.tail_cons,
    List.drop_left, List.take_left, Option.map_some, Expr.looking_respell]

/-- A bracket is closed around all that stands in it. -/
theorem close_reads {body : Expr} (inside : Reads body) {bracket : Bracket} {closing : Token}
    {wrap : Expr → Expr}
    (closes : ∀ signs' e, step ⟨(bracket, signs) :: opened, signs', some e, hints⟩ closing =
      ⟨opened, signs, some (wrap (Expr.looking signs' e)), hints⟩) :
    read (body.tokens ++ [closing]) ⟨(bracket, signs) :: opened, [], none, body.outline ++ hints⟩ =
      ⟨opened, signs, some (wrap body.respell), hints⟩ := by
  rw [read_append, inside, List.append_nil, read_cons, read_nil, closes, Expr.looking_respell]

end Members

theorem word_toList {name : String} (proper : Expr.IsName name) : word name.toList = .ref name := by
  have other {keyword : String} (capital : keyword.toList.all Token.isNameChar = false) :
      name.toList ≠ keyword.toList := by
    intro same
    rw [← same, proper.2] at capital
    cases capital
  rw [word, if_neg (other (by decide)), if_neg (other (by decide)), if_neg (other (by decide)),
    String.ofList_toList]

/-- The tokens of an expression are read back as that expression, spelled out. -/
theorem reads {e : Expr} (named : e.Named) : Reads e := by
  induction e using Expr.byParts with
  | whole e ih =>
    have parts (part : Expr) (mem : part ∈ e.parts) : Reads part := ih part mem (named.part mem)
    intro opened signs hints
    cases e with
    | char c => rfl
    | literal text =>
      have spelled : quoted '\x22' text.toList = .literal text := congrArg Expr.literal String.ofList_toList
      rw [Expr.tokens, read_cons, read_nil, step, spelled]
      rfl
    | seq items =>
      cases items with
      | nil => rfl
      | cons item rest =>
        rw [Expr.tokens, read_cons]
        exact read_members _ _ _ false parts false []
    | choice alternatives =>
      cases alternatives with
      | nil => rfl
      | cons alternative rest =>
        have members := read_members opened signs hints true parts false []
        have slashes : (false || true && !rest.isEmpty) = ((alternative :: rest).length != 1) := by
          cases rest <;> rfl
        rw [slashes] at members
        rw [Expr.tokens, read_cons, Expr.respell, Expr.operand_group]
        exact members
    | optional body =>
      have inside := parts body (List.mem_singleton_self _)
      rw [Expr.tokens, read_append, Expr.outline]
      exact suffix_reads opened signs hints inside .optional
    | rep min max body =>
      have inside := parts body (List.mem_singleton_self _)
      rw [Expr.tokens, read_append, Expr.outline]
      exact suffix_reads opened signs hints inside (.rep min max)
    | not body =>
      have inside := parts body (List.mem_singleton_self _)
      rw [Expr.lookaheads, List.append_assoc]
      exact inside opened (true :: signs) hints
    | peek body =>
      have inside := parts body (List.mem_singleton_self _)
      rw [Expr.lookaheads, List.append_assoc]
      exact inside opened (false :: signs) hints
    | capture name body =>
      have inside := parts body (List.mem_singleton_self _)
      rw [Expr.tokens]
      split
      · next empty =>
        obtain rfl : name = "" := String.isEmpty_iff.mp empty
        rw [read_cons]
        exact close_reads opened signs hints inside fun _ _ => rfl
      · next nonempty =>
        have proper : Expr.IsName name :=
          named.here.resolve_left fun empty => nonempty (by rw [empty]; rfl)
        rw [read_cons, read_cons, step, step, word_toList proper, read_cons, read_cons]
        exact close_reads opened signs hints inside fun _ _ => rfl
    | any => rfl
    | anyBut body =>
      have inside := parts body (List.mem_singleton_self _)
      have refused : Expr.looking (body.lookaheads ++ [true]) body.respell.operand = .not body.respell := by
        rw [Expr.looking, List.foldl_append]
        exact congrArg Expr.not body.looking_respell
      have tried := inside ((.group [] false, signs) :: opened) [true] hints
      rw [Expr.tokens, read_cons, read_cons, read_append]
      refine (congrArg _ tried).trans ?_
      rw [Expr.respell, ← refused]
      rfl
    | range low high => rfl
    | eof => rfl
    | eol => rfl
    | space => rfl
    | ref name =>
      have proper : Expr.IsName name := named.here
      rw [Expr.tokens, read_cons, read_nil, step, word_toList proper]
      rfl
    | verbatim body =>
      have inside := parts body (List.mem_singleton_self _)
      rw [Expr.tokens, read_cons, read_cons]
      exact close_reads opened signs hints inside fun _ _ => rfl

end Reader

namespace Expr

variable {e f : Expr}

/-- From the same tokens, and with the same hints about what they leave open, the same is read. -/
theorem respell_eq_of_tokens_eq (named : e.Named) (named' : f.Named) (same : e.tokens = f.tokens)
    {hints hints' : List Nat} (told : e.outline ++ hints = f.outline ++ hints') :
    e.respell = f.respell ∧ hints = hints' := by
  have left := Reader.reads named [] [] hints
  have right := Reader.reads named' [] [] hints'
  rw [same, told, right] at left
  obtain ⟨-, signs, operands, rest⟩ := Reader.mk.inj left
  rw [List.append_nil, List.append_nil] at signs
  refine ⟨?_, rest.symm⟩
  rw [← e.looking_respell, ← f.looking_respell, signs, Option.some.inj operands]

/-! ## Where nothing is left open -/

/-- The expression itself leaves nothing open: it is no empty choice, and no suffix behind a lookahead. -/
def ClearHere : Expr → Prop
  | choice alternatives => alternatives ≠ []
  | optional body | rep _ _ body => body.lookaheads = []
  | char _ | literal _ | seq _ | not _ | peek _ | capture _ _ | any | anyBut _ | range _ _ | eof | eol | space
  | ref _ | verbatim _ => True

/-- Nothing in the expression is left open by its tokens: empty groups are sequences, and no suffix is for a
lookahead. -/
def Clear (e : Expr) : Prop :=
  ∀ f ∈ e.preorder, f.ClearHere

theorem Clear.part {part : Expr} (clear : e.Clear) (mem : part ∈ e.parts) : part.Clear :=
  fun f listed => clear f (mem_preorder_of_part mem listed)

theorem mem_outlineAll {n : Nat} {es : List Expr} (mem : n ∈ outlineAll es) : ∃ e ∈ es, n ∈ e.outline := by
  induction es with
  | nil => cases mem
  | cons e rest ih =>
    rcases List.mem_append.mp mem with first | later
    · exact ⟨e, List.mem_cons_self, first⟩
    · obtain ⟨f, listed, mem⟩ := ih later
      exact ⟨f, List.mem_cons_of_mem _ listed, mem⟩

/-- The hints about an expression that is clear say nothing. -/
theorem Clear.outline (clear : e.Clear) : ∀ n ∈ e.outline, n = 0 := by
  induction e using byParts with
  | whole e ih =>
    have parts (part : Expr) (mem : part ∈ e.parts) : ∀ n ∈ part.outline, n = 0 := ih part mem (clear.part mem)
    have here := clear e e.mem_preorder_self
    have members {es : List Expr} (all : ∀ part ∈ es, ∀ n ∈ part.outline, n = 0) : ∀ n ∈ outlineAll es, n = 0 :=
      fun n mem => by
        obtain ⟨part, listed, mem⟩ := mem_outlineAll mem
        exact all part listed n mem
    have suffix {body : Expr} (all : ∀ n ∈ body.outline, n = 0) (plain : body.lookaheads = []) :
        ∀ n ∈ body.outline ++ [body.lookaheads.length], n = 0 := by
      rw [plain]
      exact List.forall_mem_append.mpr ⟨all, List.forall_mem_singleton.mpr rfl⟩
    cases e with
    | seq items =>
      cases items with
      | nil => exact List.forall_mem_singleton.mpr rfl
      | cons item rest => exact members parts
    | choice alternatives =>
      cases alternatives with
      | nil => exact absurd rfl here
      | cons alternative rest => exact members parts
    | optional body => exact suffix (parts body (List.mem_singleton_self _)) here
    | rep min max body => exact suffix (parts body (List.mem_singleton_self _)) here
    | not body | peek body | capture name body | anyBut body | verbatim body =>
      exact parts body (List.mem_singleton_self _)
    | _ => exact nofun

/-- Of expressions that are clear the tokens tell everything. -/
theorem outline_eq_of_clear (named : e.Named) (named' : f.Named) (same : e.tokens = f.tokens)
    (clear : e.Clear) (clear' : f.Clear) : e.outline = f.outline := by
  have zeros : e.outline = List.replicate e.outline.length 0 := List.eq_replicate_of_mem clear.outline
  have zeros' : f.outline = List.replicate f.outline.length 0 := List.eq_replicate_of_mem clear'.outline
  -- Hints that say nothing can be exchanged, so each expression can be read with those for both.
  have told : e.outline ++ f.outline = f.outline ++ e.outline := by
    rw [zeros, zeros', List.replicate_append_replicate, List.replicate_append_replicate, Nat.add_comm]
  exact (respell_eq_of_tokens_eq named named' same told).2.symm

end Expr

end PegEngine
