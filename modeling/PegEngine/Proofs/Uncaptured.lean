import Mathlib.Data.List.Forall2
import PegEngine.Proofs.Reading
import PegEngine.Session

/-! Expressions without their captures. Where every capture gives way to what it captures, expressions that
differed in captures only become one and the same; such expressions are akin. Below the captures that enclose
them as a whole, akin expressions have the same shape, with parts that are akin again. -/
namespace PegEngine

open List (Forall₂)

namespace Expr

mutual

/-- The expression with every capture replaced by what it captures. -/
def uncaptured : Expr → Expr
  | seq items => .seq (uncapturedAll items)
  | choice alternatives => .choice (uncapturedAll alternatives)
  | optional body => .optional body.uncaptured
  | rep min max body => .rep min max body.uncaptured
  | not body => .not body.uncaptured
  | peek body => .peek body.uncaptured
  | capture _ body => body.uncaptured
  | anyBut body => .anyBut body.uncaptured
  | verbatim body => .verbatim body.uncaptured
  | char c => .char c
  | literal text => .literal text
  | any => .any
  | range low high => .range low high
  | eof => .eof
  | eol => .eol
  | space => .space
  | ref name => .ref name

/-- The expressions of a list, each without its captures. -/
def uncapturedAll : List Expr → List Expr
  | [] => []
  | e :: rest => e.uncaptured :: uncapturedAll rest

end

theorem uncapturedAll_eq_map (es : List Expr) : uncapturedAll es = es.map uncaptured := by
  induction es with
  | nil => rfl
  | cons e es ih => rw [uncapturedAll, ih, List.map_cons]

mutual

/-- There is no capture left to replace. -/
@[simp] theorem uncaptured_uncaptured (e : Expr) : e.uncaptured.uncaptured = e.uncaptured := by
  cases e <;> simp [uncaptured, uncaptured_uncaptured, uncapturedAll_uncapturedAll]

theorem uncapturedAll_uncapturedAll (es : List Expr) :
    uncapturedAll (uncapturedAll es) = uncapturedAll es := by
  cases es <;> simp [uncapturedAll, uncaptured_uncaptured, uncapturedAll_uncapturedAll]

end

/-! ## Kinship -/

/-- The expressions differ in captures only. -/
def Akin (e f : Expr) : Prop :=
  e.uncaptured = f.uncaptured

theorem Akin.symm {e f : Expr} (akin : e.Akin f) : f.Akin e :=
  Eq.symm akin

theorem Akin.trans {e f g : Expr} (first : e.Akin f) (second : f.Akin g) : e.Akin g :=
  Eq.trans first second

/-- Lists hold expressions that are akin, one by one, where they are the same without captures. -/
theorem forall₂_akin_iff {es fs : List Expr} :
    Forall₂ Akin es fs ↔ es.map uncaptured = fs.map uncaptured := by
  rw [← List.forall₂_eq_eq_eq, List.forall₂_map_left_iff, List.forall₂_map_right_iff]
  rfl

theorem forall₂_akin_join {es fs gs : List Expr} (left : Forall₂ Akin es gs)
    (right : Forall₂ Akin fs gs) : Forall₂ Akin es fs := by
  rw [forall₂_akin_iff] at left right ⊢
  exact left.trans right.symm

theorem akin_uncaptured (e : Expr) : e.Akin e.uncaptured :=
  e.uncaptured_uncaptured.symm

theorem akin_uncapturedAll (es : List Expr) : Forall₂ Akin es (uncapturedAll es) := by
  rw [uncapturedAll_eq_map, List.forall₂_map_right_iff]
  exact List.forall₂_same.mpr fun e _ => e.akin_uncaptured

/-- The expression below the captures that enclose it as a whole. -/
def core : Expr → Expr
  | capture _ body => body.core
  | e => e

/-- An expression is a capture, or no capture encloses it. -/
theorem capture_or_core (e : Expr) : (∃ name body, e = capture name body) ∨ e.core = e := by
  cases e with
  | capture name body => exact Or.inl ⟨name, body, rfl⟩
  | _ => exact Or.inr rfl

theorem core_akin (e : Expr) : e.core.Akin e := by
  cases e with
  | capture name body => exact body.core_akin
  | _ => rfl

/-- Expressions of the same form that say the same of parts that are akin. -/
inductive Shaped : Expr → Expr → Prop where
  | primitive {e} : e.isPrimitive = true → Shaped e e
  | ref {name} : Shaped (.ref name) (.ref name)
  | seq {es fs} : Forall₂ Akin es fs → Shaped (.seq es) (.seq fs)
  | choice {es fs} : Forall₂ Akin es fs → Shaped (.choice es) (.choice fs)
  | optional {e f} : e.Akin f → Shaped (.optional e) (.optional f)
  | rep {min max e f} : e.Akin f → Shaped (.rep min max e) (.rep min max f)
  | not {e f} : e.Akin f → Shaped (.not e) (.not f)
  | peek {e f} : e.Akin f → Shaped (.peek e) (.peek f)
  | anyBut {e f} : e.Akin f → Shaped (.anyBut e) (.anyBut f)
  | verbatim {e f} : e.Akin f → Shaped (.verbatim e) (.verbatim f)

/-- Below its outer captures an expression has the shape that it has without any. -/
theorem shaped_uncaptured (e : Expr) : Shaped e.core e.uncaptured := by
  cases e with
  | seq es => exact .seq (akin_uncapturedAll es)
  | choice es => exact .choice (akin_uncapturedAll es)
  | optional body => exact .optional body.akin_uncaptured
  | rep min max body => exact .rep body.akin_uncaptured
  | not body => exact .not body.akin_uncaptured
  | peek body => exact .peek body.akin_uncaptured
  | capture name body => exact body.shaped_uncaptured
  | anyBut body => exact .anyBut body.akin_uncaptured
  | verbatim body => exact .verbatim body.akin_uncaptured
  | ref name => exact .ref
  | char _ | literal _ | any | range _ _ | eof | eol | space => exact .primitive rfl

/-- Expressions with the shape of a third have the same shape. -/
theorem Shaped.join {e f g : Expr} (left : Shaped e g) (right : Shaped f g) : Shaped e f := by
  cases left with
  | primitive primitive =>
    cases right with
    | primitive _ => exact .primitive primitive
    | _ => cases primitive
  | ref =>
    cases right with
    | primitive primitive => cases primitive
    | ref => exact .ref
  | seq parts =>
    cases right with
    | primitive primitive => cases primitive
    | seq parts' => exact .seq (forall₂_akin_join parts parts')
  | choice parts =>
    cases right with
    | primitive primitive => cases primitive
    | choice parts' => exact .choice (forall₂_akin_join parts parts')
  | optional body =>
    cases right with
    | primitive primitive => cases primitive
    | optional body' => exact .optional (body.trans body'.symm)
  | rep body =>
    cases right with
    | primitive primitive => cases primitive
    | rep body' => exact .rep (body.trans body'.symm)
  | not body =>
    cases right with
    | primitive primitive => cases primitive
    | not body' => exact .not (body.trans body'.symm)
  | peek body =>
    cases right with
    | primitive primitive => cases primitive
    | peek body' => exact .peek (body.trans body'.symm)
  | anyBut body =>
    cases right with
    | primitive primitive => cases primitive
    | anyBut body' => exact .anyBut (body.trans body'.symm)
  | verbatim body =>
    cases right with
    | primitive primitive => cases primitive
    | verbatim body' => exact .verbatim (body.trans body'.symm)

/-- Without the captures around them, expressions that are akin have the same shape. -/
theorem shaped_of_akin {e f : Expr} (akin : e.Akin f) : Shaped e.core f.core := by
  have shaped := f.shaped_uncaptured
  rw [← akin] at shaped
  exact e.shaped_uncaptured.join shaped

end Expr

/-! ## Grammars -/

namespace Definitions

/-- The definitions without their captures. -/
def uncaptured (defs : Definitions) : Definitions where
  entries := defs.entries.map fun entry => (entry.1, entry.2.uncaptured)
  sorted := List.pairwise_map.mpr defs.sorted

theorem lookup_map (query : String) (f : Expr → Expr) (entries : List (String × Expr)) :
    lookup query (entries.map fun entry => (entry.1, f entry.2)) = (lookup query entries).map f := by
  induction entries with
  | nil => rfl
  | cons entry rest ih =>
    rw [List.map_cons, lookup, lookup, ih]
    split <;> rfl

theorem find?_uncaptured (defs : Definitions) (name : String) :
    defs.uncaptured.find? name = (defs.find? name).map Expr.uncaptured :=
  lookup_map name Expr.uncaptured defs.entries

@[simp] theorem uncaptured_uncaptured (defs : Definitions) :
    defs.uncaptured.uncaptured = defs.uncaptured := by
  simp [uncaptured]

/-- Definitions that differ in captures only define the same names, by expressions that are akin. -/
theorem find?_akin {defs defs' : Definitions} (same : defs.uncaptured = defs'.uncaptured)
    (name : String) : Option.Rel Expr.Akin (defs.find? name) (defs'.find? name) := by
  have found : (defs.find? name).map Expr.uncaptured = (defs'.find? name).map Expr.uncaptured := by
    rw [← find?_uncaptured, ← find?_uncaptured, same]
  generalize defs.find? name = left, defs'.find? name = right at found ⊢
  cases left with
  | none =>
    rw [Option.map_eq_none_iff.mp found.symm]
    exact .none
  | some target =>
    obtain ⟨target', rfl, akin⟩ := Option.map_eq_some_iff.mp found.symm
    exact .some akin.symm

end Definitions

namespace Skipping

/-- The same setting, with nothing captured in what is skipped. -/
def uncaptured (skipping : Skipping) : Skipping :=
  ⟨skipping.ignore.map Expr.uncaptured, skipping.verbatim⟩

@[simp] theorem uncaptured_uncaptured (skipping : Skipping) :
    skipping.uncaptured.uncaptured = skipping.uncaptured := by
  simp [uncaptured]

@[simp] theorem uncaptured_active (skipping : Skipping) :
    skipping.uncaptured.active = skipping.active := by
  simp [active, uncaptured]

end Skipping

/-! ## Failures -/

/-- The mismatch with no captures in its pattern; where it began and how far it got stays. -/
def Mismatch.uncaptured (mismatch : Mismatch) : Mismatch :=
  { mismatch with pattern := mismatch.pattern.uncaptured }

/-- The trail with no captures in its patterns, mismatch by mismatch. -/
def Trail.uncaptured : Trail → Trail
  | single mismatch => .single mismatch.uncaptured
  | within inner context => .within inner.uncaptured context.uncaptured

/-- The fault with no captures in the expression that it names, if it names one. -/
def Fault.uncaptured : Fault → Fault
  | bounds e why => .bounds e.uncaptured why
  | undefined name => .undefined name
  | emptyInput => .emptyInput

/-- The failure with no captures in the expressions that it names. -/
def Failure.uncaptured : Failure → Failure
  | mismatch trail => .mismatch trail.uncaptured
  | fault broken => .fault broken.uncaptured

/-- The failures differ in captures only. -/
inductive Failure.Akin : Failure → Failure → Prop where
  | mismatch {t t' : Trail} : t.uncaptured = t'.uncaptured → Akin (.mismatch t) (.mismatch t')
  | fault {f f' : Fault} : f.uncaptured = f'.uncaptured → Akin (.fault f) (.fault f')

/-- Attempts on expressions that are akin, over the same stretch of text. -/
theorem Expr.Akin.mismatch {e f : Expr} (akin : e.Akin f) (start stop : Cursor) :
    (Mismatch.mk e start stop).uncaptured = (Mismatch.mk f start stop).uncaptured :=
  congrArg (Mismatch.mk · start stop) akin

namespace Failure.Akin

variable {f f' : Failure}

theorem within (akin : f.Akin f') {m m' : Mismatch} (contexts : m.uncaptured = m'.uncaptured) :
    (f.within m).Akin (f'.within m') := by
  cases akin with
  | mismatch trails => exact .mismatch (congrArg₂ Trail.within trails contexts)
  | fault faults => exact .fault faults

theorem isMismatch_eq (akin : f.Akin f') : f.isMismatch = f'.isMismatch := by
  cases akin with
  | mismatch trails => rfl
  | fault faults => rfl

theorem uncaptured_eq (akin : f.Akin f') : f.uncaptured = f'.uncaptured := by
  cases akin with
  | mismatch trails => exact congrArg Failure.mismatch trails
  | fault faults => exact congrArg Failure.fault faults

end Failure.Akin

/-! ## Sessions -/

/-- The session with no captures in its definitions and in what it skips. -/
def Session.uncaptured (session : Session) : Session :=
  { session with
    definitions := session.definitions.uncaptured
    skipping := session.skipping.uncaptured }

@[simp] theorem Session.uncaptured_uncaptured (session : Session) :
    session.uncaptured.uncaptured = session.uncaptured := by
  simp [uncaptured]

/-- The replies differ in captures only: the matches end at the same cursor, or fail for reasons that differ in
captures only, and they leave sessions that do. What they noted on the way is not compared. -/
structure Reply.Akin {α : Type} (reply reply' : Reply α) : Prop where
  outcome : reply.outcome.mapError Failure.uncaptured = reply'.outcome.mapError Failure.uncaptured
  session : reply.session.uncaptured = reply'.session.uncaptured

end PegEngine
