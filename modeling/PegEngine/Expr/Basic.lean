/-! Parsing expressions. An expression describes how to read a piece of text from where a cursor
stands. Recursion goes through names: an expression never contains itself, and a name is looked up
only when it is met. -/
namespace PegEngine

/-- A parsing expression. -/
inductive Expr where
  /-- This one character. -/
  | char (c : Char)
  /-- These characters in a row. -/
  | literal (text : String)
  /-- All items, one after the other. -/
  | seq (items : List Expr)
  /-- The first alternative that matches. -/
  | choice (alternatives : List Expr)
  /-- The body, or nothing. -/
  | optional (body : Expr)
  /-- The body at least `min` and at most `max` times; a maximum of zero sets no bound. -/
  | rep (min max : Nat) (body : Expr)
  /-- Nothing, where the body does not match. -/
  | not (body : Expr)
  /-- Nothing, where the body matches. -/
  | peek (body : Expr)
  /-- The body, under a name in the tree; the empty name makes an anonymous group. -/
  | capture (name : String) (body : Expr)
  /-- Any one character. -/
  | any
  /-- Any one character, where the body does not match. -/
  | anyBut (body : Expr)
  /-- One character from `low` to `high`, both included. -/
  | range (low high : Char)
  /-- The end of the text. -/
  | eof
  /-- One line break: a line feed, a carriage return, or both in the order return, feed. -/
  | eol
  /-- A space, a tab or a line break. -/
  | space
  /-- The definition of a name. -/
  | ref (name : String)
  /-- The body, with nothing skipped before or inside it. -/
  | verbatim (body : Expr)
  deriving Repr, Inhabited

namespace Expr

/-- The body any number of times. -/
def star (body : Expr) : Expr :=
  .rep 0 0 body

/-- The body at least once. -/
def plus (body : Expr) : Expr :=
  .rep 1 0 body

mutual

/-- The number of expressions in an expression, itself included. -/
def size : Expr → Nat
  | seq items => sizeAll items + 1
  | choice alternatives => sizeAll alternatives + 1
  | optional body | rep _ _ body | not body | peek body | capture _ body | anyBut body
  | verbatim body => body.size + 1
  | char _ | literal _ | any | range _ _ | eof | eol | space | ref _ => 1

/-- The number of expressions in a list of them. -/
def sizeAll : List Expr → Nat
  | [] => 0
  | e :: rest => e.size + sizeAll rest

end

theorem size_pos (e : Expr) : 0 < e.size := by
  cases e <;> simp [size]

theorem sizeAll_append (es fs : List Expr) : sizeAll (es ++ fs) = sizeAll es + sizeAll fs := by
  induction es with
  | nil => simp [sizeAll]
  | cons e es ih => simp [sizeAll, ih, Nat.add_assoc]

/-- Whether a match can put something into the tree. What a name stands for is not known before it
is met, so a reference counts. -/
def canCapture : Expr → Bool
  | seq _ | choice _ | optional _ | rep _ _ _ | capture _ _ | ref _ | verbatim _ => true
  | char _ | literal _ | not _ | peek _ | any | anyBut _ | range _ _ | eof | eol | space => false

/-- Why no text can ever match an expression. -/
inductive BoundsFault where
  | emptyRange
  | maximumBelowMinimum
  deriving DecidableEq, Repr

/-- What is wrong with the bounds of the expression itself; its parts are not looked at. -/
def boundsFault? : Expr → Option BoundsFault
  | range low high => if high < low then some .emptyRange else none
  | rep min max _ => if 0 < max ∧ max < min then some .maximumBelowMinimum else none
  | _ => none

end Expr

end PegEngine
