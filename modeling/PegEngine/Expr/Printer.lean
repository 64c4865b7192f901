import PegEngine.Expr.Basic
import PegEngine.Text.Quoted

/-! The written form of parsing expressions, in the usual notation of parsing expression grammars:
bracketed sequences and choices, suffixes for counts, and prefixes for lookahead. -/
namespace PegEngine

namespace Expr

/-- The suffix for a number of repetitions. -/
def renderCount : Nat → Nat → String
  | 0, 0 => "*"
  | 1, 0 => "+"
  | min, 0 => "\x7b" ++ toString min ++ ",\x7d"
  | min, max => "\x7b" ++ toString min ++ "," ++ toString max ++ "\x7d"

mutual

/-- The expression in grammar notation. -/
def render : Expr → String
  | char c => Text.quoteChar c
  | literal text => Text.quote text
  | seq items => "(" ++ " ".intercalate (renderAll items) ++ ")"
  | choice alternatives => "(" ++ " / ".intercalate (renderAll alternatives) ++ ")"
  | optional body => body.render ++ "?"
  | rep min max body => body.render ++ renderCount min max
  | not body => "!" ++ body.render
  | peek body => "&" ++ body.render
  | capture name body =>
    if name.isEmpty then "<" ++ body.render ++ ">" else "<" ++ name ++ ": " ++ body.render ++ ">"
  | any => "."
  | anyBut body => "(!" ++ body.render ++ " .)"
  | range low high => "[" ++ Text.quoteChar low ++ "-" ++ Text.quoteChar high ++ "]"
  | eof => "EOF"
  | eol => "EOL"
  | space => "SPACE"
  | ref name => name
  | verbatim body => "ignore(" ++ body.render ++ ")"

/-- The written forms of a list of expressions. -/
def renderAll : List Expr → List String
  | [] => []
  | e :: rest => e.render :: renderAll rest

end

theorem renderAll_eq_map (es : List Expr) : renderAll es = es.map render := by
  induction es with
  | nil => rfl
  | cons e es ih => simp [renderAll, ih]

end Expr

end PegEngine
