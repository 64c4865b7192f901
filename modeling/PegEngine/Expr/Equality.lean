import PegEngine.Expr.Basic

/-! Equality of parsing expressions is decided by comparing them part by part. -/
namespace PegEngine

namespace Expr

mutual

/-- Comparison part by part. -/
def same : Expr → Expr → Bool
  | char c, char d => c == d
  | literal s, literal t => s == t
  | seq es, seq fs => sameAll es fs
  | choice es, choice fs => sameAll es fs
  | optional e, optional f => same e f
  | rep min max e, rep min' max' f => min == min' && max == max' && same e f
  | not e, not f => same e f
  | peek e, peek f => same e f
  | capture name e, capture name' f => name == name' && same e f
  | any, any => true
  | anyBut e, anyBut f => same e f
  | range low high, range low' high' => low == low' && high == high'
  | eof, eof => true
  | eol, eol => true
  | space, space => true
  | ref name, ref name' => name == name'
  | verbatim e, verbatim f => same e f
  | _, _ => false

/-- Comparison of lists, item by item. -/
def sameAll : List Expr → List Expr → Bool
  | [], [] => true
  | e :: es, f :: fs => same e f && sameAll es fs
  | _, _ => false

end

mutual

theorem same_iff (e f : Expr) : same e f = true ↔ e = f := by
  cases e <;> cases f <;> simp [same, same_iff, sameAll_iff, and_assoc]

theorem sameAll_iff (es fs : List Expr) : sameAll es fs = true ↔ es = fs := by
  cases es <;> cases fs <;> simp [sameAll, same_iff, sameAll_iff]

end

instance : DecidableEq Expr := fun e f =>
  decidable_of_iff _ (same_iff e f)

end Expr

end PegEngine
