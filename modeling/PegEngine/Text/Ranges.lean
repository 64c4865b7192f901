/-! Sets of code points, held as ascending ranges. -/
namespace PegEngine.Text

/-- Ranges of code points with both ends included, in ascending order. -/
abbrev Ranges := List (Nat × Nat)

namespace Ranges

/-- Membership in one of the ranges; the search ends at the first range that starts beyond. -/
def covers : Ranges → Nat → Bool
  | [], _ => false
  | (low, high) :: rest, code => low ≤ code && (code ≤ high || covers rest code)

end Ranges

end PegEngine.Text
