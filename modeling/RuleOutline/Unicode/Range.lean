/-! Sets of code points, written as ranges or as stretches of every second code point. -/
namespace RuleOutline.Unicode

/-- The character lies in one of the ranges, whose ends are both included. -/
def inRanges (ranges : List (Nat × Nat)) (c : Char) : Bool :=
  ranges.any fun range => range.1 ≤ c.toNat && c.toNat ≤ range.2

/-- The code points `first`, `first + step` and so on up to `last`. -/
structure Stretch where
  first : Nat
  last : Nat
  step : Nat

/-- The code point is a member of the stretch. -/
def Stretch.has (stretch : Stretch) (code : Nat) : Bool :=
  stretch.first ≤ code && code ≤ stretch.last && (code - stretch.first) % stretch.step == 0

end RuleOutline.Unicode
