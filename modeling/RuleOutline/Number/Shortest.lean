/-! The shortest decimal text of a binary number: the fewest digits that read back as the number,
and of those the nearest to it, written without an exponent. -/
namespace RuleOutline.Number

/-- A positive number as the fraction `value / scale`, and the fractions over the same scale
between which decimals read back as it. The ends belong to them if `closed` is set. -/
structure Interval where
  low : Nat
  value : Nat
  high : Nat
  scale : Nat
  closed : Bool

/-- The interval around the number with the given significand and binary exponent. The number
below a power of two is nearer than the one above. -/
def Interval.around (significand : Nat) (exponent : Int) (powerOfTwo : Bool) : Interval :=
  let up := Nat.pow 2 exponent.toNat
  { low := (4 * significand - if powerOfTwo then 1 else 2) * up
    value := 4 * significand * up
    high := (4 * significand + 2) * up
    scale := 4 * Nat.pow 2 (-exponent).toNat
    closed := significand % 2 = 0 }

/-- The decimal `digits` times ten to the `exponent`, over the scale of the interval, lies in
it. -/
def Interval.contains (interval : Interval) (digits : Nat) (exponent : Int) : Bool :=
  let point := digits * Nat.pow 10 exponent.toNat * interval.scale
  let unit := Nat.pow 10 (-exponent).toNat
  let low := interval.low * unit
  let high := interval.high * unit
  (low < point && point < high) || (interval.closed && (low == point || point == high))

/-- The exponent of the first decimal digit of the number. -/
def Interval.leading (interval : Interval) : Int :=
  let guess : Int :=
    (Nat.toDigits 10 interval.value).length - (Nat.toDigits 10 interval.scale).length
  let reaches :=
    Nat.pow 10 guess.toNat * interval.scale ≤ interval.value * Nat.pow 10 (-guess).toNat
  if reaches then guess else guess - 1

/-- The decimal of fewest digits in the interval, looked for with `count` digits and then with
more. Of two such it is the nearer one, and the upper one if both are equally near. -/
def Interval.shortest (interval : Interval) (leading : Int) (count : Nat) : Nat → Nat × Int
  | 0 => (0, 0)
  | fuel + 1 =>
    let exponent := leading - count + 1
    let unit := Nat.pow 10 exponent.toNat * interval.scale
    let value := interval.value * Nat.pow 10 (-exponent).toNat
    let below := value / unit
    match interval.contains below exponent, interval.contains (below + 1) exponent with
    | true, true =>
      if value - below * unit < (below + 1) * unit - value then (below, exponent)
      else (below + 1, exponent)
    | true, false => (below, exponent)
    | false, true => (below + 1, exponent)
    | false, false => interval.shortest leading (count + 1) fuel

/-- Digits with an exponent, written out in full. -/
def positional (digits : Nat) (exponent : Int) : String :=
  let ds := Nat.toDigits 10 digits
  if 0 ≤ exponent then .ofList (ds ++ List.replicate exponent.toNat '0')
  else
    let places := (-exponent).toNat
    let ds := List.replicate (places + 1 - ds.length) '0' ++ ds
    .ofList (ds.take (ds.length - places) ++ '.' :: ds.drop (ds.length - places))

/-- The shortest decimal text that reads back as the number. Seventeen digits always do. -/
def floatText (x : Float) : String :=
  let bits : Nat := x.toBits.toNat
  let sign := if bits / Nat.pow 2 63 = 1 then "-" else ""
  let biased : Nat := bits / Nat.pow 2 52 % Nat.pow 2 11
  let fraction : Nat := bits % Nat.pow 2 52
  if biased = 2047 then
    if fraction = 0 then sign ++ "inf" else "NaN"
  else if biased = 0 && fraction = 0 then sign ++ "0"
  else
    let interval : Interval :=
      if biased = 0 then .around fraction (-1074) false
      else .around (Nat.pow 2 52 + fraction) ((biased : Int) - 1075) (fraction = 0 && 1 < biased)
    let (digits, exponent) := interval.shortest interval.leading 1 17
    -- Ten of a unit is one of the next.
    sign ++ if digits = 10 then positional 1 (exponent + 1) else positional digits exponent

end RuleOutline.Number
