/-! Decimal numbers with a fraction and an exponent, and the binary numbers they stand for. -/
namespace RuleOutline.Number

/-- The number `digits` times ten to the `exponent`, with a sign that zero has too. -/
structure Decimal where
  negative : Bool
  digits : Nat
  exponent : Int
  deriving DecidableEq

/-- Decimal digits as a number, on top of those read before. -/
def digitsValue (before : Nat) : List Char → Nat
  | [] => before
  | c :: cs => digitsValue (10 * before + (c.toNat - '0'.toNat)) cs

/-- Reads the exponent at the end of a number: a letter `e`, a sign if wanted, and digits. No
characters at all stand for the exponent zero. -/
def readExponent? : List Char → Option Int
  | [] => some 0
  | e :: cs =>
    if e == 'e' || e == 'E' then
      let (sign, ds) : Int × List Char := match cs with
        | '-' :: ds => (-1, ds)
        | '+' :: ds => (1, ds)
        | ds => (1, ds)
      if ds.isEmpty || !ds.all Char.isDigit then none else some (sign * digitsValue 0 ds)
    else none

/-- Reads a number: digits, of which some may follow a point, then the exponent. Digits may be
missing on one side of the point. -/
def Decimal.read? (cs : List Char) : Option Decimal :=
  let (negative, cs) := match cs with
    | '-' :: cs => (true, cs)
    | '+' :: cs => (false, cs)
    | cs => (false, cs)
  let whole := cs.takeWhile Char.isDigit
  let (fraction, rest) := match cs.dropWhile Char.isDigit with
    | '.' :: cs => (cs.takeWhile Char.isDigit, cs.dropWhile Char.isDigit)
    | cs => ([], cs)
  if whole.isEmpty && fraction.isEmpty then none
  else (readExponent? rest).map fun exponent =>
    ⟨negative, digitsValue 0 (whole ++ fraction), exponent - fraction.length⟩

/-- The nearest binary number of double precision. Decimals far outside its range are decided by
their size alone. -/
def Decimal.toFloat (decimal : Decimal) : Float :=
  let size : Int := decimal.exponent + (Nat.toDigits 10 decimal.digits).length
  let magnitude : Float :=
    if decimal.digits = 0 || size < -400 then 0.0
    else if 400 < size then 1.0 / 0.0
    else if 0 ≤ decimal.exponent then
      .ofScientific (decimal.digits * Nat.pow 10 decimal.exponent.toNat) false 0
    else .ofScientific decimal.digits true (-decimal.exponent).toNat
  if decimal.negative then -magnitude else magnitude

end RuleOutline.Number
