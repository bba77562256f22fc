import RuleOutline.Toml.Text
import RuleOutline.Number.Decimal

/-! Numbers: whole ones in four bases, and those of double precision. -/
namespace RuleOutline.Toml

/-- Digits, of which single underscores may stand between any two. The flag says that a digit
came just before. -/
def readDigits (isDigit : Char → Bool) (inside : Bool) : Reader (List Char)
  | [] => if inside then some ([], []) else none
  | c :: cs =>
    if isDigit c then after [c] (readDigits isDigit true cs)
    else if c = '_' && inside then readDigits isDigit false cs
    else if inside then some ([], c :: cs)
    else none

/-- The number written by digits in a base. -/
def digitsIn (base : Nat) (ds : List Char) : Nat :=
  ds.foldl (fun n d => base * n + (hexValue? d).getD 0) 0

/-- A whole number, if it fits into 64 bits with its sign. -/
def int64? (n : Int) : Option Value :=
  if -0x8000000000000000 ≤ n && n < 0x8000000000000000 then some (.int n) else none

/-- Digits of a base, from behind the mark of the base. -/
def readBased (base : Nat) (cs : List Char) : Option (Value × List Char) := do
  let isDigit (c : Char) : Bool := match hexValue? c with
    | some digit => digit < base
    | none => false
  let (ds, cs) ← readDigits isDigit false cs
  some (← int64? (digitsIn base ds), cs)

/-- The digits before the point. A zero stands alone. -/
def readWhole : Reader (List Char)
  | '0' :: cs => some (['0'], cs)
  | cs => readDigits Char.isDigit false cs

/-- The digits after the point, with the point, or nothing. -/
def readPlaces : Reader (List Char)
  | '.' :: cs => after ['.'] (readDigits Char.isDigit false cs)
  | cs => some ([], cs)

/-- The exponent with its letter, or nothing. -/
def readPower (cs : List Char) : Option (List Char × List Char) :=
  match cs with
  | 'e' :: '+' :: cs | 'E' :: '+' :: cs => after ['e'] (readDigits Char.isDigit false cs)
  | 'e' :: '-' :: cs | 'E' :: '-' :: cs => after ['e', '-'] (readDigits Char.isDigit false cs)
  | 'e' :: cs | 'E' :: cs => after ['e'] (readDigits Char.isDigit false cs)
  | cs => some ([], cs)

/-- A decimal number with the sign given. One too large for double precision is refused, but not
one too small. -/
def readDecimal (negative : Bool) (cs : List Char) : Option (Value × List Char) := do
  let (whole, cs) ← readWhole cs
  let (places, cs) ← readPlaces cs
  let (power, cs) ← readPower cs
  if places.isEmpty && power.isEmpty then
    let n : Int := digitsIn 10 whole
    some (← int64? (if negative then -n else n), cs)
  else
    let decimal ← Number.Decimal.read? (whole ++ places ++ power)
    let x := { decimal with negative }.toFloat
    if x.isInf && !negative then none else some (.float x, cs)

/-- Infinity or no number, with the sign given, or a decimal number. -/
def readSigned (negative : Bool) (cs : List Char) : Option (Value × List Char) :=
  let signed (x : Float) : Value := .float (if negative then -x else x)
  match cs with
  | 'i' :: 'n' :: 'f' :: cs => some (signed (1.0 / 0.0), cs)
  | 'n' :: 'a' :: 'n' :: cs => some (signed (0.0 / 0.0), cs)
  | cs => readDecimal negative cs

/-- A number. The mark of a base stands without a sign. -/
def readNumber : Reader Value
  | '+' :: cs => readSigned false cs
  | '-' :: cs => readSigned true cs
  | '0' :: 'x' :: cs => readBased 16 cs
  | '0' :: 'o' :: cs => readBased 8 cs
  | '0' :: 'b' :: cs => readBased 2 cs
  | cs => readSigned false cs

end RuleOutline.Toml
