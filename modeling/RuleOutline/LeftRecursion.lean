/-! Direct left recursion. A rule `a : a x | a y | b | c` has the alternatives `b` and `c` as its
bases and `x` and `y` as its tails: what it generates is one base followed by any number of
tails, which is the rule `(b | c) (x | y)*` without the recursion. -/
namespace RuleOutline

/-- The texts of the tokens of an alternative. -/
abbrev Alternative := List String

/-- The alternative begins with the name. -/
def Alternative.startsWith (alternative : Alternative) (name : String) : Bool :=
  alternative.head? == some name

/-- Some alternative begins with the name of its own rule. -/
def isLeftRecursive (name : String) (alternatives : List Alternative) : Bool :=
  alternatives.any (·.startsWith name)

/-- A rule taken apart into what it starts with and what it repeats. -/
structure Unrolled where
  bases : List Alternative
  tails : List Alternative

/-- Alternatives that begin with the name are tails without it; the others are bases. -/
def Unrolled.of (name : String) (alternatives : List Alternative) : Unrolled where
  bases := alternatives.filter fun alternative => !alternative.startsWith name
  tails := (alternatives.filter (·.startsWith name)).map List.tail

/-- The texts with a space between any two. -/
def Alternative.text (alternative : Alternative) : String :=
  " ".intercalate alternative

/-- Alternatives with a bar between any two. -/
def alternativesText (alternatives : List Alternative) : String :=
  " | ".intercalate (alternatives.map Alternative.text)

/-- The bases in parentheses, then the tails in parentheses under a star. -/
def Unrolled.text (unrolled : Unrolled) : String :=
  s!"({alternativesText unrolled.bases}) ({alternativesText unrolled.tails})*"

end RuleOutline
