import RuleOutline.Toml.Value

/-! Dates and times. They are checked, and read as texts in one agreed form. They stand in a file
as they are, or as the text of a table that is marked by its first name. -/
namespace RuleOutline.Toml

/-- Which hours there are. -/
structure Clock where
  /-- The last hour of a day. -/
  lastHour : Nat
  /-- So many hours and minutes are a distance from universal time. -/
  isDistance (hour minute : Nat) : Bool

/-- The clock for what stands in a file as it is. -/
def Clock.strict : Clock :=
  ⟨23, fun hour minute => hour ≤ 23 && minute ≤ 59⟩

/-- The clock for what is written as a text. The hour that ends a day may be counted as one more,
and a distance may have more minutes than an hour, but is not longer than a day. -/
def Clock.lenient : Clock :=
  ⟨24, fun hour minute => 60 * hour + minute ≤ 24 * 60⟩

/-- A number of exactly the given number of digits. -/
def readFixed (count : Nat) (cs : List Char) : Option (Nat × List Char) :=
  let ds := cs.take count
  if ds.length = count && ds.all Char.isDigit then
    some (ds.foldl (fun n d => 10 * n + (d.toNat - '0'.toNat)) 0, cs.drop count)
  else none

/-- The text after a character at its front. -/
def skipChar? (c : Char) : List Char → Option (List Char)
  | d :: cs => if c = d then some cs else none
  | [] => none

/-- A number with zeros in front up to a width. -/
def padded (width n : Nat) : String :=
  let ds := Nat.toDigits 10 n
  .ofList (List.replicate (width - ds.length) '0' ++ ds)

/-- The number of days of a month. Every fourth year has a day more in its second month, but of
the years that end a century only every fourth. -/
def daysIn (year month : Nat) : Nat :=
  let leap := year % 4 = 0 && (year % 100 != 0 || year % 400 = 0)
  if month = 2 then if leap then 29 else 28
  else if month = 4 || month = 6 || month = 9 || month = 11 then 30
  else 31

/-- A day of the calendar. -/
def readDate (cs : List Char) : Option (String × List Char) := do
  let (year, cs) ← readFixed 4 cs
  let (month, cs) ← readFixed 2 (← skipChar? '-' cs)
  let (day, cs) ← readFixed 2 (← skipChar? '-' cs)
  if 1 ≤ month && month ≤ 12 && 1 ≤ day && day ≤ daysIn year month then
    some (s!"{padded 4 year}-{padded 2 month}-{padded 2 day}", cs)
  else none

/-- A fraction of a second. Nine digits count, and zeros at the end are not kept. -/
def readFraction (cs : List Char) : Option (String × List Char) :=
  match cs with
  | '.' :: cs =>
    let ds := cs.takeWhile Char.isDigit
    if ds.isEmpty then none
    else
      let kept := ((ds.take 9).reverse.dropWhile (· == '0')).reverse
      some (if kept.isEmpty then "" else .ofList ('.' :: kept), cs.drop ds.length)
  | cs => some ("", cs)

/-- A time of the day. A second may be a leap second. -/
def readTime (clock : Clock) (cs : List Char) : Option (String × List Char) := do
  let (hour, cs) ← readFixed 2 cs
  let (minute, cs) ← readFixed 2 (← skipChar? ':' cs)
  let (second, cs) ← readFixed 2 (← skipChar? ':' cs)
  if hour ≤ clock.lastHour && minute ≤ 59 && second ≤ 60 then
    let (fraction, cs) ← readFraction cs
    some (s!"{padded 2 hour}:{padded 2 minute}:{padded 2 second}{fraction}", cs)
  else none

/-- The distance from universal time, which may be missing. -/
def readOffset (clock : Clock) (cs : List Char) : Option (String × List Char) :=
  let distance (sign : String) (cs : List Char) : Option (String × List Char) := do
    let (hour, cs) ← readFixed 2 cs
    let (minute, cs) ← readFixed 2 (← skipChar? ':' cs)
    if clock.isDistance hour minute then
      let minutes := 60 * hour + minute
      let sign := if minutes = 0 then "+" else sign
      some (s!"{sign}{padded 2 (minutes / 60)}:{padded 2 (minutes % 60)}", cs)
    else none
  match cs with
  | 'Z' :: cs | 'z' :: cs => some ("Z", cs)
  | '+' :: cs => distance "+" cs
  | '-' :: cs => distance "-" cs
  | cs => some ("", cs)

/-- A text that begins like a date has four digits and a hyphen. -/
def looksLikeDate (cs : List Char) : Bool :=
  (cs.take 4).length = 4 && (cs.take 4).all Char.isDigit && cs[4]? == some '-'

/-- A text that begins like a time has two digits and a colon. -/
def looksLikeTime (cs : List Char) : Bool :=
  (cs.take 2).length = 2 && (cs.take 2).all Char.isDigit && cs[2]? == some ':'

/-- A date, a time, or both, and then perhaps with a distance from universal time. -/
def readMoment (clock : Clock) (cs : List Char) : Option (String × List Char) :=
  if looksLikeTime cs then readTime clock cs
  else do
    let (date, cs) ← readDate cs
    match cs with
    | c :: rest =>
      if (c == 'T' || c == 't' || c == ' ') && looksLikeTime rest then
        let (time, rest) ← readTime clock rest
        let (offset, rest) ← readOffset clock rest
        some (s!"{date}T{time}{offset}", rest)
      else some (date, cs)
    | [] => some (date, cs)

/-- The date or time that a text consists of. -/
def momentOf? (text : String) : Option String :=
  match readMoment .lenient text.toList with
  | some (moment, []) => some moment
  | _ => none

/-- The name that marks a table as a date or time, if it is the first of the table. -/
def momentName : String :=
  "$__toml_private_datetime"

mutual

/-- The value with dates and times in place of the tables marked as such. The entry that marks a
table has to be a text; what follows it does not count. -/
def Value.unmarked? : Value → Option Value
  | .list items => (unmarkedItems? items).map .list
  | .table ((name, value) :: entries) =>
    if name = momentName then
      match value with
      | .text text => (momentOf? text).map .moment
      | _ => none
    else do
      let value ← value.unmarked?
      let entries ← unmarkedEntries? entries
      some (.table ((name, value) :: entries))
  | value => some value

/-- Several values with dates and times in place of marked tables. -/
def unmarkedItems? : List Value → Option (List Value)
  | [] => some []
  | item :: items => do
    let item ← item.unmarked?
    let items ← unmarkedItems? items
    some (item :: items)

/-- Named values with dates and times in place of marked tables. -/
def unmarkedEntries? : List (String × Value) → Option (List (String × Value))
  | [] => some []
  | (name, value) :: entries => do
    let value ← value.unmarked?
    let entries ← unmarkedEntries? entries
    some ((name, value) :: entries)

end

end RuleOutline.Toml
