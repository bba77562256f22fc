/-! How far a text reaches: its length in bytes, which is what offsets count, and its number of
line feeds, which is what line numbers count. -/
namespace RuleOutline.Text

/-- The number of bytes the characters take in UTF-8. -/
def byteLength : List Char → Nat
  | [] => 0
  | c :: cs => c.utf8Size + byteLength cs

@[simp] theorem byteLength_nil : byteLength [] = 0 := rfl

@[simp] theorem byteLength_cons (c : Char) (cs : List Char) :
    byteLength (c :: cs) = c.utf8Size + byteLength cs := rfl

@[simp] theorem byteLength_append (a b : List Char) :
    byteLength (a ++ b) = byteLength a + byteLength b := by
  induction a with
  | nil => simp
  | cons c cs ih => simp [ih, Nat.add_assoc]

/-- The number of line feeds among the characters. -/
def lineFeeds : List Char → Nat
  | [] => 0
  | c :: cs => (if c = '\n' then 1 else 0) + lineFeeds cs

@[simp] theorem lineFeeds_nil : lineFeeds [] = 0 := rfl

@[simp] theorem lineFeeds_cons (c : Char) (cs : List Char) :
    lineFeeds (c :: cs) = (if c = '\n' then 1 else 0) + lineFeeds cs := rfl

@[simp] theorem lineFeeds_append (a b : List Char) :
    lineFeeds (a ++ b) = lineFeeds a + lineFeeds b := by
  induction a with
  | nil => simp
  | cons c cs ih => simp [ih, Nat.add_assoc]

/-- Cuts a text after the characters that lie wholly within its first bytes. -/
def splitBytes (bytes : Nat) : List Char → List Char × List Char
  | [] => ([], [])
  | c :: cs =>
    if c.utf8Size ≤ bytes then
      let (before, after) := splitBytes (bytes - c.utf8Size) cs
      (c :: before, after)
    else ([], c :: cs)

/-- Cutting a text loses nothing. -/
theorem splitBytes_append (bytes : Nat) (cs : List Char) :
    (splitBytes bytes cs).1 ++ (splitBytes bytes cs).2 = cs := by
  induction cs generalizing bytes with
  | nil => rfl
  | cons c cs ih =>
    unfold splitBytes
    split
    next => simp [ih]
    next => rfl

/-- Puts another text in the place of the bytes from `start` up to `stop`. -/
def replaceBytes (source : String) (start stop : Nat) (text : String) : String :=
  let (before, rest) := splitBytes start source.toList
  .ofList (before ++ text.toList ++ (splitBytes (stop - start) rest).2)

end RuleOutline.Text
