import Mathlib.Data.List.DropRight
import RuleOutline.Proofs.Count
import RuleOutline.Proofs.Position

/-! The table of lines. Lines part a source: each ends with its only line feed, but the last one,
and none is left out. A line is the text from its start to the next one, and an offset lies on the
last line that starts at or before it. -/
namespace RuleOutline

open Text

section Place

/-- Each piece is placed behind those before it. -/
theorem placeLines_append (start : Nat) (front back : List (List Char)) :
    placeLines start (front ++ back) =
      placeLines start front ++ placeLines (start + byteLength front.flatten) back := by
  induction front generalizing start with
  | nil => rfl
  | cons piece front ih =>
      rw [List.cons_append, placeLines, ih, placeLines, List.flatten_cons, byteLength_append,
        ← Nat.add_assoc, List.cons_append]

@[simp] theorem map_chars_placeLines (start : Nat) (pieces : List (List Char)) :
    (placeLines start pieces).map (·.chars) = pieces := by
  induction pieces generalizing start with
  | nil => rfl
  | cons piece pieces ih => rw [placeLines, List.map_cons, ih]

@[simp] theorem length_placeLines (start : Nat) (pieces : List (List Char)) :
    (placeLines start pieces).length = pieces.length := by
  rw [← List.length_map (·.chars), map_chars_placeLines]

theorem map_chars_linesOf (source : String) :
    (linesOf source).map (·.chars) = splitLines source.toList :=
  map_chars_placeLines 0 _

theorem length_linesOf (source : String) :
    (linesOf source).length = (splitLines source.toList).length :=
  length_placeLines 0 _

variable {source : String} {front back : List (List Char)} {piece next : List Char}

theorem lineAt?_succ (lines : List Line) (n : Nat) : lineAt? lines (n + 1) = lines[n]? := rfl

/-- A line begins where those before it end. -/
theorem lineAt?_of_split (h : splitLines source.toList = front ++ piece :: back) :
    lineAt? (linesOf source) (front.length + 1) = some ⟨byteLength front.flatten, piece⟩ := by
  rw [lineAt?_succ, linesOf, h, placeLines_append, List.getElem?_append_right (by simp)]
  simp [placeLines]

theorem exists_split_of_lineAt? {n : Nat} {line : Line}
    (h : lineAt? (linesOf source) n = some line) : ∃ front back,
      splitLines source.toList = front ++ line.chars :: back ∧ n = front.length + 1 ∧
        line.start = byteLength front.flatten := by
  cases n with
  | zero => cases h
  | succ n =>
      have hLength : n < (linesOf source).length := (List.getElem?_eq_some_iff.mp h).1
      rw [length_linesOf] at hLength
      have hTake := List.length_take_of_le (Nat.le_of_lt hLength)
      have hSplit : splitLines source.toList = (splitLines source.toList).take n ++
          (splitLines source.toList)[n] :: (splitLines source.toList).drop (n + 1) := by
        rw [← List.drop_eq_getElem_cons hLength, List.take_append_drop]
      have hHere := lineAt?_of_split hSplit
      rw [hTake, h, Option.some.injEq] at hHere
      rw [hHere]
      exact ⟨_, _, hSplit, by rw [hTake], rfl⟩

theorem lineAt?_eq_none_iff {n : Nat} :
    lineAt? (linesOf source) n = none ↔ n = 0 ∨ (linesOf source).length < n := by
  cases n with
  | zero => simp [lineAt?]
  | succ n =>
      rw [lineAt?_succ, List.getElem?_eq_none_iff]
      omega

end Place

section Slice

variable {source : String} {n : Nat} {line : Line}

/-- Where a line stops: at the start of the next one, and the last one at the end. -/
def stopOf (source : String) (n : Nat) : Nat :=
  ((lineAt? (linesOf source) (n + 1)).map (·.start)).getD source.utf8ByteSize

theorem source_eq_flatten {front back : List (List Char)} {piece : List Char}
    (h : splitLines source.toList = front ++ piece :: back) :
    source.toList = front.flatten ++ (piece ++ back.flatten) := by
  rw [← flatten_splitLines source.toList, h, List.flatten_append, List.flatten_cons]

theorem stopOf_of_split {front back : List (List Char)} {piece : List Char}
    (h : splitLines source.toList = front ++ piece :: back) :
    stopOf source (front.length + 1) = byteLength front.flatten + byteLength piece := by
  cases back with
  | nil =>
      have hNone : lineAt? (linesOf source) (front.length + 1 + 1) = none := by
        rw [lineAt?_eq_none_iff, length_linesOf, h]
        simp
      rw [stopOf, hNone, Option.map_none, Option.getD_none, utf8ByteSize_eq, source_eq_flatten h]
      simp
  | cons next back =>
      rw [List.append_cons] at h
      have hNext := lineAt?_of_split h
      rw [List.length_append, List.length_singleton] at hNext
      rw [stopOf, hNext]
      simp

/-- A line is the text from its start to where it stops. -/
theorem slice?_line (h : lineAt? (linesOf source) n = some line) :
    slice? source line.start (stopOf source n) = some line.chars := by
  obtain ⟨front, back, hSplit, rfl, hStart⟩ := exists_split_of_lineAt? h
  rw [hStart, stopOf_of_split hSplit]
  exact slice?_append (source_eq_flatten hSplit)

/-- A line ends with its only line feed if another one comes after it, and else has none. -/
theorem feed_of_lineAt? (h : lineAt? (linesOf source) n = some line) :
    (n < (linesOf source).length → ∃ body, line.chars = body ++ ['\n'] ∧ '\n' ∉ body) ∧
      (n = (linesOf source).length → '\n' ∉ line.chars) := by
  obtain ⟨bodies, rest, hSplit, hBodies, hRest⟩ := exists_bodies source.toList
  have hLength : (linesOf source).length = bodies.length + 1 := by
    rw [length_linesOf, hSplit]
    simp
  cases n with
  | zero => cases h
  | succ n =>
      have hChars : (bodies.map (· ++ ['\n']) ++ [rest])[n]? = some line.chars := by
        rw [← hSplit, ← map_chars_linesOf, List.getElem?_map, ← lineAt?_succ, h, Option.map_some]
      rw [hLength]
      constructor
      · intro hBefore
        rw [List.getElem?_append_left (by simpa using hBefore), List.getElem?_map,
          Option.map_eq_some_iff] at hChars
        obtain ⟨body, hBody, hLine⟩ := hChars
        exact ⟨body, hLine.symm, hBodies body (List.mem_of_getElem? hBody)⟩
      · intro hLast
        obtain rfl : n = bodies.length := by omega
        simp at hChars
        rwa [← hChars]

/-- The text is what is left without the line ends at the end. -/
def Chomps (text chars : List Char) : Prop :=
  ∃ ends, chars = text ++ ends ∧ (∀ c ∈ ends, c = '\n' ∨ c = '\r') ∧
    ∀ c ∈ text.getLast?, c ≠ '\n' ∧ c ≠ '\r'

theorem chomps_text (line : Line) : Chomps line.text.toList line.chars := by
  rw [Line.text, String.toList_ofList]
  refine ⟨line.chars.rtakeWhile _, (List.rdropWhile_append_rtakeWhile ..).symm, ?_, ?_⟩
  · intro c hc
    simpa using List.mem_rtakeWhile_imp hc
  · intro c hc
    obtain ⟨hSome, hLast⟩ := List.mem_getLast?_eq_getLast hc
    have hKept := List.rdropWhile_last_not (fun c => c == '\n' || c == '\r') line.chars hSome
    simp only [Bool.or_eq_true, beq_iff_eq, not_or] at hKept
    rw [hLast]
    exact hKept

end Slice

section Search

variable {source : String} {n offset : Nat} {line : Line}

theorem pairwise_linesOf (source : String) :
    (linesOf source).Pairwise fun a b => a.start < b.start := by
  rw [← List.pairwise_map, map_start_linesOf]
  exact pairwise_lineStarts source

/-- The lines that start at or before an offset are the first ones. -/
theorem lt_lineOf_iff (hLine : (linesOf source)[n]? = some line) :
    n < lineOf (linesOf source) offset ↔ line.start ≤ offset := by
  have hFront : (linesOf source).Pairwise fun a b =>
      decide (b.start ≤ offset) = true → decide (a.start ≤ offset) = true := by
    apply (pairwise_linesOf source).imp
    intro a b hOrder hStart
    simp only [decide_eq_true_eq] at hStart ⊢
    omega
  rw [lineOf, lt_countP_iff hFront hLine, decide_eq_true_eq]

/-- The offset lies on the line with the number: not before its start, and before the start of the
next one unless there is none. -/
structure OnLine (source : String) (offset n : Nat) : Prop where
  behind : ∃ line, lineAt? (linesOf source) n = some line ∧ line.start ≤ offset
  ahead : n = (linesOf source).length ∨
    ∃ next, lineAt? (linesOf source) (n + 1) = some next ∧ offset < next.start

theorem lineAt?_one (source : String) : ∃ chars, lineAt? (linesOf source) 1 = some ⟨0, chars⟩ := by
  obtain ⟨first, others, hSplit, -⟩ := splitLines_eq_cons source.toList
  rw [← List.nil_append (first :: others)] at hSplit
  exact ⟨first, lineAt?_of_split hSplit⟩

theorem lineOf_le (source : String) (offset : Nat) :
    lineOf (linesOf source) offset ≤ (linesOf source).length :=
  List.countP_le_length

/-- An offset lies on one line and on no other. -/
theorem lineOf_eq_iff : lineOf (linesOf source) offset = n ↔ OnLine source offset n := by
  have hMost := lineOf_le source offset
  constructor
  · rintro rfl
    obtain ⟨chars, hFirst⟩ := lineAt?_one source
    have hPos := (lt_lineOf_iff hFirst).mpr (Nat.zero_le offset)
    obtain ⟨m, hNumber⟩ := Nat.exists_eq_succ_of_ne_zero (Nat.ne_of_gt hPos)
    have hIndex : m < (linesOf source).length := by omega
    have hLine := List.getElem?_eq_getElem hIndex
    constructor
    · rw [hNumber]
      exact ⟨_, hLine, (lt_lineOf_iff hLine).mp (by omega)⟩
    · rcases Nat.eq_or_lt_of_le hMost with hLast | hMore
      · exact .inl hLast
      · have hNext := List.getElem?_eq_getElem hMore
        exact .inr ⟨_, hNext, Nat.lt_of_not_le fun hStart =>
          Nat.lt_irrefl _ ((lt_lineOf_iff hNext).mpr hStart)⟩
  · rintro ⟨⟨line, hLine, hStart⟩, hAhead⟩
    cases n with
    | zero => cases hLine
    | succ m =>
        have hLower := (lt_lineOf_iff hLine).mpr hStart
        rcases hAhead with hLast | ⟨next, hNext, hBefore⟩
        · omega
        · have hUpper := mt (lt_lineOf_iff hNext).mp (Nat.not_le_of_lt hBefore)
          omega

end Search

section Table

/-- The number after a number, if it is below two to the power of 64. -/
def nextNumber? (n : Nat) : Option Nat :=
  if n + 1 < UInt64.size then some (n + 1) else none

/-- The text of the line with a number by the table: there is none if the line has no start. The
outcome is nothing if the number of the next line is too large, or the line cannot be cut out. -/
def textOf? (source : String) (n : Nat) : Option (Option String) :=
  match lineStart? source n with
  | none => some none
  | some start => do
    let next ← nextNumber? n
    let stop := (lineStart? source next).getD source.utf8ByteSize
    let chars ← slice? source start stop
    return some (Line.text ⟨start, chars⟩)

variable {source : String} {n : Nat} {line : Line}

/-- Where there is no line, the next number is not asked for. -/
theorem textOf?_of_lineAt?_eq_none (h : lineAt? (linesOf source) n = none) :
    textOf? source n = some none := by
  rw [textOf?, lineStart?_eq, h]
  rfl

theorem textOf?_of_lineAt?_eq_some (h : lineAt? (linesOf source) n = some line)
    (hNumber : n + 1 < UInt64.size) : textOf? source n = some (some line.text) := by
  have hSlice := slice?_line h
  rw [stopOf, ← lineStart?_eq] at hSlice
  rw [textOf?, lineStart?_eq, h]
  simp only [Option.map_some, nextNumber?, if_pos hNumber, Option.bind_eq_bind, Option.bind_some,
    hSlice, Option.pure_def]

theorem length_splitLines_le (cs : List Char) : (splitLines cs).length ≤ byteLength cs + 1 := by
  induction cs with
  | nil => exact Nat.le_refl _
  | cons c cs ih =>
      have hSize := c.utf8Size_pos
      rw [byteLength_cons]
      by_cases hFeed : c = '\n'
      · rw [hFeed, splitLines_cons_lineFeed, List.length_cons, ← hFeed]
        omega
      · obtain ⟨first, others, hSplit, -⟩ := splitLines_eq_cons cs
        rw [hSplit, List.length_cons] at ih
        rw [splitLines_cons hFeed hSplit, List.length_cons]
        omega

end Table

/-- The lines of a source part it. No line is behind the last number, the table has their starts and
their texts, and every offset lies on the line that is searched for it. -/
structure LinesPart (source : String) : Prop where
  first : ∃ line, lineAt? (linesOf source) 1 = some line ∧ line.start = 0
  increasing : (linesOf source).Pairwise fun a b => a.start < b.start
  boundary : ∀ line ∈ linesOf source, IsBoundary source line.start
  numbered : ∀ n, lineAt? (linesOf source) n = none ↔ n = 0 ∨ (linesOf source).length < n
  slice : ∀ n line, lineAt? (linesOf source) n = some line →
    slice? source line.start (stopOf source n) = some line.chars
  whole : ((linesOf source).map (·.chars)).flatten = source.toList
  ended : ∀ n line, lineAt? (linesOf source) n = some line → n < (linesOf source).length →
    ∃ body, line.chars = body ++ ['\n'] ∧ '\n' ∉ body
  last : ∀ line, lineAt? (linesOf source) (linesOf source).length = some line →
    '\n' ∉ line.chars
  text : ∀ line ∈ linesOf source, Chomps line.text.toList line.chars
  starts : ∀ n, lineStart? source n = (lineAt? (linesOf source) n).map (·.start)
  absent : ∀ n, lineAt? (linesOf source) n = none → textOf? source n = some none
  -- No text in memory comes near this size, so every line in it has a next number.
  texts : source.utf8ByteSize + 2 < UInt64.size → ∀ n,
    textOf? source n = some ((lineAt? (linesOf source) n).map (·.text))
  onLine : ∀ offset n, lineOf (linesOf source) offset = n ↔ OnLine source offset n
  numbers : ∀ offset, 1 ≤ lineOf (linesOf source) offset ∧
    lineOf (linesOf source) offset ≤ (linesOf source).length
  searched : ∀ offset, searchedLine source offset = lineOf (linesOf source) offset

theorem linesPart (source : String) : LinesPart source where
  first := by
    obtain ⟨chars, hFirst⟩ := lineAt?_one source
    exact ⟨_, hFirst, rfl⟩
  increasing := pairwise_linesOf source
  boundary line hLine := by
    apply isBoundary_of_mem_lineStarts
    rw [← map_start_linesOf]
    exact List.mem_map_of_mem hLine
  numbered n := lineAt?_eq_none_iff
  slice n line := slice?_line
  whole := by rw [map_chars_linesOf, flatten_splitLines]
  ended n line hLine := (feed_of_lineAt? hLine).1
  last line hLine := (feed_of_lineAt? hLine).2 rfl
  text line _ := chomps_text line
  starts n := lineStart?_eq source n
  absent n := textOf?_of_lineAt?_eq_none
  texts hSize n := by
    cases hLine : lineAt? (linesOf source) n with
    | none => exact textOf?_of_lineAt?_eq_none hLine
    | some line =>
        apply textOf?_of_lineAt?_eq_some hLine
        have hSome : ¬(n = 0 ∨ (linesOf source).length < n) := by
          rw [← lineAt?_eq_none_iff, hLine]
          simp
        have hLength := length_splitLines_le source.toList
        rw [← length_linesOf, ← utf8ByteSize_eq] at hLength
        omega
  onLine offset n := lineOf_eq_iff
  numbers offset := by
    obtain ⟨chars, hFirst⟩ := lineAt?_one source
    exact ⟨(lt_lineOf_iff hFirst).mpr (Nat.zero_le offset), lineOf_le source offset⟩
  searched := searchedLine_eq source

end RuleOutline
