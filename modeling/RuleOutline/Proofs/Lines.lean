import RuleOutline.Lines
import RuleOutline.Proofs.Text.Bytes

/-! Line numbers. The line of an offset is found by counting the lines that start at or before
it; here it is the number of line feeds before the offset, and one more. -/
namespace RuleOutline

open Text

/-- There is always a first line, and another one only after a line feed. -/
theorem splitLines_eq_cons (cs : List Char) :
    ∃ first others, splitLines cs = first :: others ∧ (others ≠ [] → first ≠ []) := by
  cases cs with
  | nil => exact ⟨[], [], rfl, by simp⟩
  | cons c cs =>
      unfold splitLines
      split
      · exact ⟨[c], splitLines cs, rfl, by simp⟩
      · split
        · exact ⟨[c], [], rfl, by simp⟩
        · exact ⟨_, _, rfl, by simp⟩

theorem splitLines_cons_lineFeed (cs : List Char) :
    splitLines ('\n' :: cs) = ['\n'] :: splitLines cs := by
  rw [splitLines]
  simp

theorem splitLines_cons {c : Char} (hFeed : c ≠ '\n') {cs first : List Char}
    {others : List (List Char)} (h : splitLines cs = first :: others) :
    splitLines (c :: cs) = (c :: first) :: others := by
  rw [splitLines, h]
  simp [hFeed]

/-- Lines put together are the text. -/
theorem flatten_splitLines (cs : List Char) : (splitLines cs).flatten = cs := by
  induction cs with
  | nil => rfl
  | cons c cs ih =>
      by_cases hFeed : c = '\n'
      · rw [hFeed, splitLines_cons_lineFeed, List.flatten_cons, ih]
        rfl
      · obtain ⟨first, others, hSplit, -⟩ := splitLines_eq_cons cs
        rw [hSplit, List.flatten_cons] at ih
        rw [splitLines_cons hFeed hSplit, List.flatten_cons, List.cons_append, ih]

/-- A text is lines that end with their only line feed, and a last one that has none. -/
theorem exists_bodies (cs : List Char) : ∃ (bodies : List (List Char)) (rest : List Char),
    splitLines cs = bodies.map (· ++ ['\n']) ++ [rest] ∧ (∀ body ∈ bodies, '\n' ∉ body) ∧
      '\n' ∉ rest := by
  induction cs with
  | nil => exact ⟨[], [], rfl, by simp, by simp⟩
  | cons c cs ih =>
      obtain ⟨bodies, rest, hSplit, hBodies, hRest⟩ := ih
      by_cases hFeed : c = '\n'
      · subst hFeed
        exact ⟨[] :: bodies, rest, by simp [splitLines_cons_lineFeed, hSplit],
          by simpa using hBodies, hRest⟩
      · cases bodies with
        | nil =>
            exact ⟨[], c :: rest, splitLines_cons hFeed hSplit, hBodies,
              by simp [Ne.symm hFeed, hRest]⟩
        | cons body bodies =>
            exact ⟨(c :: body) :: bodies, rest, splitLines_cons hFeed hSplit,
              by simpa [Ne.symm hFeed] using hBodies, hRest⟩

/-- Lines that have a line feed put behind each are found again, with an empty one behind them. -/
theorem splitLines_flatMap {lines : List (List Char)} (h : ∀ line ∈ lines, '\n' ∉ line) :
    splitLines (lines.flatMap (· ++ ['\n'])) = lines.map (· ++ ['\n']) ++ [[]] := by
  have hLine : ∀ line : List Char, '\n' ∉ line → ∀ cs,
      splitLines (line ++ '\n' :: cs) = (line ++ ['\n']) :: splitLines cs := by
    intro line hFeed cs
    induction line with
    | nil => exact splitLines_cons_lineFeed cs
    | cons c line ih =>
        rw [List.mem_cons, not_or] at hFeed
        exact splitLines_cons (Ne.symm hFeed.1) (ih hFeed.2)
  induction lines with
  | nil => rfl
  | cons line lines ih =>
      rw [List.forall_mem_cons] at h
      simp [hLine line h.1, ih h.2]

theorem start_le_of_mem_placeLines {start : Nat} {pieces : List (List Char)} {line : Line}
    (h : line ∈ placeLines start pieces) : start ≤ line.start := by
  induction pieces generalizing start with
  | nil => simp [placeLines] at h
  | cons piece pieces ih =>
      rcases List.mem_cons.mp h with rfl | h
      · exact Nat.le_refl _
      · exact Nat.le_trans (Nat.le_add_right _ _) (ih h)

/-- Only the first line starts where the text does. -/
theorem countP_start_splitLines (start : Nat) (cs : List Char) :
    (placeLines start (splitLines cs)).countP (·.start ≤ start) = 1 := by
  obtain ⟨first, others, hSplit, hFirst⟩ := splitLines_eq_cons cs
  rw [hSplit, placeLines, List.countP_cons_of_pos (by simp)]
  have hOthers : (placeLines (start + byteLength first) others).countP (·.start ≤ start) = 0 := by
    rw [List.countP_eq_zero]
    intro line hLine
    have hNonempty : others ≠ [] := by
      rintro rfl
      simp [placeLines] at hLine
    have hStart := start_le_of_mem_placeLines hLine
    have hLength := byteLength_pos (hFirst hNonempty)
    simp only [decide_eq_true_eq]
    omega
  rw [hOthers]

/-- As many lines start at or before a boundary as there are line feeds before it, and one more. -/
theorem countP_splitLines (start : Nat) (before after : List Char) :
    (placeLines start (splitLines (before ++ after))).countP
      (·.start ≤ start + byteLength before) = 1 + lineFeeds before := by
  induction before generalizing start with
  | nil => exact countP_start_splitLines start after
  | cons c before ih =>
      have hTail := ih (start + c.utf8Size)
      rw [List.cons_append, byteLength_cons, lineFeeds_cons, ← Nat.add_assoc start]
      by_cases hFeed : c = '\n'
      · subst hFeed
        have hPiece : byteLength ['\n'] = '\n'.utf8Size := rfl
        rw [splitLines_cons_lineFeed, placeLines, List.countP_cons_of_pos (by simp; omega), hPiece,
          hTail]
        simp
        omega
      · obtain ⟨first, others, hSplit, -⟩ := splitLines_eq_cons (before ++ after)
        rw [hSplit, placeLines, List.countP_cons_of_pos (by simp)] at hTail
        rw [splitLines_cons hFeed hSplit, placeLines, List.countP_cons_of_pos (by simp; omega),
          byteLength_cons, ← Nat.add_assoc start, hTail]
        simp [hFeed]

/-- The line of a boundary is one more than the number of line feeds before it. -/
theorem lineOf_linesOf {source : String} {before after : List Char}
    (h : source.toList = before ++ after) :
    lineOf (linesOf source) (byteLength before) = 1 + lineFeeds before := by
  have hCount := countP_splitLines 0 before after
  rw [Nat.zero_add] at hCount
  rw [lineOf, linesOf, h, hCount]

@[simp] theorem line_positionOf (lines : List Line) (offset : Nat) :
    (positionOf lines offset).line = lineOf lines offset := by
  unfold positionOf
  dsimp only
  split <;> rfl

end RuleOutline
