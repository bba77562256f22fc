import RuleOutline.Proofs.Lines
import RuleOutline.Proofs.Text.Boundary

/-! Positions of offsets. A table of line starts gives the place of any offset by a search, a step
back to a boundary and a count of characters. Nothing of that can fail, the places are those that
the lines of the text tell, and an offset can be told from its place. -/
namespace RuleOutline

open Text

section Floor

variable {source : String} {offset : Nat} {before after : List Char}

/-- The offset falls behind the first part of a text: not before its end, and not behind the next
character. -/
structure FallsBehind (source : String) (offset : Nat) (before after : List Char) : Prop where
  split : source.toList = before ++ after
  le : byteLength before ≤ offset
  next : ∀ c ∈ after.head?, offset < byteLength before + c.utf8Size

theorem splitBytes_fits (bytes : Nat) (cs : List Char) :
    byteLength (splitBytes bytes cs).1 ≤ bytes ∧
      ∀ c ∈ (splitBytes bytes cs).2.head?,
        bytes < byteLength (splitBytes bytes cs).1 + c.utf8Size := by
  induction cs generalizing bytes with
  | nil => simp [splitBytes]
  | cons c cs ih =>
      unfold splitBytes
      split
      next hFits =>
        obtain ⟨hLe, hNext⟩ := ih (bytes - c.utf8Size)
        refine ⟨?_, fun d hd => ?_⟩
        · rw [byteLength_cons]
          omega
        · have hTail := hNext d hd
          rw [byteLength_cons]
          omega
      next hFits => simpa using hFits

/-- Every offset falls behind some part of the text. -/
theorem exists_fallsBehind (source : String) (offset : Nat) :
    ∃ before after, FallsBehind source offset before after := by
  obtain ⟨hLe, hNext⟩ := splitBytes_fits offset source.toList
  exact ⟨_, _, (splitBytes_append offset source.toList).symm, hLe, hNext⟩

theorem fallsBehind_byteLength (h : source.toList = before ++ after) :
    FallsBehind source (byteLength before) before after :=
  ⟨h, Nat.le_refl _, fun c _ => Nat.lt_add_of_pos_right c.utf8Size_pos⟩

/-- The end of that part is the last boundary up to the offset. -/
theorem FallsBehind.greatest (h : FallsBehind source offset before after) {place : Nat}
    (hPlace : IsBoundary source place) (hOffset : place ≤ offset) :
    place ≤ byteLength before := by
  obtain ⟨front, back, hSource, rfl⟩ := isBoundary_iff.mp hPlace
  have hSame : before ++ after = front ++ back := by rw [← h.split, hSource]
  rcases List.append_eq_append_iff.mp hSame with ⟨more, rfl, rfl⟩ | ⟨more, rfl, -⟩
  · cases more with
    | nil => exact Nat.le_of_eq (by rw [List.append_nil])
    | cons c more =>
        have hNext := h.next c rfl
        rw [byteLength_append, byteLength_cons] at hOffset
        omega
  · rw [byteLength_append]
    exact Nat.le_add_right _ _

/-- The last boundary up to the offset, found by stepping back byte by byte. -/
def floorBoundary? (source : String) : Nat → Option Nat
  | 0 => if IsBoundary source 0 then some 0 else none
  | offset + 1 =>
    if IsBoundary source (offset + 1) then some (offset + 1) else floorBoundary? source offset

theorem floorBoundary?_of_greatest {place : Nat} (hPlace : IsBoundary source place)
    (hOffset : place ≤ offset)
    (hGreatest : ∀ other, IsBoundary source other → other ≤ offset → other ≤ place) :
    floorBoundary? source offset = some place := by
  induction offset with
  | zero =>
      obtain rfl := Nat.le_zero.mp hOffset
      exact if_pos hPlace
  | succ offset ih =>
      unfold floorBoundary?
      by_cases hHere : IsBoundary source (offset + 1)
      · rw [if_pos hHere, Nat.le_antisymm hOffset (hGreatest _ hHere (Nat.le_refl _))]
      · have hEarlier : place ≤ offset := by
          refine Nat.le_of_lt_succ (Nat.lt_of_le_of_ne hOffset ?_)
          rintro rfl
          exact hHere hPlace
        rw [if_neg hHere]
        exact ih hEarlier fun other hOther hLe => hGreatest other hOther (Nat.le_succ_of_le hLe)

/-- Clamped to the text and stepped back, an offset comes to the end of what it falls behind. -/
theorem FallsBehind.floorBoundary?_eq (h : FallsBehind source offset before after) :
    floorBoundary? source (min offset source.utf8ByteSize) = some (byteLength before) := by
  have hPlace : IsBoundary source (byteLength before) := isBoundary_iff.mpr ⟨_, _, h.split, rfl⟩
  refine floorBoundary?_of_greatest hPlace (Nat.le_min.mpr ⟨h.le, hPlace.le⟩) ?_
  exact fun other hOther hLe => h.greatest hOther (Nat.le_trans hLe (Nat.min_le_left _ _))

end Floor

section Starts

/-- The offsets behind the line feeds of a text that begins at an offset. -/
def feedEnds (offset : Nat) : List Char → List Nat
  | [] => []
  | c :: cs =>
    if c = '\n' then (offset + 1) :: feedEnds (offset + c.utf8Size) cs
    else feedEnds (offset + c.utf8Size) cs

/-- The table of the line starts of a source. -/
def lineStarts (source : String) : List Nat :=
  0 :: feedEnds 0 source.toList

theorem map_start_placeLines (offset : Nat) (cs : List Char) :
    (placeLines offset (splitLines cs)).map (·.start) = offset :: feedEnds offset cs := by
  induction cs generalizing offset with
  | nil => rfl
  | cons c cs ih =>
      have hTail := ih (offset + c.utf8Size)
      by_cases hFeed : c = '\n'
      · subst hFeed
        rw [splitLines_cons_lineFeed, placeLines, List.map_cons, feedEnds, if_pos rfl]
        exact congrArg (offset :: ·) hTail
      · obtain ⟨first, others, hSplit, -⟩ := splitLines_eq_cons cs
        rw [hSplit, placeLines, List.map_cons] at hTail
        rw [splitLines_cons hFeed hSplit, placeLines, List.map_cons, feedEnds, if_neg hFeed,
          byteLength_cons, ← Nat.add_assoc, (List.cons.inj hTail).2]

/-- The table has the starts of the lines. -/
theorem map_start_linesOf (source : String) :
    (linesOf source).map (·.start) = lineStarts source :=
  map_start_placeLines 0 source.toList

theorem exists_of_mem_feedEnds {offset start : Nat} {cs : List Char}
    (h : start ∈ feedEnds offset cs) :
    ∃ front back, cs = front ++ '\n' :: back ∧ start = offset + byteLength (front ++ ['\n']) := by
  induction cs generalizing offset with
  | nil => cases h
  | cons c cs ih =>
      rw [feedEnds] at h
      have hLater : start ∈ feedEnds (offset + c.utf8Size) cs →
          ∃ front back, c :: cs = front ++ '\n' :: back ∧
            start = offset + byteLength (front ++ ['\n']) := by
        intro hMem
        obtain ⟨front, back, rfl, rfl⟩ := ih hMem
        exact ⟨c :: front, back, rfl, by rw [List.cons_append, byteLength_cons, Nat.add_assoc]⟩
      split at h
      next hFeed =>
        rcases List.mem_cons.mp h with rfl | hMem
        · exact ⟨[], cs, by rw [hFeed]; rfl, rfl⟩
        · exact hLater hMem
      next => exact hLater h

/-- Lines start at boundaries. -/
theorem isBoundary_of_mem_lineStarts {source : String} {start : Nat}
    (h : start ∈ lineStarts source) : IsBoundary source start := by
  rcases List.mem_cons.mp h with rfl | hMem
  · exact isBoundary_iff.mpr ⟨[], source.toList, rfl, rfl⟩
  · obtain ⟨front, back, hSource, rfl⟩ := exists_of_mem_feedEnds hMem
    exact isBoundary_iff.mpr ⟨front ++ ['\n'], back, by simp [hSource], Nat.zero_add _⟩

/-- The starts of the lines are in strictly increasing order. -/
theorem pairwise_lineStarts (source : String) : (lineStarts source).Pairwise (· < ·) := by
  have hFeeds : ∀ offset cs, (offset :: feedEnds offset cs).Pairwise (· < ·) := by
    intro offset cs
    induction cs generalizing offset with
    | nil => exact List.pairwise_singleton _ _
    | cons c cs ih =>
        have hSize := c.utf8Size_pos
        obtain ⟨hHead, hTail⟩ := List.pairwise_cons.mp (ih (offset + c.utf8Size))
        have hLater : (offset :: feedEnds (offset + c.utf8Size) cs).Pairwise (· < ·) := by
          refine List.pairwise_cons.mpr ⟨fun start hMem => ?_, hTail⟩
          exact Nat.lt_trans (Nat.lt_add_of_pos_right hSize) (hHead start hMem)
        rw [feedEnds]
        split
        next hFeed =>
          subst hFeed
          refine List.pairwise_cons.mpr ⟨fun start hMem => ?_, ih _⟩
          rcases List.mem_cons.mp hMem with rfl | hMem
          · exact Nat.lt_succ_self _
          · exact (List.pairwise_cons.mp hLater).1 start hMem
        next => exact hLater
  exact hFeeds 0 source.toList

end Starts

section Search

/-- The index of an offset in a table of increasing offsets, or else the index where it belongs. -/
def search (table : List Nat) (offset : Nat) : Except Nat Nat :=
  match table.idxOf? offset with
  | some i => .ok i
  | none => .error (table.countP (· < offset))

/-- The line that a search in the table comes to. An offset that is not found lies on the line
before the place where it belongs. -/
def searchedLine (source : String) (offset : Nat) : Nat :=
  match search (lineStarts source) offset with
  | .ok i => i + 1
  | .error i => i

theorem countP_le_of_getElem? {table : List Nat} (hOrder : table.Pairwise (· < ·))
    {i offset : Nat} (h : table[i]? = some offset) : table.countP (· ≤ offset) = i + 1 := by
  induction table generalizing i with
  | nil => cases h
  | cons start table ih =>
      obtain ⟨hHead, hTail⟩ := List.pairwise_cons.mp hOrder
      cases i with
      | zero =>
          obtain rfl := Option.some.inj h
          have hNone : table.countP (· ≤ start) = 0 := by
            refine List.countP_eq_zero.mpr fun other hMem => ?_
            simpa using hHead other hMem
          rw [List.countP_cons_of_pos (by simp), hNone]
      | succ i =>
          rw [List.getElem?_cons_succ] at h
          have hStart := hHead offset (List.mem_of_getElem? h)
          rw [List.countP_cons_of_pos (by simpa using Nat.le_of_lt hStart), ih hTail h]

/-- Any offset is searched for on the line that it lies on. -/
theorem searchedLine_eq (source : String) (offset : Nat) :
    searchedLine source offset = lineOf (linesOf source) offset := by
  have hCount : lineOf (linesOf source) offset = (lineStarts source).countP (· ≤ offset) := by
    rw [← map_start_linesOf, List.countP_map]
    rfl
  rw [searchedLine, search, hCount]
  cases hFound : (lineStarts source).idxOf? offset with
  | some i =>
      obtain ⟨hIndex, hStart, -⟩ := List.idxOf?_eq_some_iff.mp hFound
      have hHere : (lineStarts source)[i]? = some offset := by
        rw [List.getElem?_eq_getElem hIndex, hStart]
      exact (countP_le_of_getElem? (pairwise_lineStarts source) hHere).symm
  | none =>
      have hAbsent := List.idxOf?_eq_none_iff.mp hFound
      refine List.countP_congr fun start hMem => ?_
      have hOther : start ≠ offset := by
        rintro rfl
        exact hAbsent hMem
      simp only [decide_eq_true_eq]
      omega

end Search

section Line

variable {source : String} {offset : Nat} {before after : List Char}

/-- An offset lies on the line of the boundary that it falls behind, even if it is not one. -/
theorem FallsBehind.lineOf_eq (h : FallsBehind source offset before after) :
    lineOf (linesOf source) offset = 1 + lineFeeds before := by
  rw [← lineOf_linesOf h.split]
  refine List.countP_congr fun line hMem => ?_
  have hStart : IsBoundary source line.start := by
    refine isBoundary_of_mem_lineStarts ?_
    rw [← map_start_linesOf]
    exact List.mem_map_of_mem hMem
  simp only [decide_eq_true_eq]
  exact ⟨h.greatest hStart, fun hLe => Nat.le_trans hLe h.le⟩

/-- The characters behind the last line feed. -/
def lastLine (cs : List Char) : List Char :=
  (cs.reverse.takeWhile (· ≠ '\n')).reverse

theorem exists_lead (cs : List Char) :
    ∃ lead, cs = lead ++ lastLine cs ∧ (lead = [] ∨ ∃ front, lead = front ++ ['\n']) := by
  refine ⟨(cs.reverse.dropWhile (· ≠ '\n')).reverse, ?_, ?_⟩
  · rw [lastLine, ← List.reverse_append, List.takeWhile_append_dropWhile, List.reverse_reverse]
  · cases hDropped : cs.reverse.dropWhile (· ≠ '\n') with
    | nil => exact .inl rfl
    | cons c rest =>
        have hHead := List.head?_dropWhile_not (· ≠ '\n') cs.reverse
        rw [hDropped] at hHead
        have hFeed : c = '\n' := by simpa using hHead
        exact .inr ⟨rest.reverse, by rw [hFeed, List.reverse_cons]⟩

theorem feed_not_mem_lastLine (cs : List Char) : '\n' ∉ lastLine cs := by
  intro hMem
  have hAll := List.all_eq_true.mp (@List.all_takeWhile _ (· ≠ '\n') cs.reverse)
  exact absurd (hAll _ (List.mem_reverse.mp hMem)) (by decide)

/-- The first line of a text begins with all that comes before a line feed. -/
theorem splitLines_append {tail : List Char} (hTail : '\n' ∉ tail) (after : List Char) :
    ∃ chars others, splitLines (tail ++ after) = (tail ++ chars) :: others ∧ chars <+: after := by
  induction tail with
  | nil =>
      obtain ⟨chars, others, hSplit, -⟩ := splitLines_eq_cons after
      refine ⟨chars, others, hSplit, others.flatten, ?_⟩
      rw [← List.flatten_cons, ← hSplit, flatten_splitLines]
  | cons c tail ih =>
      rw [List.mem_cons, not_or] at hTail
      obtain ⟨chars, others, hSplit, hPrefix⟩ := ih hTail.2
      exact ⟨chars, others, splitLines_cons (Ne.symm hTail.1) hSplit, hPrefix⟩

/-- Where the lines before it end, a line begins with all that comes before a line feed. -/
theorem getElem?_placeLines (offset : Nat) {lead tail : List Char}
    (hLead : lead = [] ∨ ∃ front, lead = front ++ ['\n']) (hTail : '\n' ∉ tail)
    (after : List Char) :
    ∃ chars, (placeLines offset (splitLines (lead ++ (tail ++ after))))[lineFeeds lead]? =
      some ⟨offset + byteLength lead, tail ++ chars⟩ ∧ chars <+: after := by
  induction lead generalizing offset with
  | nil =>
      obtain ⟨chars, others, hSplit, hPrefix⟩ := splitLines_append hTail after
      exact ⟨chars, by rw [List.nil_append, hSplit]; rfl, hPrefix⟩
  | cons c lead ih =>
      have hInner : lead = [] ∨ ∃ front, lead = front ++ ['\n'] := by
        obtain ⟨front, hFront⟩ := hLead.resolve_left (List.cons_ne_nil c lead)
        cases front with
        | nil => exact .inl (List.cons.inj hFront).2
        | cons d front => exact .inr ⟨front, (List.cons.inj hFront).2⟩
      obtain ⟨chars, hLine, hPrefix⟩ := ih (offset + c.utf8Size) hInner
      refine ⟨chars, ?_, hPrefix⟩
      rw [List.cons_append, byteLength_cons, ← Nat.add_assoc, lineFeeds_cons]
      by_cases hFeed : c = '\n'
      · subst hFeed
        rw [splitLines_cons_lineFeed, placeLines, if_pos rfl, Nat.add_comm 1,
          List.getElem?_cons_succ]
        exact hLine
      · -- The lead ends with a line feed, so the line is not the first one.
        have hSome : lineFeeds lead ≠ 0 := by
          rcases hInner with rfl | ⟨front, rfl⟩
          · obtain ⟨front, hFront⟩ := hLead.resolve_left (List.cons_ne_nil c [])
            cases front with
            | nil => exact absurd (List.cons.inj hFront).1 hFeed
            | cons d front => exact absurd (List.cons.inj hFront).2 (by simp)
          · simp
        obtain ⟨n, hFeeds⟩ := Nat.exists_eq_succ_of_ne_zero hSome
        obtain ⟨first, others, hSplit, -⟩ := splitLines_eq_cons (lead ++ (tail ++ after))
        rw [hSplit, placeLines, hFeeds, List.getElem?_cons_succ] at hLine
        rw [splitLines_cons hFeed hSplit, placeLines, if_neg hFeed, Nat.zero_add, hFeeds,
          List.getElem?_cons_succ, byteLength_cons, ← Nat.add_assoc, hLine]

theorem charsBefore_append {start : Nat} {tail : List Char}
    (hOffset : start + byteLength tail ≤ offset) {chars : List Char}
    (hNext : ∀ c ∈ chars.head?, offset < start + byteLength tail + c.utf8Size) :
    charsBefore start offset (tail ++ chars) = tail.length := by
  induction tail generalizing start with
  | nil =>
      cases chars with
      | nil => rfl
      | cons c chars => exact if_neg (Nat.not_le_of_lt (hNext c rfl))
  | cons c tail ih =>
      rw [byteLength_cons, ← Nat.add_assoc] at hOffset hNext
      have hFits : start + c.utf8Size ≤ offset := Nat.le_trans (Nat.le_add_right _ _) hOffset
      rw [List.cons_append, charsBefore, if_pos hFits, ih hOffset hNext, List.length_cons,
        Nat.add_comm]

/-- The line that an offset lies on starts behind the last line feed, and goes on behind it. -/
theorem FallsBehind.exists_line (h : FallsBehind source offset before after) :
    ∃ lead chars, before = lead ++ lastLine before ∧ chars <+: after ∧
      lineAt? (linesOf source) (1 + lineFeeds before) =
        some ⟨byteLength lead, lastLine before ++ chars⟩ := by
  obtain ⟨lead, hBefore, hLead⟩ := exists_lead before
  have hFeed := feed_not_mem_lastLine before
  obtain ⟨chars, hLine, hPrefix⟩ := getElem?_placeLines 0 hLead hFeed after
  have hFeeds : lineFeeds before = lineFeeds lead := by
    have hCount := congrArg lineFeeds hBefore
    rwa [lineFeeds_append, lineFeeds_eq_zero_iff.mpr hFeed, Nat.add_zero] at hCount
  refine ⟨lead, chars, hBefore, hPrefix, ?_⟩
  rw [← List.append_assoc, ← hBefore, ← h.split, Nat.zero_add, ← hFeeds] at hLine
  rwa [Nat.add_comm, lineAt?]

/-- The position of an offset counts the line feeds before it, and the characters since the last
of them. -/
theorem FallsBehind.positionOf_eq (h : FallsBehind source offset before after) :
    positionOf (linesOf source) offset = ⟨1 + lineFeeds before, 1 + (lastLine before).length⟩ := by
  obtain ⟨lead, chars, hBefore, ⟨rest, rfl⟩, hLine⟩ := h.exists_line
  rw [Nat.add_comm, lineAt?] at hLine
  have hLength : byteLength before = byteLength lead + byteLength (lastLine before) := by
    rw [← byteLength_append, ← hBefore]
  have hNext : ∀ c ∈ chars.head?,
      offset < byteLength lead + byteLength (lastLine before) + c.utf8Size := by
    intro c hc
    rw [← hLength]
    refine h.next c ?_
    rw [List.head?_append, Option.mem_def.mp hc]
    rfl
  have hColumn := charsBefore_append (hLength ▸ h.le) hNext
  simp only [positionOf, h.lineOf_eq, Nat.add_sub_cancel_left, hLine, hColumn]

end Line

section Locate

/-- The start of a line with a given number, if there is one. -/
def lineStart? (source : String) : Nat → Option Nat
  | 0 => none
  | n + 1 => (lineStarts source)[n]?

theorem lineStart?_eq (source : String) (n : Nat) :
    lineStart? source n = (lineAt? (linesOf source) n).map (·.start) := by
  cases n with
  | zero => rfl
  | succ n => rw [lineStart?, lineAt?, ← map_start_linesOf, List.getElem?_map]

/-- The position of an offset by the table: there is none if stepping back finds no boundary, the
line that is searched for has no start, or its characters cannot be cut out. -/
def locate? (source : String) (offset : Nat) : Option Position := do
  let place ← floorBoundary? source (min offset source.utf8ByteSize)
  let line := searchedLine source place
  let start ← lineStart? source line
  let chars ← slice? source start place
  return ⟨line, 1 + chars.length⟩

/-- Positions in reading order. -/
def Position.Before (first second : Position) : Prop :=
  first.line < second.line ∨ first.line = second.line ∧ first.column < second.column

variable {source : String} {offset : Nat} {before after : List Char}

/-- Nothing fails on the way to a position. -/
theorem FallsBehind.locate?_eq (h : FallsBehind source offset before after) :
    locate? source offset = some (positionOf (linesOf source) offset) := by
  have hLine : searchedLine source (byteLength before) = 1 + lineFeeds before := by
    rw [searchedLine_eq, lineOf_linesOf h.split]
  obtain ⟨lead, chars, hBefore, -, hStart⟩ := h.exists_line
  have hSource : source.toList = lead ++ (lastLine before ++ after) := by
    rw [← List.append_assoc, ← hBefore, h.split]
  have hSlice := slice?_append hSource
  rw [← byteLength_append, ← hBefore] at hSlice
  simp only [locate?, h.floorBoundary?_eq, hLine, lineStart?_eq, hStart, hSlice, h.positionOf_eq,
    Option.map_some, Option.bind_eq_bind, Option.bind_some, Option.pure_def]

/-- What the position of an offset is, and how the offset is found from it: `before` is the text
up to the last boundary that is not past the offset or the end. -/
structure Located (source : String) (offset : Nat) (before : List Char) (position : Position) :
    Prop where
  starts : before <+: source.toList
  clamped : byteLength before ≤ min offset source.utf8ByteSize
  greatest : ∀ place, IsBoundary source place → place ≤ min offset source.utf8ByteSize →
    place ≤ byteLength before
  line : position.line = 1 + before.count '\n'
  column : position.column = 1 + (before.reverse.takeWhile (· ≠ '\n')).length
  lineOf : lineOf (linesOf source) offset = position.line
  searched : searchedLine source offset = position.line
  located : locate? source offset = some position
  recovered : ∃ line chars, lineAt? (linesOf source) position.line = some line ∧
    slice? source line.start source.utf8ByteSize = some chars ∧
      position.column - 1 ≤ chars.length ∧
        line.start + byteLength (chars.take (position.column - 1)) = byteLength before

theorem FallsBehind.located (h : FallsBehind source offset before after) :
    Located source offset before (positionOf (linesOf source) offset) := by
  have hBoundary : IsBoundary source (byteLength before) := isBoundary_iff.mpr ⟨_, _, h.split, rfl⟩
  obtain ⟨lead, chars, hBefore, -, hLine⟩ := h.exists_line
  have hSource : source.toList = lead ++ (lastLine before ++ after) := by
    rw [← List.append_assoc, ← hBefore, h.split]
  refine ⟨⟨after, h.split.symm⟩, Nat.le_min.mpr ⟨h.le, hBoundary.le⟩, ?_, ?_, ?_, ?_, ?_,
    h.locate?_eq, ⟨byteLength lead, lastLine before ++ chars⟩, lastLine before ++ after, ?_,
    slice?_rest hSource, ?_, ?_⟩
  · intro place hPlace hLe
    exact h.greatest hPlace (Nat.le_trans hLe (Nat.min_le_left _ _))
  · rw [h.positionOf_eq, lineFeeds_eq_count]
  · rw [h.positionOf_eq, lastLine, List.length_reverse]
  · rw [line_positionOf]
  · rw [line_positionOf, searchedLine_eq]
  · rw [h.positionOf_eq]
    exact hLine
  · rw [h.positionOf_eq, Nat.add_sub_cancel_left, List.length_append]
    exact Nat.le_add_right _ _
  · rw [h.positionOf_eq, Nat.add_sub_cancel_left, List.take_left, ← byteLength_append, ← hBefore]

theorem lastLine_append {cs more : List Char} (h : '\n' ∉ more) :
    lastLine (cs ++ more) = lastLine cs ++ more := by
  have hAll : ∀ c ∈ more.reverse, decide (c ≠ '\n') = true := by
    intro c hMem
    rw [decide_eq_true_eq]
    rintro rfl
    exact h (List.mem_reverse.mp hMem)
  rw [lastLine, List.reverse_append, List.takeWhile_append_of_pos hAll, List.reverse_append,
    List.reverse_reverse, lastLine]

/-- Of two boundaries the later one has the later position. -/
theorem before_positionOf {first second : Nat} (hFirst : IsBoundary source first)
    (hSecond : IsBoundary source second) (hOrder : first < second) :
    (positionOf (linesOf source) first).Before (positionOf (linesOf source) second) := by
  obtain ⟨front, rest, hSource, rfl⟩ := isBoundary_iff.mp hFirst
  obtain ⟨long, after, hSource', rfl⟩ := isBoundary_iff.mp hSecond
  obtain ⟨more, rfl⟩ : ∃ more, long = front ++ more := by
    rcases List.append_eq_append_iff.mp (hSource.symm.trans hSource') with
      ⟨more, hMore, -⟩ | ⟨more, rfl, -⟩
    · exact ⟨more, hMore⟩
    · rw [byteLength_append] at hOrder
      omega
  rw [(fallsBehind_byteLength hSource).positionOf_eq,
    (fallsBehind_byteLength hSource').positionOf_eq]
  by_cases hFeed : '\n' ∈ more
  · refine .inl ?_
    have hCount := List.count_pos_iff.mpr hFeed
    rw [← lineFeeds_eq_count] at hCount
    show 1 + lineFeeds front < 1 + lineFeeds (front ++ more)
    rw [lineFeeds_append]
    omega
  · refine .inr ⟨?_, ?_⟩
    · show 1 + lineFeeds front = 1 + lineFeeds (front ++ more)
      rw [lineFeeds_append, lineFeeds_eq_zero_iff.mpr hFeed, Nat.add_zero]
    · have hMore : more ≠ [] := by
        rintro rfl
        rw [List.append_nil] at hOrder
        exact Nat.lt_irrefl _ hOrder
      have hLength := List.length_pos_iff.mpr hMore
      show 1 + (lastLine front).length < 1 + (lastLine (front ++ more)).length
      rw [lastLine_append hFeed, List.length_append]
      omega

/-- Positions of a source are exact and in order. -/
structure PositionsExact (source : String) : Prop where
  located : ∀ offset, ∃ before,
    Located source offset before (positionOf (linesOf source) offset)
  increasing : ∀ first second, IsBoundary source first → IsBoundary source second →
    first < second →
      (positionOf (linesOf source) first).Before (positionOf (linesOf source) second)

theorem positionsExact (source : String) : PositionsExact source := by
  refine ⟨fun offset => ?_, fun first second => before_positionOf⟩
  obtain ⟨before, after, h⟩ := exists_fallsBehind source offset
  exact ⟨before, h.located⟩

/-- Within a character an offset has the position of the character. -/
example : locate? "x\nwörld" 4 = some ⟨2, 2⟩ := by decide +kernel

end Locate

end RuleOutline
