import RuleOutline.Proofs.Text.Boundary
import RuleOutline.Proofs.Token.CodeLength
import RuleOutline.Proofs.Token.Layout

/-! Action code read by its bytes. A scan goes over the bytes of the code and counts braces; at a
literal or a comment it looks for the end in the text from there on, and jumps. Every scan ends,
it ends where reading character by character ends, and it never looks at a text that would begin
within a character. -/
namespace RuleOutline

open Text

section Scan

/-- The offset, from the opener on, of the text in which its end is looked for. -/
def Opener.offset : Opener → Nat
  | .literal _ => 1
  | .lineComment => 0
  | .blockComment => 2

/-- The bytes from an opener on to where it hides nothing more, unless it hides all there is. They
are found in the text from the offset of the opener on. -/
def Opener.length? : Opener → List Char → Option Nat
  | .literal quote, cs => some (1 + quotedLength quote cs)
  | .lineComment, cs => find? ['\n'] cs
  | .blockComment, cs => (find? ['*', '/'] cs).map (2 + · + 2)

/-- Where a scan of action code stands: at a byte, with so many braces open. -/
structure Scan where
  index : Nat
  depth : Nat
  deriving DecidableEq

/-- What a scan does: it goes on from another place, or it has found how long the code is. -/
inductive Scan.Outcome where
  | moved (next : Scan)
  | ended (length : Nat)
  deriving DecidableEq

namespace Scan

/-- A scan begins at the first byte, behind the brace that opens the code. -/
def start : Scan :=
  ⟨0, 1⟩

/-- What opens at the byte. A slash opens a comment together with the byte after it. -/
def opener? (code : String) (scan : Scan) : Option Opener :=
  if HasByte code scan.index '\'' then some (.literal '\'')
  else if HasByte code scan.index '"' then some (.literal '"')
  else if HasByte code scan.index '/' then
    if HasByte code (scan.index + 1) '/' then some .lineComment
    else if HasByte code (scan.index + 1) '*' then some .blockComment
    else none
  else none

/-- One step of a scan. There is none if the text to look at does not begin at a boundary, and
none if a brace is to be closed where none is open. -/
def step? (code : String) (scan : Scan) : Option Outcome :=
  if code.utf8ByteSize ≤ scan.index then some (.ended code.utf8ByteSize)
  else match scan.opener? code with
    | some opener =>
      (slice? code (scan.index + opener.offset) code.utf8ByteSize).map fun cs =>
        let stop := ((opener.length? cs).map (scan.index + ·)).getD code.utf8ByteSize
        .moved ⟨stop, scan.depth⟩
    | none =>
      if HasByte code scan.index '\x7b' then some (.moved ⟨scan.index + 1, scan.depth + 1⟩)
      else if HasByte code scan.index '\x7d' then
        match scan.depth with
        | 0 => none
        | 1 => some (.ended (scan.index + 1))
        | depth + 2 => some (.moved ⟨scan.index + 1, depth + 1⟩)
      else some (.moved ⟨scan.index + 1, scan.depth⟩)

/-- The places that a scan comes to. -/
inductive Reaches (code : String) : Scan → Prop where
  | start : Reaches code start
  | step {scan next : Scan} (prior : Reaches code scan)
      (last : scan.step? code = some (.moved next)) : Reaches code next

/-- From a place on, the scan ends after finitely many steps and finds the code this long. -/
inductive Finds (code : String) : Scan → Nat → Prop where
  | ended {scan : Scan} {length : Nat} (last : scan.step? code = some (.ended length)) :
      Finds code scan length
  | moved {scan next : Scan} {length : Nat} (first : scan.step? code = some (.moved next))
      (tail : Finds code next length) : Finds code scan length

end Scan

end Scan

section Step

variable {code : String} {before rest : List Char} {depth : Nat}

/-- The line feed that ends a line comment is the first one there is. -/
theorem find?_lineFeed {text : List Char} (h : IsLineComment (· == '\n') text rest) :
    find? ['\n'] (text ++ rest) = some (byteLength text) ∨
      find? ['\n'] (text ++ rest) = none ∧ rest = [] := by
  cases h with
  | @intro body _ hBody hRest =>
      have hNoFeed : '\n' ∉ '/' :: '/' :: body := by
        intro hFeed
        have hInside : '\n' ∈ body := by simpa using hFeed
        exact absurd (hBody _ hInside) (by decide)
      cases rest with
      | nil =>
          refine .inr ⟨find?_eq_none fun hInfix => ?_, rfl⟩
          rw [List.append_nil] at hInfix
          exact hNoFeed (hInfix.subset (List.mem_singleton.mpr rfl))
      | cons c rest =>
          obtain rfl : c = '\n' := by simpa using hRest c rfl
          refine .inl (find?_append (List.cons_ne_nil _ _) ?_)
          rintro before (_ | ⟨d, inside⟩) hSplit hNonempty hPrefix
          · exact hNonempty rfl
          · obtain rfl := (List.cons_prefix_cons.mp hPrefix).1
            exact hNoFeed (by rw [hSplit]; simp)

/-- The star and slash that close a block comment are the first ones behind its own. -/
theorem find?_close {body : List Char} (hFirst : ¬HasClose (body ++ ['*'])) :
    find? ['*', '/'] (body ++ (['*', '/'] ++ rest)) = some (byteLength body) := by
  refine find?_append (List.cons_ne_nil _ _) ?_
  rintro before inside rfl hInside hPrefix
  -- The star of the close is still in view, so an earlier one would be in the body.
  have hView : inside ++ ['*'] <+: inside ++ (['*', '/'] ++ rest) :=
    (List.prefix_append_right_inj inside).mpr (List.prefix_append ['*'] ('/' :: rest))
  have hLong : ['*', '/'].length ≤ (inside ++ ['*']).length := by
    have hSome := List.length_pos_iff.mpr hInside
    simp only [List.length_append, List.length_cons, List.length_nil]
    omega
  refine hFirst ((List.prefix_of_prefix_length_le hPrefix hView hLong).isInfix.trans ?_)
  rw [List.append_assoc]
  exact (List.suffix_append before _).isInfix

/-- Where the end of a hidden text is looked for, it is found: at a number of bytes, or nowhere if
the text hides all the rest. -/
theorem Opener.Hides.exists_inside {opener : Opener} {text : List Char}
    (h : opener.Hides text rest) :
    ∃ opening inside, text = opening ++ inside ∧ byteLength opening = opener.offset ∧
      (opener.length? (inside ++ rest) = some (byteLength text) ∨
        opener.length? (inside ++ rest) = none ∧ rest = []) := by
  cases h with
  | @literal quote tail _ h =>
      have hQuote : byteLength [quote] = 1 := by
        cases h with
        | intro hQuote => rcases hQuote with rfl | rfl <;> rfl
      refine ⟨[quote], tail, rfl, hQuote, .inl ?_⟩
      rw [length?, quotedLength_literal h, ← hQuote, ← byteLength_append]
      rfl
  | lineComment h => exact ⟨[], text, rfl, rfl, find?_lineFeed h⟩
  | blockComment h =>
      cases h with
      | @closed body _ hFirst =>
          have hTwo : byteLength ['*', '/'] = 2 ∧ byteLength ['/', '*'] = 2 := ⟨rfl, rfl⟩
          refine ⟨['/', '*'], body ++ ['*', '/'], rfl, rfl, .inl ?_⟩
          rw [length?, List.append_assoc, find?_close hFirst, Option.map_some]
          show some (2 + byteLength body + 2) =
            some (byteLength (['/', '*'] ++ (body ++ ['*', '/'])))
          rw [byteLength_append, byteLength_append, hTwo.1, hTwo.2, Nat.add_assoc]
      | @unclosed body hNone =>
          refine ⟨['/', '*'], body, rfl, rfl, .inr ⟨?_, rfl⟩⟩
          rw [length?, List.append_nil, find?_eq_none hNone, Option.map_none]

namespace Scan

/-- At a boundary the bytes tell what opens there. -/
theorem opener?_eq (h : code.toList = before ++ rest) (depth : Nat) :
    opener? code ⟨byteLength before, depth⟩ = Opener.of? rest := by
  have hFirst : ∀ d : Char, d.toNat < 128 →
      (HasByte code (byteLength before) d ↔ rest.head? = some d) :=
    fun d => hasByte_iff_head? h
  have hSecond : ∀ d : Char, d.toNat < 128 → rest.head? = some '/' →
      (HasByte code (byteLength before + 1) d ↔ rest.tail.head? = some d) := by
    intro d hAscii hSlash
    obtain ⟨tail, rfl⟩ := List.head?_eq_some_iff.mp hSlash
    have hNext : code.toList = (before ++ ['/']) ++ tail := by simp [h]
    have hByte := hasByte_iff_head? hNext hAscii
    rwa [byteLength_append] at hByte
  rw [Opener.of?_eq_ite, opener?]
  simp only [hFirst '\'' (by decide), hFirst '"' (by decide), hFirst '/' (by decide)]
  by_cases hSlash : rest.head? = some '/'
  · simp only [if_pos hSlash, hSecond '/' (by decide) hSlash, hSecond '*' (by decide) hSlash]
  · simp only [if_neg hSlash]

theorem step?_end (code : String) (depth : Nat) :
    step? code ⟨code.utf8ByteSize, depth⟩ = some (.ended code.utf8ByteSize) :=
  if_pos (Nat.le_refl _)

/-- A step at an opener, which has a text to look at. -/
theorem step?_opener {index : Nat} {opener : Opener} {cs : List Char}
    (hIndex : index < code.utf8ByteSize) (hOpener : opener? code ⟨index, depth⟩ = some opener)
    (hSlice : slice? code (index + opener.offset) code.utf8ByteSize = some cs) :
    step? code ⟨index, depth⟩ =
      some (.moved ⟨((opener.length? cs).map (index + ·)).getD code.utf8ByteSize, depth⟩) := by
  simp only [step?, if_neg (Nat.not_le_of_lt hIndex), hOpener, hSlice, Option.map_some]

/-- A step at a byte that opens nothing. -/
theorem step?_visible {index : Nat} (hIndex : index < code.utf8ByteSize)
    (hNone : opener? code ⟨index, depth + 1⟩ = none) :
    step? code ⟨index, depth + 1⟩ =
      if HasByte code index '\x7b' then some (.moved ⟨index + 1, depth + 2⟩)
      else if HasByte code index '\x7d' then
        if depth = 0 then some (.ended (index + 1)) else some (.moved ⟨index + 1, depth⟩)
      else some (.moved ⟨index + 1, depth + 1⟩) := by
  simp only [step?, if_neg (Nat.not_le_of_lt hIndex), hNone]
  cases depth <;> rfl

theorem lt_utf8ByteSize {c : Char} {k : Nat} (h : code.toList = before ++ c :: rest)
    (hIndex : k < c.utf8Size) : byteLength before + k < code.utf8ByteSize := by
  rw [utf8ByteSize_eq, h, byteLength_append, byteLength_cons]
  omega

/-- A hidden text is passed over in one step. -/
theorem step?_hides {opener : Opener} {text : List Char} (hHides : opener.Hides text rest)
    (h : code.toList = before ++ (text ++ rest)) (depth : Nat) :
    step? code ⟨byteLength before, depth⟩ =
      some (.moved ⟨byteLength (before ++ text), depth⟩) := by
  have hOpener : opener? code ⟨byteLength before, depth⟩ = some opener := by
    rw [opener?_eq h, hHides.of?_eq]
  have hIndex : byteLength before < code.utf8ByteSize := by
    have hText := byteLength_pos hHides.ne_nil
    rw [utf8ByteSize_eq, h, byteLength_append, byteLength_append]
    omega
  obtain ⟨opening, inside, rfl, hOffset, hLength⟩ := hHides.exists_inside
  have hSlice : slice? code (byteLength before + opener.offset) code.utf8ByteSize =
      some (inside ++ rest) := by
    rw [← hOffset, ← byteLength_append]
    exact slice?_rest (by simp [h])
  rw [step?_opener hIndex hOpener hSlice]
  rcases hLength with hSome | ⟨hNone, rfl⟩
  · rw [hSome, Option.map_some, Option.getD_some, byteLength_append before]
  · rw [hNone, Option.map_none, Option.getD_none, utf8ByteSize_eq, h, List.append_nil]

theorem step?_opening (h : code.toList = before ++ '\x7b' :: rest) (depth : Nat) :
    step? code ⟨byteLength before, depth + 1⟩ =
      some (.moved ⟨byteLength (before ++ ['\x7b']), depth + 2⟩) := by
  have hIndex : byteLength before < code.utf8ByteSize := lt_utf8ByteSize (k := 0) h (by decide)
  have hOpen := (hasByte_iff_head? h (d := '\x7b') (by decide)).mpr rfl
  rw [step?_visible hIndex (opener?_eq h _), if_pos hOpen, byteLength_append]
  rfl

theorem step?_closing (h : code.toList = before ++ '\x7d' :: rest) (depth : Nat) :
    step? code ⟨byteLength before, depth + 1⟩ =
      if depth = 0 then some (.ended (byteLength (before ++ ['\x7d'])))
      else some (.moved ⟨byteLength (before ++ ['\x7d']), depth⟩) := by
  have hIndex : byteLength before < code.utf8ByteSize := lt_utf8ByteSize (k := 0) h (by decide)
  have hOpen : ¬HasByte code (byteLength before) '\x7b' := by
    simp [hasByte_iff_head? h (d := '\x7b') (by decide)]
  have hShut := (hasByte_iff_head? h (d := '\x7d') (by decide)).mpr rfl
  rw [step?_visible hIndex (opener?_eq h _), if_neg hOpen, if_pos hShut, byteLength_append]
  rfl

/-- Within a character no ASCII character begins. -/
theorem not_hasByte_within {c d : Char} {k : Nat} (h : code.toList = before ++ c :: rest)
    (hIndex : k < c.utf8Size) (hLater : k ≠ 0) (hAscii : d.toNat < 128) :
    ¬HasByte code (byteLength before + k) d := by
  intro hByte
  obtain rfl := (hasByte_iff h hIndex hAscii).mp hByte
  have hSize := utf8Size_eq_one hAscii
  omega

theorem opener?_within {c : Char} {k : Nat} (h : code.toList = before ++ c :: rest)
    (hIndex : k < c.utf8Size) (hLater : k ≠ 0) (depth : Nat) :
    opener? code ⟨byteLength before + k, depth⟩ = none := by
  have hOther : ∀ d : Char, d.toNat < 128 → ¬HasByte code (byteLength before + k) d :=
    fun d => not_hasByte_within h hIndex hLater
  simp only [opener?, if_neg (hOther '\'' (by decide)), if_neg (hOther '"' (by decide)),
    if_neg (hOther '/' (by decide))]

/-- A byte of any other character is passed over, wherever in the character it is. -/
theorem step?_plain {c : Char} {k : Nat} (h : code.toList = before ++ c :: rest)
    (hIndex : k < c.utf8Size)
    (hPlain : k = 0 → Opener.of? (c :: rest) = none ∧ c ≠ '\x7b' ∧ c ≠ '\x7d') (depth : Nat) :
    step? code ⟨byteLength before + k, depth + 1⟩ =
      some (.moved ⟨byteLength before + k + 1, depth + 1⟩) := by
  have hNone : opener? code ⟨byteLength before + k, depth + 1⟩ = none := by
    by_cases hk : k = 0
    · subst hk
      rw [Nat.add_zero, opener?_eq h, (hPlain rfl).1]
    · exact opener?_within h hIndex hk _
  have hBrace : ∀ d : Char, d.toNat < 128 → (k = 0 → c ≠ d) →
      ¬HasByte code (byteLength before + k) d := by
    intro d hAscii hHere hByte
    by_cases hk : k = 0
    · exact hHere hk ((hasByte_iff h hIndex hAscii).mp hByte)
    · exact not_hasByte_within h hIndex hk hAscii hByte
  rw [step?_visible (lt_utf8ByteSize h hIndex) hNone,
    if_neg (hBrace '\x7b' (by decide) fun hk => (hPlain hk).2.1),
    if_neg (hBrace '\x7d' (by decide) fun hk => (hPlain hk).2.2)]

end Scan

end Step

namespace Scan

section Length

variable {code : String} {before rest : List Char} {depth length : Nat}

/-- A scan finds one length only. -/
theorem Finds.unique {scan : Scan} {other : Nat} (h : Finds code scan length)
    (hOther : Finds code scan other) : length = other := by
  induction h with
  | ended last =>
      cases hOther with
      | ended last' =>
          rw [last] at last'
          cases last'
          rfl
      | moved first' =>
          rw [last] at first'
          cases first'
  | moved first tail ih =>
      cases hOther with
      | ended last' =>
          rw [first] at last'
          cases last'
      | moved first' tail' =>
          rw [first] at first'
          cases first'
          exact ih tail'

/-- A character that counts for itself is passed over byte by byte. -/
theorem Finds.of_plain {c : Char} (h : code.toList = before ++ c :: rest)
    (hPlain : Opener.of? (c :: rest) = none ∧ c ≠ '\x7b' ∧ c ≠ '\x7d')
    (tail : Finds code ⟨byteLength (before ++ [c]), depth + 1⟩ length) :
    Finds code ⟨byteLength before, depth + 1⟩ length := by
  have hBytes : ∀ left k, k + left = c.utf8Size →
      Finds code ⟨byteLength before + k, depth + 1⟩ length := by
    intro left
    induction left with
    | zero =>
        rintro k rfl
        rwa [byteLength_append] at tail
    | succ left ih =>
        intro k hLeft
        exact .moved (step?_plain h (by omega) (fun _ => hPlain) depth) (ih (k + 1) (by omega))
  exact hBytes c.utf8Size 0 (Nat.zero_add _)

/-- Action code is scanned through to its end. -/
theorem finds_code {text after : List Char} (hCode : Code depth text after) (hOpen : depth ≠ 0)
    (h : code.toList = before ++ (text ++ after)) :
    Finds code ⟨byteLength before, depth⟩ (byteLength (before ++ text)) := by
  induction hCode generalizing before with
  | closed => exact absurd rfl hOpen
  | textEnd depth =>
      have hAll : code.toList = before := by rw [h, List.append_nil, List.append_nil]
      rw [List.append_nil, ← hAll, ← utf8ByteSize_eq]
      exact .ended (step?_end code _)
  | @opening depth text after tail ih =>
      have hNext : code.toList = (before ++ ['\x7b']) ++ (text ++ after) := by simp [h]
      have hTail := ih (by omega) hNext
      rw [List.append_assoc] at hTail
      exact .moved (step?_opening h depth) hTail
  | @closing depth text after tail ih =>
      have hStep := step?_closing h depth
      by_cases hLast : depth = 0
      · subst hLast
        cases tail
        exact .ended hStep
      · have hNext : code.toList = (before ++ ['\x7d']) ++ (text ++ after) := by simp [h]
        have hTail := ih hLast hNext
        rw [List.append_assoc] at hTail
        rw [if_neg hLast] at hStep
        exact .moved hStep hTail
  | @piece depth text more after hPiece tail ih =>
      rw [List.append_assoc] at h
      have hNext : code.toList = (before ++ text) ++ (more ++ after) := by simp [h]
      have hTail := ih hOpen hNext
      rw [List.append_assoc] at hTail
      rcases Opener.exists_hides_or_plain hPiece with ⟨opener, hHides⟩ | ⟨c, rfl, hPlain⟩
      · exact .moved (step?_hides hHides h _) hTail
      · exact .of_plain h hPlain hTail

end Length

section Safety

variable {code : String} {scan : Scan}

/-- Where a scan can stand: at a boundary or within a character, with a brace open. -/
inductive Stands (code : String) : Scan → Prop where
  | boundary {before after : List Char} {depth : Nat} (h : code.toList = before ++ after) :
      Stands code ⟨byteLength before, depth + 1⟩
  | within {before after : List Char} {c : Char} {k depth : Nat}
      (h : code.toList = before ++ c :: after) (hLater : k ≠ 0) (hIndex : k < c.utf8Size) :
      Stands code ⟨byteLength before + k, depth + 1⟩

theorem stands_start (code : String) : Stands code start :=
  @Stands.boundary code [] code.toList 0 rfl

theorem Stands.depth_pos (h : Stands code scan) : 0 < scan.depth := by
  cases h <;> exact Nat.succ_pos _

/-- Behind a byte of a character the scan stands within the character, or behind it. -/
theorem Stands.next_byte {before rest : List Char} {c : Char} {k : Nat}
    (h : code.toList = before ++ c :: rest) (hIndex : k < c.utf8Size) (depth : Nat) :
    Stands code ⟨byteLength before + k + 1, depth + 1⟩ := by
  by_cases hLast : k + 1 = c.utf8Size
  · have hBehind : code.toList = (before ++ [c]) ++ rest := by rw [h, List.append_cons]
    have hOffset : byteLength before + k + 1 = byteLength (before ++ [c]) := by
      rw [byteLength_append, byteLength_cons, byteLength_nil]
      omega
    rw [hOffset]
    exact .boundary hBehind
  · rw [Nat.add_assoc]
    exact .within h (Nat.succ_ne_zero k) (by omega)

/-- What a step comes to when nothing goes wrong: if it goes on, then further to the right, and
from a place where a scan can stand. -/
def Advances (code : String) (scan : Scan) (outcome : Outcome) : Prop :=
  ∀ next, outcome = .moved next →
    Stands code next ∧ scan.index < next.index ∧ next.index ≤ code.utf8ByteSize

theorem advances_ended (length : Nat) : Advances code scan (.ended length) :=
  fun _ h => by cases h

theorem advances_moved {next : Scan} (hStands : Stands code next)
    (hIndex : scan.index < next.index ∧ next.index ≤ code.utf8ByteSize) :
    Advances code scan (.moved next) := by
  rintro _ ⟨⟩
  exact ⟨hStands, hIndex⟩

/-- Behind a text the scan stands further to the right. -/
theorem advances_past {before text rest : List Char} (hText : text ≠ [])
    (h : code.toList = before ++ (text ++ rest)) (depth next : Nat) :
    Advances code ⟨byteLength before, depth⟩
      (.moved ⟨byteLength (before ++ text), next + 1⟩) := by
  have hLength := byteLength_pos hText
  rw [← List.append_assoc] at h
  refine advances_moved (.boundary h) ⟨?_, ?_⟩
  · show byteLength before < byteLength (before ++ text)
    rw [byteLength_append]
    omega
  · show byteLength (before ++ text) ≤ code.utf8ByteSize
    rw [utf8ByteSize_eq, h, byteLength_append (before ++ text)]
    omega

/-- From a place where a scan can stand it goes on to another, or ends. -/
theorem Stands.step (h : Stands code scan) :
    ∃ outcome, scan.step? code = some outcome ∧ Advances code scan outcome := by
  cases h with
  | @within before after c k depth h hLater hIndex =>
      exact ⟨_, step?_plain h hIndex (fun hk => absurd hk hLater) depth,
        advances_moved (.next_byte h hIndex depth)
          ⟨Nat.lt_succ_self _, lt_utf8ByteSize h hIndex⟩⟩
  | @boundary before after depth h =>
      rcases after with _ | ⟨c, after⟩
      · refine ⟨_, ?_, advances_ended code.utf8ByteSize⟩
        rw [List.append_nil] at h
        rw [← h, ← utf8ByteSize_eq]
        exact step?_end code (depth + 1)
      · cases hOpener : Opener.of? (c :: after) with
        | some opener =>
            obtain ⟨text, rest, hSplit, hHides⟩ := Opener.exists_hides hOpener
            rw [hSplit] at h
            exact ⟨_, step?_hides hHides h _, advances_past hHides.ne_nil h _ depth⟩
        | none =>
            by_cases hOpen : c = '\x7b'
            · subst hOpen
              exact ⟨_, step?_opening h depth, advances_past (List.cons_ne_nil _ []) h _ _⟩
            · by_cases hShut : c = '\x7d'
              · subst hShut
                have hStep := step?_closing h depth
                cases depth with
                | zero => exact ⟨_, hStep, advances_ended _⟩
                | succ depth =>
                    exact ⟨_, hStep, advances_past (List.cons_ne_nil _ []) h _ depth⟩
              · exact ⟨_, step?_plain h c.utf8Size_pos (fun _ => ⟨hOpener, hOpen, hShut⟩) depth,
                  advances_moved (.next_byte h c.utf8Size_pos depth)
                    ⟨Nat.lt_succ_self _, lt_utf8ByteSize h c.utf8Size_pos⟩⟩

/-- Wherever a scan comes to, it can stand there. -/
theorem Reaches.stands (h : Reaches code scan) : Stands code scan := by
  induction h with
  | start => exact stands_start code
  | step prior last ih =>
      obtain ⟨outcome, hStep, hAdvances⟩ := ih.step
      exact (hAdvances _ (Option.some.inj (hStep.symm.trans last))).1

/-- Where something opens, the scan stands before a text that is hidden. -/
theorem Stands.exists_hides {opener : Opener} (h : Stands code scan)
    (hOpener : scan.opener? code = some opener) :
    ∃ before text rest depth, scan = ⟨byteLength before, depth⟩ ∧
      code.toList = before ++ (text ++ rest) ∧ opener.Hides text rest := by
  cases h with
  | within h hLater hIndex =>
      rw [opener?_within h hIndex hLater] at hOpener
      cases hOpener
  | boundary h =>
      rw [opener?_eq h] at hOpener
      obtain ⟨text, rest, rfl, hHides⟩ := Opener.exists_hides hOpener
      exact ⟨_, text, rest, _, rfl, h, hHides⟩

/-- The text in which the end of a hidden text is looked for begins at a boundary. -/
theorem Stands.isBoundary_offset {opener : Opener} (h : Stands code scan)
    (hOpener : scan.opener? code = some opener) :
    IsBoundary code (scan.index + opener.offset) := by
  obtain ⟨before, text, rest, depth, rfl, h, hHides⟩ := h.exists_hides hOpener
  obtain ⟨opening, inside, rfl, hOffset, -⟩ := hHides.exists_inside
  refine isBoundary_iff.mpr ⟨before ++ opening, inside ++ rest, by simp [h], ?_⟩
  rw [byteLength_append, hOffset]

end Safety

end Scan

/-- A scan of the bytes is as good as reading the characters. It finds how long the code is that
they spell, and so where a block ends. On its way a brace is always open, each step goes forward,
and no text is looked at that begins within a character or past the end. -/
structure ScansAsRead (code : String) : Prop where
  finds : ∀ length, Scan.Finds code .start length ↔ length = codeLength 1 0 code.toList
  steps : ∀ scan, Scan.Reaches code scan → 0 < scan.depth ∧ scan.step? code ≠ none
  forward : ∀ scan next, Scan.Reaches code scan → scan.step? code = some (.moved next) →
    scan.index < next.index ∧ next.index ≤ code.utf8ByteSize
  boundary : ∀ scan opener, Scan.Reaches code scan → scan.opener? code = some opener →
    IsBoundary code (scan.index + opener.offset) ∧
      scan.index + opener.offset ≤ code.utf8ByteSize
  within : IsBoundary code (codeLength 1 0 code.toList) ∧
    codeLength 1 0 code.toList ≤ code.utf8ByteSize
  block : ∃ token rest, tokenize ("\x7b" ++ code) = token :: rest ∧ token.kind = .block ∧
    token.start = 0 ∧ token.stop = 1 + codeLength 1 0 code.toList

/-- All action code can be scanned by its bytes. -/
theorem scansAsRead (code : String) : ScansAsRead code := by
  obtain ⟨text, after, hText, hCode⟩ := exists_code 0 code.toList
  have hLength : codeLength 1 0 code.toList = byteLength text := by
    rw [hText, codeLength_code hCode Nat.one_ne_zero]
  have hWhole : code.toList = [] ++ (text ++ after) := hText
  have hFinds : Scan.Finds code .start (byteLength text) :=
    Scan.finds_code hCode Nat.one_ne_zero hWhole
  have hBoundary : IsBoundary code (byteLength text) := isBoundary_iff.mpr ⟨text, after, hText, rfl⟩
  refine ⟨?_, ?_, ?_, ?_, ?_, ?_⟩
  · intro length
    rw [hLength]
    constructor
    · exact fun h => h.unique hFinds
    · rintro rfl
      exact hFinds
  · intro scan hReaches
    obtain ⟨outcome, hStep, -⟩ := hReaches.stands.step
    exact ⟨hReaches.stands.depth_pos, by simp [hStep]⟩
  · intro scan next hReaches hStep
    obtain ⟨outcome, hStep', hAdvances⟩ := hReaches.stands.step
    exact (hAdvances next (Option.some.inj (hStep'.symm.trans hStep))).2
  · intro scan opener hReaches hOpener
    have hOffset := hReaches.stands.isBoundary_offset hOpener
    exact ⟨hOffset, hOffset.le⟩
  · rw [hLength]
    exact ⟨hBoundary, hBoundary.le⟩
  · have hBlock : Lexeme .block ('\x7b' :: text) after := .block hCode
    have hSource : ("\x7b" ++ code).toList = '\x7b' :: text ++ after := by
      rw [String.toList_append, hText]
      rfl
    have hTokens := tokensFrom_lexeme 0 1 hBlock
    rw [← hSource] at hTokens
    refine ⟨_, _, hTokens, rfl, rfl, ?_⟩
    show 0 + byteLength ('\x7b' :: text) = _
    rw [hLength, Nat.zero_add, byteLength_cons]
    rfl

end RuleOutline
