import Mathlib.Tactic.IntervalCases
import RuleOutline.Text.Quoted

/-! Quoted text, read back. What stands between quotes says by itself where each of its characters
ends and where the text does, so nothing that is quoted can be taken for anything else. -/
namespace RuleOutline.Text

open Unicode

section Digits

/-- The value of a digit in base sixteen, in lower case. -/
def hexValue (c : Char) : Nat :=
  if c.isDigit then c.toNat - '0'.toNat else c.toNat - 'a'.toNat + 10

/-- The number with more digits of base sixteen behind it. -/
def addHexDigits (number : Nat) (digits : List Char) : Nat :=
  digits.foldl (fun number c => 16 * number + hexValue c) number

variable {n : Nat} {c : Char}

theorem hexDigits_of_lt (h : n < 16) : hexDigits n = [n.digitChar] :=
  Nat.toDigits_of_lt_base h

theorem hexDigits_of_le (h : 16 ≤ n) :
    hexDigits n = hexDigits (n / 16) ++ [(n % 16).digitChar] :=
  Nat.toDigits_of_base_le (by decide) h

theorem hexValue_digitChar (h : n < 16) : hexValue n.digitChar = n := by
  interval_cases n <;> rfl

theorem exists_of_mem_hexDigits (h : c ∈ hexDigits n) : ∃ digit < 16, c = digit.digitChar := by
  induction n using Nat.strongRecOn with
  | ind n ih =>
      rcases Nat.lt_or_ge n 16 with hSmall | hLarge
      · rw [hexDigits_of_lt hSmall, List.mem_singleton] at h
        exact ⟨n, hSmall, h⟩
      · rw [hexDigits_of_le hLarge, List.mem_append, List.mem_singleton] at h
        rcases h with hFront | hLast
        · exact ih (n / 16) (by omega) hFront
        · exact ⟨n % 16, Nat.mod_lt n (by decide), hLast⟩

theorem addHexDigits_concat (number : Nat) (digits : List Char) (c : Char) :
    addHexDigits number (digits ++ [c]) = 16 * addHexDigits number digits + hexValue c := by
  simp [addHexDigits]

/-- Digits are read as the number that they are the digits of. -/
theorem addHexDigits_hexDigits (n : Nat) : addHexDigits 0 (hexDigits n) = n := by
  induction n using Nat.strongRecOn with
  | ind n ih =>
      rcases Nat.lt_or_ge n 16 with hSmall | hLarge
      · rw [hexDigits_of_lt hSmall, ← List.nil_append [n.digitChar], addHexDigits_concat,
          hexValue_digitChar hSmall]
        exact Nat.zero_add n
      · rw [hexDigits_of_le hLarge, addHexDigits_concat, ih (n / 16) (by omega),
          hexValue_digitChar (Nat.mod_lt n (by decide)), Nat.div_add_mod]

end Digits

section Forms

/-- The letters of short escapes, each with the character that it stands for. -/
def shortEscapes : List (Char × Char) :=
  [('0', '\x00'), ('t', '\t'), ('r', '\r'), ('n', '\n'), ('"', '"'), ('\\', '\\')]

/-- How a character can be written between quotes: as itself, by a letter behind a backslash, or by
its code point in braces. -/
inductive WrittenAs (c : Char) : List Char → Prop where
  | plain (hVisible : isVisible c = true) (hQuote : c ≠ '"') (hBackslash : c ≠ '\\') :
      WrittenAs c [c]
  | short {letter : Char} (hShort : (letter, c) ∈ shortEscapes) : WrittenAs c ['\\', letter]
  | code : WrittenAs c ('\\' :: 'u' :: '\x7b' :: (hexDigits c.toNat ++ ['\x7d']))

theorem writtenAs_escapeChar (c : Char) : WrittenAs c (escapeChar c) := by
  unfold escapeChar
  split
  case h_7 hQuote hBackslash =>
    split
    next hVisible => exact .plain hVisible hQuote hBackslash
    next => exact .code
  all_goals exact .short (by decide)

end Forms

section Visible

variable {c d : Char}

theorem isVisible_of_toNat (hLeast : 0x20 ≤ c.toNat) (hMost : c.toNat ≤ 0x7E) :
    isVisible c = true := by
  rw [isVisible, if_pos (by omega), Bool.and_eq_true, decide_eq_true_eq, decide_eq_true_eq]
  exact ⟨hLeast, hMost⟩

theorem isVisible_of_mem_hexDigits {n : Nat} (h : c ∈ hexDigits n) : isVisible c = true := by
  obtain ⟨digit, hDigit, rfl⟩ := exists_of_mem_hexDigits h
  interval_cases digit <;> rfl

theorem isVisible_of_mem_escapeChar (h : d ∈ escapeChar c) : isVisible d = true := by
  have hWritten := writtenAs_escapeChar c
  generalize escapeChar c = written at h hWritten
  cases hWritten with
  | plain hVisible _ _ => rwa [List.mem_singleton.mp h]
  | @short letter hShort =>
      have hLetters : ∀ pair ∈ shortEscapes, isVisible pair.1 = true := by decide
      rw [List.mem_cons, List.mem_singleton] at h
      rcases h with rfl | rfl
      · rfl
      · exact hLetters _ hShort
  | code =>
      simp only [List.mem_cons, List.mem_append, List.not_mem_nil, or_false] at h
      rcases h with rfl | rfl | rfl | hDigit | rfl
      · rfl
      · rfl
      · rfl
      · exact isVisible_of_mem_hexDigits hDigit
      · rfl

/-- Quoted text has only characters that are shown as themselves. -/
theorem isVisible_of_mem_quoted {s : String} (h : d ∈ (quoted s).toList) : isVisible d = true := by
  simp only [quoted, String.toList_ofList, List.mem_cons, List.mem_append, List.mem_flatMap,
    List.not_mem_nil, or_false] at h
  rcases h with rfl | ⟨c, -, hChar⟩ | rfl
  · rfl
  · exact isVisible_of_mem_escapeChar hChar
  · rfl

end Visible

section Read

/-- The character that a letter behind a backslash stands for. -/
def unescaped (letter : Char) : Char :=
  (shortEscapes.lookup letter).getD letter

/-- Reads a text from behind its opening quote, up to and with its closing one. Within the braces of
an escape `code` is the number read so far. -/
def readBody? : Option Nat → List Char → Option (List Char × List Char)
  | none, '"' :: cs => some ([], cs)
  | none, '\\' :: 'u' :: '\x7b' :: cs => readBody? (some 0) cs
  | none, '\\' :: c :: cs => (readBody? none cs).map fun (text, rest) => (unescaped c :: text, rest)
  | none, c :: cs => (readBody? none cs).map fun (text, rest) => (c :: text, rest)
  | some code, '\x7d' :: cs =>
    (readBody? none cs).map fun (text, rest) => (Char.ofNat code :: text, rest)
  | some code, c :: cs => readBody? (some (16 * code + hexValue c)) cs
  | _, [] => none

/-- Reads a quoted text, and gives what follows it. -/
def readQuoted? : List Char → Option (String × List Char)
  | '"' :: cs => (readBody? none cs).map fun (text, rest) => (.ofList text, rest)
  | _ => none

theorem readBody?_digits {digits : List Char} (h : '\x7d' ∉ digits) (code : Nat)
    (cs : List Char) :
    readBody? (some code) (digits ++ '\x7d' :: cs) =
      (readBody? none cs).map fun (text, rest) =>
        (Char.ofNat (addHexDigits code digits) :: text, rest) := by
  induction digits generalizing code with
  | nil => rfl
  | cons c digits ih =>
      rw [List.mem_cons, not_or] at h
      rw [List.cons_append, readBody?, ih h.2]
      · rfl
      · exact fun hBrace => h.1 hBrace.symm

/-- What is written for a character is read as this character, whatever follows it. -/
theorem WrittenAs.readBody?_append {c : Char} {written : List Char} (h : WrittenAs c written)
    (cs : List Char) :
    readBody? none (written ++ cs) =
      (readBody? none cs).map fun (text, rest) => (c :: text, rest) := by
  cases h with
  | plain _ hQuote hBackslash =>
      rw [List.singleton_append, readBody?]
      · exact hQuote
      · exact fun _ hEscape => absurd hEscape hBackslash
      · exact fun _ _ hEscape => absurd hEscape hBackslash
  | @short letter hShort =>
      have hLetters : ∀ pair ∈ shortEscapes, unescaped pair.1 = pair.2 ∧ pair.1 ≠ 'u' := by decide
      obtain ⟨hMeant, hLetter⟩ := hLetters _ hShort
      rw [List.cons_append, List.singleton_append, readBody?, hMeant]
      exact fun _ hBrace => absurd hBrace hLetter
  | code =>
      have hBrace : '\x7d' ∉ hexDigits c.toNat := by
        intro hMem
        obtain ⟨digit, hDigit, hSame⟩ := exists_of_mem_hexDigits hMem
        revert hSame
        interval_cases digit <;> decide
      have hRead := readBody?_digits hBrace 0 cs
      rw [addHexDigits_hexDigits, Char.ofNat_toNat] at hRead
      simpa [readBody?] using hRead

theorem readBody?_flatMap (text rest : List Char) :
    readBody? none (text.flatMap escapeChar ++ '"' :: rest) = some (text, rest) := by
  induction text with
  | nil => rfl
  | cons c text ih =>
      rw [List.flatMap_cons, List.append_assoc, (writtenAs_escapeChar c).readBody?_append, ih]
      rfl

/-- A quoted text is read as itself, whatever follows it. -/
theorem readQuoted?_quoted (s : String) (rest : List Char) :
    readQuoted? ((quoted s).toList ++ rest) = some (s, rest) := by
  have hText : (quoted s).toList ++ rest =
      '"' :: (s.toList.flatMap escapeChar ++ '"' :: rest) := by
    simp [quoted]
  rw [hText, readQuoted?, readBody?_flatMap, Option.map_some]
  simp only [String.ofList_toList]

end Read

end RuleOutline.Text
