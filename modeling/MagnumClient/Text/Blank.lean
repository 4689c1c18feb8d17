/-
MagnumClient.Text.Blank — blank characters, line ends and trimming.

One set of blank characters serves the whole library: configuration values,
lines of an RC file and texts read as numbers are trimmed of the Unicode space
separators, the byte order mark, the ASCII controls from tab to carriage return
and the two Unicode line separators. NEL (U+0085) and the zero-width space
(U+200B) are not blank.

`trimChars` is stated on lists of characters, where `List.dropWhile` lemmas
apply; `trim` is the same on `String`.
-/

namespace MagnumClient.Text

/-- The characters that trimming removes. -/
def isBlank (c : Char) : Bool :=
  let v := c.toNat
  (0x9 ≤ v && v ≤ 0xD) || v == 0x20 || v == 0xA0 || v == 0x1680 ||
    (0x2000 ≤ v && v ≤ 0x200A) || v == 0x2028 || v == 0x2029 || v == 0x202F ||
    v == 0x205F || v == 0x3000 || v == 0xFEFF

/-- The characters that end a line. -/
def isLineEnd (c : Char) : Bool :=
  c == '\n' || c == '\r' || c == '\u2028' || c == '\u2029'

/-- Drops trailing blank characters. -/
def trimEndChars (cs : List Char) : List Char := (cs.reverse.dropWhile isBlank).reverse

/-- Drops blank characters at both ends. -/
def trimChars (cs : List Char) : List Char := trimEndChars (cs.dropWhile isBlank)

/-- The text without blank characters at its ends. -/
def trim (s : String) : String := String.ofList (trimChars s.toList)

/-- Nothing but blank characters. -/
def isAllBlank (s : String) : Bool := s.toList.all isBlank

/-! ## Equations -/

/-- Dropping stops at a character that stays, wherever it stands. -/
theorem dropWhile_append_cons {p : Char → Bool} {c : Char} (hc : p c = false)
    (xs ys : List Char) : (xs ++ c :: ys).dropWhile p = xs.dropWhile p ++ c :: ys := by
  rw [List.dropWhile_append, List.dropWhile_cons_of_neg (by simp [hc])]
  split <;> rename_i h
  · rw [List.isEmpty_iff.mp h, List.nil_append]
  · rfl

@[simp] theorem trimChars_nil : trimChars [] = [] := rfl

/-- A line end is blank. -/
theorem isBlank_of_isLineEnd {c : Char} (h : isLineEnd c = true) : isBlank c = true := by
  simp only [isLineEnd, Bool.or_eq_true, beq_iff_eq] at h
  rcases h with ((rfl | rfl) | rfl) | rfl <;> decide

/-- Characters that are all blank trim to nothing. -/
theorem trimChars_of_all {cs : List Char} (h : cs.all isBlank = true) : trimChars cs = [] := by
  have : cs.dropWhile isBlank = [] := by
    induction cs with
    | nil => rfl
    | cons c cs ih =>
      simp only [List.all_cons, Bool.and_eq_true] at h
      simp [List.dropWhile, h.1, ih h.2]
  simp [trimChars, trimEndChars, this]

end MagnumClient.Text
