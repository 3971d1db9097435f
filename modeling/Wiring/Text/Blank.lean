/-!
# Text · Blanks and trimming

The characters that count as blank (the Unicode property `White_Space`), and the trimming of a text
at its start, at its end and at both. Everything is defined on lists of characters; `trim` is the
version for strings. Main statements: trimming the start leaves a suffix (`trimStart_isSuffix`) that
begins with no blank (`isBlank_of_mem_head?_trimStart`), and a second trimming changes nothing
(`trimStart_trimStart`).
-/

namespace Wiring.Text

/-! ## The character class -/

/-- The ranges of code points that have the Unicode property `White_Space`. -/
def blankRanges : List (Nat × Nat) :=
  [(0x0009, 0x000D), (0x0020, 0x0020), (0x0085, 0x0085), (0x00A0, 0x00A0), (0x1680, 0x1680),
    (0x2000, 0x200A), (0x2028, 0x2029), (0x202F, 0x202F), (0x205F, 0x205F), (0x3000, 0x3000)]

/-- A character is blank when its code point lies in one of `blankRanges`. -/
def isBlank (c : Char) : Bool :=
  blankRanges.any fun range => range.1 ≤ c.toNat && c.toNat ≤ range.2

/-! ## Trimming -/

/-- The list without its leading blanks. -/
def trimStart (cs : List Char) : List Char :=
  cs.dropWhile isBlank

/-- The list without its trailing blanks. -/
def trimEnd (cs : List Char) : List Char :=
  (cs.reverse.dropWhile isBlank).reverse

/-- The list without its leading and trailing blanks. -/
def trimChars (cs : List Char) : List Char :=
  trimEnd (trimStart cs)

/-- The text without its leading and trailing blanks. -/
def trim (text : String) : String :=
  .ofList (trimChars text.toList)

/-- A text of blanks only, the empty text included. -/
def isBlankText (text : String) : Bool :=
  text.toList.all isBlank

/-- The text with the ASCII capitals replaced by small letters. -/
def asciiLower (text : String) : String :=
  .ofList (text.toList.map Char.toLower)

/-! ## Laws -/

/-- To trim a text is to trim its characters. -/
@[simp] theorem toList_trim (text : String) : (trim text).toList = trimChars text.toList := by
  simp [trim]

/-- What is left without the leading blanks is the end of the text. -/
theorem trimStart_isSuffix (cs : List Char) : trimStart cs <:+ cs :=
  List.dropWhile_suffix _

/-- What is left after trimming the start begins with no blank. -/
theorem isBlank_of_mem_head?_trimStart {cs : List Char} {c : Char}
    (h : c ∈ (trimStart cs).head?) : isBlank c = false := by
  induction cs with
  | nil => simp [trimStart] at h
  | cons d cs ih =>
    by_cases hd : isBlank d
    · exact ih (by simpa [trimStart, hd] using h)
    · have : d = c := by simpa [trimStart, hd] using h
      simpa [← this] using hd

/-- A list that begins with no blank is left alone by `trimStart`. -/
theorem trimStart_eq_self {cs : List Char} (h : ∀ c ∈ cs.head?, isBlank c = false) :
    trimStart cs = cs := by
  cases cs with
  | nil => rfl
  | cons c cs => simp [trimStart, h c (by simp)]

/-- Leading blanks are dropped at once. -/
@[simp] theorem trimStart_trimStart (cs : List Char) :
    trimStart (trimStart cs) = trimStart cs :=
  trimStart_eq_self fun _ h => isBlank_of_mem_head?_trimStart h

end Wiring.Text
