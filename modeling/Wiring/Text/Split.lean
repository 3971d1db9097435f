/-!
# Text · Splitting and lines

Splitting a list of characters at the characters of a class, and reading a text as lines. A line
ends at a line feed; a carriage return just before that line feed belongs to the line end. The text
after the last line feed is a line of its own when it is not empty, and keeps a carriage return at
its end. `splitAt_ne_nil` and `intercalate_splitAt` say that splitting loses nothing,
`splitAt_intercalate` that it finds the pieces that were joined.
-/

namespace Wiring.Text

/-! ## Splitting -/

/-- Adds a character in front of the first piece. -/
def consPiece (c : Char) : List (List Char) → List (List Char)
  | [] => [[c]]
  | piece :: pieces => (c :: piece) :: pieces

/-- The pieces between the characters of the class `p`, empty pieces included. -/
def splitAt (p : Char → Bool) : List Char → List (List Char)
  | [] => [[]]
  | c :: cs => if p c then [] :: splitAt p cs else consPiece c (splitAt p cs)

/-- The pieces of a text between the characters of the class `p`. -/
def split (p : Char → Bool) (text : String) : List String :=
  (splitAt p text.toList).map .ofList

/-- The two parts around the first occurrence of a character, if there is one. -/
def splitOnce (sep : Char) : List Char → Option (List Char × List Char)
  | [] => none
  | c :: cs =>
    if c = sep then some ([], cs)
    else (splitOnce sep cs).map fun parts => (c :: parts.1, parts.2)

/-! ## Lines -/

/-- A line without the carriage return that precedes its line feed. -/
def dropReturn (line : List Char) : List Char :=
  if line.getLast? = some '\r' then line.dropLast else line

/-- Reads the pieces between line feeds as lines. -/
def linesOfPieces : List (List Char) → List (List Char)
  | [] => []
  | [last] => if last.isEmpty then [] else [last]
  | piece :: pieces => dropReturn piece :: linesOfPieces pieces

/-- The lines of a text, without their ends. -/
def lines (cs : List Char) : List (List Char) :=
  linesOfPieces (splitAt (· == '\n') cs)

/-! ## Laws -/

/-- There is always a first part, however empty. -/
theorem splitAt_ne_nil (p : Char → Bool) (cs : List Char) : splitAt p cs ≠ [] := by
  cases cs with
  | nil => simp [splitAt]
  | cons c cs =>
    by_cases h : p c
    · simp [splitAt, h]
    · cases hs : splitAt p cs <;> simp [splitAt, h, hs, consPiece]

/-- A text without a character of the class is one piece. -/
theorem splitAt_eq_singleton {p : Char → Bool} {cs : List Char} (h : ∀ c ∈ cs, p c = false) :
    splitAt p cs = [cs] := by
  induction cs with
  | nil => rfl
  | cons c cs ih =>
    have hc : p c = false := h c (by simp)
    simp [splitAt, hc, ih fun d hd => h d (by simp [hd]), consPiece]

/-- The first separator ends the first piece. -/
theorem splitAt_append_cons {p : Char → Bool} {front : List Char} {sep : Char}
    (hfront : ∀ c ∈ front, p c = false) (hsep : p sep = true) (rest : List Char) :
    splitAt p (front ++ sep :: rest) = front :: splitAt p rest := by
  induction front with
  | nil => simp [splitAt, hsep]
  | cons c front ih =>
    have hc : p c = false := hfront c (by simp)
    simp [splitAt, hc, ih fun d hd => hfront d (by simp [hd]), consPiece]

/-- No piece holds a character of the class. -/
theorem not_mem_of_mem_splitAt {p : Char → Bool} {cs piece : List Char}
    (h : piece ∈ splitAt p cs) : ∀ c ∈ piece, p c = false := by
  induction cs generalizing piece with
  | nil => simp_all [splitAt]
  | cons d cs ih =>
    by_cases hd : p d
    · rcases (by simpa [splitAt, hd] using h) with rfl | h
      · simp
      · exact ih h
    · cases hs : splitAt p cs with
      | nil => exact absurd hs (splitAt_ne_nil p cs)
      | cons first rest =>
        have hfirst : first ∈ splitAt p cs := by simp [hs]
        rcases (by simpa [splitAt, hd, hs, consPiece] using h) with rfl | h
        · intro c hc
          rcases List.mem_cons.1 hc with rfl | hc
          · simpa using hd
          · exact ih hfirst c hc
        · exact ih (by simp [hs, h])

/-- The first part stands in front of the first separator. -/
theorem intercalate_cons_cons (sep : Char) (first second : List Char) (rest : List (List Char)) :
    [sep].intercalate (first :: second :: rest) =
      first ++ sep :: [sep].intercalate (second :: rest) := by
  simp [List.intercalate, List.intersperse]

/-- Pieces that hold no separator are found again when one stands between them. -/
theorem splitAt_intercalate {sep : Char} {pieces : List (List Char)} (hne : pieces ≠ [])
    (h : ∀ piece ∈ pieces, sep ∉ piece) :
    splitAt (· == sep) ([sep].intercalate pieces) = pieces := by
  have hnone {piece : List Char} (hpiece : piece ∈ pieces) : ∀ c ∈ piece, (c == sep) = false :=
    fun c hc => beq_eq_false_iff_ne.2 fun heq => h piece hpiece (heq ▸ hc)
  induction pieces with
  | nil => exact absurd rfl hne
  | cons first pieces ih =>
    cases pieces with
    | nil =>
      have hone : [sep].intercalate [first] = first := by simp [List.intercalate]
      rw [hone, splitAt_eq_singleton (hnone (by simp))]
    | cons second rest =>
      rw [intercalate_cons_cons, splitAt_append_cons (hnone (by simp)) BEq.rfl,
        ih (by simp) (fun piece hpiece => h piece (by simp [hpiece]))
          fun hpiece => hnone (by simp [hpiece])]

/-- Putting one separator back between the pieces gives the text again. -/
theorem intercalate_splitAt (sep : Char) (cs : List Char) :
    [sep].intercalate (splitAt (· == sep) cs) = cs := by
  induction cs with
  | nil => rfl
  | cons c cs ih =>
    cases hs : splitAt (· == sep) cs with
    | nil => exact absurd hs (splitAt_ne_nil _ cs)
    | cons first rest =>
      by_cases hc : c = sep
      · subst hc
        simp only [splitAt, BEq.rfl, if_true, hs]
        rw [hs] at ih
        rw [← ih]
        simp [List.intercalate, List.intersperse]
      · rw [hs] at ih
        have : (c == sep) = false := by simpa using hc
        simp only [splitAt, this, hs, consPiece]
        rw [← ih]
        cases rest <;> simp [List.intercalate, List.intersperse]

end Wiring.Text
