import Wiring.Properties.Text

/-!
# Properties · The written form of a key and of a value

What `escapeKey` and `escapeValue` write is taken apart again by the reader's own pieces. Everything
follows from one inversion (`escapeChar_cases`): a character is written as itself, or as a backslash
and one more character that is no `u` and stands for it. Main statements: `unescape_escapeKey` and
`unescape_escapeValue` (reading undoes writing), `splitEntry_writeEntry` (a written entry is split
where it was joined), `not_continues_writeEntry` (a written entry ends its line), all of which
`writtenLine_takenApart` puts together, and `trimStart_writeEntry`, which says what dropping the
blanks in front of a line does to a written key: the blanks that are written without an escape
(`isBareBlank`) are lost.
-/

namespace Wiring.Properties

/-! ## One character -/

/-- A blank that is written as itself in a key: any blank but the space, the tab, the two characters
that end lines, and the form feed. -/
def isBareBlank (c : Char) : Bool :=
  Text.isBlank c && !(c == ' ' || c == '\t' || c == '\n' || c == '\r' || c == '\x0c')

/-- The characters that are never written as themselves. -/
def isMarked (c : Char) : Bool :=
  ['\\', '\t', '\n', '\r', '\x0c', '=', ':', '#', '!'].contains c

/-- **How a character is written**: behind a backslash, as a character that stands for it, or as
itself, and then it is none of the marked ones and no space where spaces are escaped. -/
theorem escapeChar_cases (spaces : Bool) (c : Char) :
    (∃ d, escapeChar spaces c = ['\\', d] ∧ unescapeChar d = c ∧
        d ≠ 'u' ∧ d ≠ '\n' ∧ d ≠ '\r' ∧ (d = '\\' ↔ c = '\\') ∧ (c = ' ' ∨ isMarked c)) ∨
      (escapeChar spaces c = [c] ∧ isMarked c = false ∧ (c = ' ' → spaces = false)) := by
  by_cases hmarked : isMarked c
  · left
    have hc : c ∈ ['\\', '\t', '\n', '\r', '\x0c', '=', ':', '#', '!'] := by
      simpa [isMarked] using hmarked
    simp only [List.mem_cons, List.not_mem_nil, or_false] at hc
    rcases hc with rfl | rfl | rfl | rfl | rfl | rfl | rfl | rfl | rfl <;>
      exact ⟨_, rfl, by decide⟩
  · have hplain : isMarked c = false := by simpa using hmarked
    have hne : c ≠ '\\' ∧ c ≠ '\t' ∧ c ≠ '\n' ∧ c ≠ '\r' ∧ c ≠ '\x0c' ∧ c ≠ '=' ∧ c ≠ ':' ∧
        c ≠ '#' ∧ c ≠ '!' := by
      simpa [isMarked] using hmarked
    by_cases hspace : c = ' '
    · subst hspace
      cases spaces with
      | true => exact .inl ⟨' ', rfl, by decide⟩
      | false => exact .inr ⟨rfl, by decide, fun _ => rfl⟩
    · right
      refine ⟨?_, hplain, fun h => absurd h hspace⟩
      simp [escapeChar, hne, hspace]

/-! ## Reading undoes writing -/

/-- A backslash is read together with the character that it escapes. -/
theorem unescape_backslash {d : Char} (h : d ≠ 'u') (cs : List Char) :
    unescape ('\\' :: d :: cs) = (unescape cs).map (unescapeChar d :: ·) := by
  simp [unescape, h]

/-- A character that is no backslash is read as it is. -/
theorem unescape_cons {c : Char} (h : c ≠ '\\') (cs : List Char) :
    unescape (c :: cs) = (unescape cs).map (c :: ·) := by
  rw [unescape.eq_def]
  split <;> simp_all

/-- Reading undoes the writing of one character. -/
theorem unescape_escapeChar_append (spaces : Bool) (c : Char) (cs : List Char) :
    unescape (escapeChar spaces c ++ cs) = (unescape cs).map (c :: ·) := by
  rcases escapeChar_cases spaces c with ⟨d, hd, hc, hu, -⟩ | ⟨hc, hplain, -⟩
  · simp only [hd, List.cons_append, List.nil_append, unescape_backslash hu, hc]
  · have hne : c ≠ '\\' := by rintro rfl; exact absurd hplain (by decide)
    simp only [hc, List.cons_append, List.nil_append, unescape_cons hne]

/-- Characters that are escaped one by one are read back. -/
theorem unescape_flatMap_escapeChar (spaces : Bool) (cs : List Char) :
    unescape (cs.flatMap (escapeChar spaces)) = .ok cs := by
  induction cs with
  | nil => rfl
  | cons c cs ih =>
    rw [List.flatMap_cons, unescape_escapeChar_append, ih]
    rfl

/-- **Reading a written key gives the key.** -/
theorem unescape_escapeKey (key : List Char) : unescape (escapeKey key) = .ok key :=
  unescape_flatMap_escapeChar true key

/-- **Reading a written value gives the value.** -/
theorem unescape_escapeValue (value : List Char) : unescape (escapeValue value) = .ok value := by
  cases value with
  | nil => rfl
  | cons c cs =>
    rw [escapeValue, unescape_escapeChar_append, unescape_flatMap_escapeChar]
    rfl

/-! ## A written entry is split where it was joined -/

/-- A character that is no backslash ends the key, or belongs to it. -/
theorem splitKey_cons {c : Char} (h : c ≠ '\\') (cs : List Char) :
    splitKey (c :: cs) =
      if isAssign c || isGap c then ([], c :: cs)
      else (c :: (splitKey cs).1, (splitKey cs).2) := by
  rw [splitKey.eq_def]
  split <;> simp_all

/-- A written key is passed as a whole up to the sign that follows it. -/
theorem splitKey_escapeKey_append (key rest : List Char) :
    splitKey (escapeKey key ++ '=' :: rest) = (escapeKey key, '=' :: rest) := by
  induction key with
  | nil => rfl
  | cons c key ih =>
    rw [escapeKey, List.flatMap_cons, ← escapeKey, List.append_assoc]
    rcases escapeChar_cases true c with ⟨d, hd, -⟩ | ⟨hc, hplain, hspace⟩
    · rw [hd]
      simp only [List.cons_append, List.nil_append, splitKey, ih]
    · have hne : c ≠ '\\' := by rintro rfl; exact absurd hplain (by decide)
      have hsep : (isAssign c || isGap c) = false := by
        have hnot : c ≠ ' ' := fun h => absurd (hspace h) (by decide)
        simp [isMarked] at hplain
        simp [isAssign, isGap, hplain, hnot]
      simp only [hc, List.cons_append, List.nil_append, splitKey_cons hne, hsep, ih]
      rfl

/-- A written value begins with no gap. -/
theorem dropWhile_isGap_escapeValue (value : List Char) :
    (escapeValue value).dropWhile isGap = escapeValue value := by
  cases value with
  | nil => rfl
  | cons c cs =>
    rw [escapeValue]
    rcases escapeChar_cases true c with ⟨d, hd, -⟩ | ⟨hc, hplain, hspace⟩
    · rw [hd]
      rfl
    · have hgap : isGap c = false := by
        have hnot : c ≠ ' ' := fun h => absurd (hspace h) (by decide)
        simp [isMarked] at hplain
        simp [isGap, hplain, hnot]
      simp [hc, hgap]

/-- **A written entry is split where it was joined.** -/
theorem splitEntry_writeEntry (entry : String × String) :
    splitEntry (writeEntry entry) = (escapeKey entry.1.toList, escapeValue entry.2.toList) := by
  rw [splitEntry, writeEntry, splitKey_escapeKey_append]
  have hgap : isGap '=' = false := by decide
  have hassign : isAssign '=' = true := by decide
  simp [skipSeparators, hgap, hassign, dropWhile_isGap_escapeValue]

/-! ## A written entry ends its line -/

/-- A line goes on exactly if it ends in a backslash that those in front do not escape. -/
theorem continues_append_singleton (cs : List Char) (c : Char) :
    continues (cs ++ [c]) = (if c = '\\' then !continues cs else false) := by
  by_cases h : c = '\\'
  · subst h
    simp only [continues, trailingBackslashes, List.reverse_append, List.reverse_singleton,
      List.singleton_append, List.takeWhile_cons, beq_self_eq_true, if_true, List.length_cons]
    generalize (cs.reverse.takeWhile (· == '\\')).length = n
    rcases Nat.mod_two_eq_zero_or_one n with hn | hn <;> simp [Nat.add_mod, hn]
  · simp [continues, trailingBackslashes, h]

/-- A written character never leaves a backslash open. -/
theorem not_continues_append_escapeChar (spaces : Bool) (c : Char) {cs : List Char}
    (h : continues cs = false) : continues (cs ++ escapeChar spaces c) = false := by
  rcases escapeChar_cases spaces c with ⟨d, hd, -⟩ | ⟨hc, hplain, -⟩
  · have hsplit : cs ++ ['\\', d] = (cs ++ ['\\']) ++ [d] := by simp
    rw [hd, hsplit, continues_append_singleton, continues_append_singleton, h]
    simp
  · have hne : c ≠ '\\' := by rintro rfl; exact absurd hplain (by decide)
    simp [hc, continues_append_singleton, hne]

/-- Escaped characters leave no backslash open that was not open before. -/
theorem not_continues_append_flatMap (spaces : Bool) (value : List Char) {cs : List Char}
    (h : continues cs = false) :
    continues (cs ++ value.flatMap (escapeChar spaces)) = false := by
  induction value generalizing cs with
  | nil => simpa using h
  | cons c value ih =>
    rw [List.flatMap_cons, ← List.append_assoc]
    exact ih (not_continues_append_escapeChar spaces c h)

/-- An escaped value leaves no backslash open that was not open before. -/
theorem not_continues_append_escapeValue (value : List Char) {cs : List Char}
    (h : continues cs = false) : continues (cs ++ escapeValue value) = false := by
  cases value with
  | nil => simpa [escapeValue] using h
  | cons c value =>
    rw [escapeValue, ← List.append_assoc]
    exact not_continues_append_flatMap _ _ (not_continues_append_escapeChar _ _ h)

/-- **A written entry ends its line**: it does not go on in the next one. -/
theorem not_continues_writeEntry (entry : String × String) :
    continues (writeEntry entry) = false := by
  have hsplit : writeEntry entry =
      (escapeKey entry.1.toList ++ ['=']) ++ escapeValue entry.2.toList := by
    simp [writeEntry]
  rw [hsplit]
  exact not_continues_append_escapeValue _ (by simp [continues_append_singleton])

/-! ## A written entry stays on one line -/

/-- No line end is left in an escaped character. -/
theorem not_mem_escapeChar {spaces : Bool} {c end_ : Char}
    (hend : end_ = '\n' ∨ end_ = '\r') : end_ ∉ escapeChar spaces c := by
  rcases escapeChar_cases spaces c with ⟨d, hd, -, -, hn, hr, -⟩ | ⟨hc, hplain, -⟩
  · rcases hend with rfl | rfl <;> simp [hd, Ne.symm hn, Ne.symm hr]
  · rw [hc, List.mem_singleton]
    rintro rfl
    rcases hend with rfl | rfl <;> exact absurd hplain (by decide)

/-- **A written entry holds no character that ends a line.** -/
theorem not_mem_writeEntry (entry : String × String) {c : Char} (hc : c = '\n' ∨ c = '\r') :
    c ∉ writeEntry entry := by
  have hmap (spaces : Bool) (cs : List Char) : c ∉ cs.flatMap (escapeChar spaces) := by
    simp [not_mem_escapeChar hc]
  have hvalue : c ∉ escapeValue entry.2.toList := by
    cases entry.2.toList with
    | nil => simp [escapeValue]
    | cons d cs =>
      rw [escapeValue, List.mem_append, not_or]
      exact ⟨not_mem_escapeChar hc, hmap false cs⟩
  have hassign : c ≠ '=' := by rcases hc with rfl | rfl <;> decide
  simp only [writeEntry, List.mem_append, List.mem_cons, not_or]
  exact ⟨hmap true _, hassign, hvalue⟩

/-! ## What stands in front of a written entry -/

/-- The first character of a written entry marks no comment. -/
theorem isSkipped_writeEntry (entry : String × String) : isSkipped (writeEntry entry) = false := by
  rw [writeEntry]
  cases entry.1.toList with
  | nil => rfl
  | cons c cs =>
    rw [escapeKey, List.flatMap_cons]
    rcases escapeChar_cases true c with ⟨d, hd, -⟩ | ⟨hc, hplain, -⟩
    · rw [hd]
      rfl
    · simp [isMarked] at hplain
      simp [hc, isSkipped, hplain]

/-- A line that holds something begins with no mark of a comment. -/
theorem head?_ne_of_not_isSkipped {line : List Char} (h : isSkipped line = false) :
    line.head? ≠ some '#' ∧ line.head? ≠ some '!' := by
  cases line with
  | nil => exact ⟨nofun, nofun⟩
  | cons c cs => simpa [isSkipped] using h

/-! ## A written line as a whole -/

/-- **A written line is taken apart again**, whatever the key and the value. It holds no character
that ends lines, ends in an even number of backslashes and begins with no mark of a comment; it is
split into the written key and the written value, and reading these gives the key and the value. -/
theorem writtenLine_takenApart (key value : String) :
    let line := escapeKey key.toList ++ '=' :: escapeValue value.toList
    ('\n' ∉ line ∧ '\r' ∉ line) ∧ trailingBackslashes line % 2 = 0 ∧
      (line.head? ≠ some '#' ∧ line.head? ≠ some '!') ∧
      splitEntry line = (escapeKey key.toList, escapeValue value.toList) ∧
      unescape (escapeKey key.toList) = .ok key.toList ∧
      unescape (escapeValue value.toList) = .ok value.toList := by
  intro line
  have hline : line = writeEntry (key, value) := rfl
  have heven : trailingBackslashes line % 2 ≠ 1 := by
    simpa [continues, hline] using not_continues_writeEntry (key, value)
  refine ⟨⟨?_, ?_⟩, by omega, ?_, ?_, unescape_escapeKey _, unescape_escapeValue _⟩
  · exact hline ▸ not_mem_writeEntry (key, value) (.inl rfl)
  · exact hline ▸ not_mem_writeEntry (key, value) (.inr rfl)
  · exact head?_ne_of_not_isSkipped (hline ▸ isSkipped_writeEntry (key, value))
  · exact hline ▸ splitEntry_writeEntry (key, value)

/-! ## What dropping blanks does to a written entry -/

/-- A character is blank and yet first in its written form exactly when it is a bare blank. -/
theorem trimStart_escapeChar_append (c : Char) (cs : List Char) :
    Text.trimStart (escapeChar true c ++ cs) =
      if isBareBlank c then Text.trimStart cs else escapeChar true c ++ cs := by
  rcases escapeChar_cases true c with ⟨d, hd, -, -, -, -, -, hc⟩ | ⟨hc, hplain, hspace⟩
  · have hbare : isBareBlank c = false := by
      rcases hc with rfl | hmarked
      · rfl
      · have hmem : c ∈ ['\\', '\t', '\n', '\r', '\x0c', '=', ':', '#', '!'] := by
          simpa [isMarked] using hmarked
        simp only [List.mem_cons, List.not_mem_nil, or_false] at hmem
        rcases hmem with rfl | rfl | rfl | rfl | rfl | rfl | rfl | rfl | rfl <;> decide
    have hblank : Text.isBlank '\\' = false := by decide
    simp [hd, hbare, Text.trimStart, hblank]
  · have hbare : isBareBlank c = Text.isBlank c := by
      have hnot : c ≠ ' ' := fun h => absurd (hspace h) (by decide)
      simp [isMarked] at hplain
      simp [isBareBlank, hplain, hnot]
    rw [hc, hbare]
    simp [Text.trimStart, List.dropWhile_cons]

/-- A key without the bare blanks it begins with. -/
def dropBareBlanks (key : String) : String :=
  .ofList (key.toList.dropWhile isBareBlank)

/-- **What is lost of a written entry** when the blanks in front of its line are dropped: the bare
blanks that its key begins with. -/
theorem trimStart_writeEntry (entry : String × String) :
    Text.trimStart (writeEntry entry) = writeEntry (dropBareBlanks entry.1, entry.2) := by
  simp only [writeEntry, dropBareBlanks, String.toList_ofList]
  induction entry.1.toList with
  | nil =>
    have hblank : Text.isBlank '=' = false := by decide
    simp [escapeKey, Text.trimStart, hblank]
  | cons c cs ih =>
    rw [escapeKey, List.flatMap_cons, ← escapeKey, List.append_assoc,
      trimStart_escapeChar_append, ih, List.dropWhile_cons]
    by_cases h : isBareBlank c
    · simp [h]
    · simp [h, escapeKey]

end Wiring.Properties
