import Mathlib.Data.List.TakeWhile
import Wiring.Text.Blank
import Wiring.Text.Split

/-!
# Text · Laws of trimming and of the first split

Trimming leaves nothing exactly of blank texts (`trimChars_eq_nil_iff`), a trimmed text is not
changed by another trimming (`trimChars_trimChars`), and the trimmed texts are those that neither
begin nor end with a blank (`trimChars_eq_self_iff`). Blanks put around a trimmed text are all that
trimming drops (`Padded.trimChars_eq`). `splitOnce` finds the first occurrence of a character:
`splitOnce_eq_none_iff` and `splitOnce_eq_some_iff` say what it answers.
-/

namespace Wiring.Text

/-! ## Trimming -/

/-- Nothing is left without the leading blanks exactly if all characters are blanks. -/
theorem trimStart_eq_nil_iff {cs : List Char} : trimStart cs = [] ↔ ∀ c ∈ cs, isBlank c := by
  rw [trimStart, List.dropWhile_eq_nil_iff]

/-- Nothing is left without the blanks at the end exactly if all characters are blanks. -/
theorem trimEnd_eq_nil_iff {cs : List Char} : trimEnd cs = [] ↔ ∀ c ∈ cs, isBlank c := by
  simp [trimEnd, List.dropWhile_eq_nil_iff]

/-- Blanks in front of characters that begin with none are all that trimming the start drops. -/
theorem trimStart_append_of_blank {blanks rest : List Char} (hblanks : ∀ c ∈ blanks, isBlank c)
    (hrest : ∀ c ∈ rest.head?, isBlank c = false) : trimStart (blanks ++ rest) = rest := by
  rw [trimStart, List.dropWhile_append_of_pos hblanks]
  exact trimStart_eq_self hrest

/-- Trimming the start of what is not blank leaves alone what stands behind it. -/
theorem trimStart_append {front : List Char} (h : trimStart front ≠ []) (rest : List Char) :
    trimStart (front ++ rest) = trimStart front ++ rest := by
  rw [trimStart, List.dropWhile_append, if_neg]
  · rfl
  · simpa [trimStart] using h

/-- **Trimming leaves nothing** exactly of texts of blanks. -/
theorem trimChars_eq_nil_iff {cs : List Char} : trimChars cs = [] ↔ ∀ c ∈ cs, isBlank c := by
  rw [trimChars, trimEnd_eq_nil_iff]
  constructor
  · intro h
    have hnil : trimStart cs = [] := by
      cases hcs : trimStart cs with
      | nil => rfl
      | cons c rest =>
        -- what is left would begin with a character that is no blank
        have hfirst : isBlank c = false :=
          isBlank_of_mem_head?_trimStart (show c ∈ (trimStart cs).head? by simp [hcs])
        have hblank := h c (by simp [hcs])
        simp [hfirst] at hblank
    exact trimStart_eq_nil_iff.1 hnil
  · intro h c hc
    exact h c ((trimStart_isSuffix cs).mem hc)

/-- A text is blank exactly if nothing is left of it. -/
theorem isBlankText_iff {text : String} : isBlankText text = true ↔ trimChars text.toList = [] := by
  rw [isBlankText, List.all_eq_true, trimChars_eq_nil_iff]

/-- What is left without the blanks at the end is the front of the text. -/
theorem trimEnd_isPrefix (cs : List Char) : trimEnd cs <+: cs := by
  rw [trimEnd, ← List.reverse_suffix, List.reverse_reverse]
  exact List.dropWhile_suffix _

/-- Blanks at the end are dropped at once. -/
theorem trimEnd_trimEnd (cs : List Char) : trimEnd (trimEnd cs) = trimEnd cs := by
  have hstart := trimStart_trimStart cs.reverse
  simp only [trimStart] at hstart
  simp only [trimEnd, List.reverse_reverse, hstart]

/-- A trimmed text has no leading blanks to drop. -/
theorem trimStart_trimChars (cs : List Char) : trimStart (trimChars cs) = trimChars cs := by
  apply trimStart_eq_self
  intro c hc
  obtain ⟨rest, hrest⟩ := trimEnd_isPrefix (trimStart cs)
  suffices hhead : c ∈ (trimStart cs).head? from isBlank_of_mem_head?_trimStart hhead
  rw [← hrest]
  rw [trimChars] at hc
  cases htrim : trimEnd (trimStart cs) with
  | nil => simp [htrim] at hc
  | cons d ds => simpa [htrim] using hc

/-- **A trimmed text** is not changed by another trimming. -/
@[simp] theorem trimChars_trimChars (cs : List Char) : trimChars (trimChars cs) = trimChars cs := by
  rw [trimChars, trimStart_trimChars, trimChars, trimEnd_trimEnd]

/-- What trimming leaves was there before. -/
theorem mem_of_mem_trimChars {c : Char} {cs : List Char} (h : c ∈ trimChars cs) : c ∈ cs :=
  (trimStart_isSuffix cs).mem ((trimEnd_isPrefix (trimStart cs)).mem h)

/-- **A text is trimmed** exactly when it neither begins nor ends with a blank. -/
theorem trimChars_eq_self_iff {cs : List Char} :
    trimChars cs = cs ↔
      (∀ c ∈ cs.head?, isBlank c = false) ∧ ∀ c ∈ cs.getLast?, isBlank c = false := by
  constructor
  · intro h
    have hstart : trimStart cs = cs := by
      have := trimStart_trimChars cs
      rwa [h] at this
    have hend : trimStart cs.reverse = cs.reverse := by
      rw [trimChars, hstart, trimEnd] at h
      exact List.reverse_eq_iff.1 h
    constructor
    · intro c hc
      rw [← hstart] at hc
      exact isBlank_of_mem_head?_trimStart hc
    · intro c hc
      rw [← List.head?_reverse, ← hend] at hc
      exact isBlank_of_mem_head?_trimStart hc
  · rintro ⟨hhead, hlast⟩
    have hend : trimStart cs.reverse = cs.reverse :=
      trimStart_eq_self fun c hc => hlast c (List.head?_reverse ▸ hc)
    rw [trimChars, trimStart_eq_self hhead, trimEnd]
    exact (congrArg List.reverse hend).trans (List.reverse_reverse cs)

/-- A text without blanks is trimmed. -/
theorem trimChars_eq_self_of_forall {cs : List Char} (h : ∀ c ∈ cs, isBlank c = false) :
    trimChars cs = cs :=
  trimChars_eq_self_iff.2 ⟨fun c hc => h c (List.mem_of_mem_head? hc),
    fun c hc => h c (List.mem_of_mem_getLast? hc)⟩

/-- What stands around a character that is no blank is trimmed, if it neither begins nor ends with a
blank. -/
theorem trimChars_append_cons {front back : List Char} {c : Char}
    (hfront : ∀ d ∈ front.head?, isBlank d = false) (hc : isBlank c = false)
    (hback : ∀ d ∈ back.getLast?, isBlank d = false) :
    trimChars (front ++ c :: back) = front ++ c :: back := by
  refine trimChars_eq_self_iff.2 ⟨fun d hd => ?_, fun d hd => ?_⟩
  · cases front with
    | nil =>
      obtain rfl : c = d := by simpa using hd
      exact hc
    | cons first front => exact hfront d (by simpa using hd)
  · cases back with
    | nil =>
      obtain rfl : c = d := by simpa using hd
      exact hc
    | cons last back => exact hback d (by simpa using hd)

/-- To trim twice is to trim once. -/
@[simp] theorem trim_trim (text : String) : trim (trim text) = trim text := by
  rw [trim, toList_trim, trimChars_trimChars, trim]

/-- A text is trimmed to nothing exactly if no character is left of it. -/
theorem trim_eq_empty_iff {text : String} : trim text = "" ↔ trimChars text.toList = [] := by
  rw [← String.toList_inj, toList_trim]
  rfl

/-! ## Blanks around -/

/-- Whether characters are some others with blanks around them. -/
def Padded (inner outer : List Char) : Prop :=
  ∃ front back, (∀ c ∈ front, isBlank c) ∧ (∀ c ∈ back, isBlank c) ∧
    outer = front ++ (inner ++ back)

/-- The end is trimmed like the start of the text read backwards. -/
theorem trimEnd_eq_reverse (cs : List Char) : trimEnd cs = (trimStart cs.reverse).reverse := rfl

/-- Blanks behind characters that end with none are all that trimming the end drops. -/
theorem trimEnd_append_of_blank {front blanks : List Char} (hblanks : ∀ c ∈ blanks, isBlank c)
    (hfront : ∀ c ∈ front.getLast?, isBlank c = false) : trimEnd (front ++ blanks) = front := by
  have hblanks' : ∀ c ∈ blanks.reverse, isBlank c := fun c hc => hblanks c (List.mem_reverse.1 hc)
  have hfront' : ∀ c ∈ front.reverse.head?, isBlank c = false := fun c hc =>
    hfront c (List.head?_reverse ▸ hc)
  rw [trimEnd_eq_reverse, List.reverse_append, trimStart_append_of_blank hblanks' hfront',
    List.reverse_reverse]

/-- **Trimming drops the blanks around** a trimmed text, and nothing else. -/
theorem Padded.trimChars_eq {inner outer : List Char} (h : Padded inner outer)
    (hinner : trimChars inner = inner) : trimChars outer = inner := by
  obtain ⟨front, back, hfront, hback, rfl⟩ := h
  obtain ⟨hhead, hlast⟩ := trimChars_eq_self_iff.1 hinner
  cases inner with
  | nil =>
    rw [trimChars_eq_nil_iff]
    intro c hc
    rcases List.mem_append.1 hc with hc | hc
    · exact hfront c hc
    · exact hback c hc
  | cons first rest =>
    have hstart : trimStart (front ++ (first :: rest ++ back)) = first :: rest ++ back :=
      trimStart_append_of_blank hfront fun c hc => hhead c hc
    rw [trimChars, hstart, trimEnd_append_of_blank hback hlast]

/-- What trimming leaves of a text stands in it with blanks around. -/
theorem padded_trimChars (cs : List Char) : Padded (trimChars cs) cs := by
  have hstart : cs.takeWhile isBlank ++ trimStart cs = cs := List.takeWhile_append_dropWhile
  have hend : trimEnd (trimStart cs) ++ ((trimStart cs).reverse.takeWhile isBlank).reverse =
      trimStart cs := by
    rw [trimEnd, ← List.reverse_append, List.takeWhile_append_dropWhile, List.reverse_reverse]
  refine ⟨cs.takeWhile isBlank, ((trimStart cs).reverse.takeWhile isBlank).reverse,
    fun c hc => List.mem_takeWhile_imp hc,
    fun c hc => List.mem_takeWhile_imp (List.mem_reverse.1 hc), ?_⟩
  rw [trimChars, hend, hstart]

/-- A character that is no blank stops the trimming of the start. -/
theorem trimStart_append_cons {c : Char} (hc : isBlank c = false) (front back : List Char) :
    trimStart (front ++ c :: back) = trimStart front ++ c :: back := by
  induction front with
  | nil => exact trimStart_eq_self fun d hd => by simpa [← Option.some.inj hd] using hc
  | cons d front ih =>
    rw [trimStart, trimStart, List.cons_append, List.dropWhile_cons, List.dropWhile_cons]
    split
    · exact ih
    · rfl

/-- A character that is no blank stops the trimming of the end. -/
theorem trimEnd_append_cons {c : Char} (hc : isBlank c = false) (front back : List Char) :
    trimEnd (front ++ c :: back) = front ++ c :: trimEnd back := by
  rw [trimEnd_eq_reverse, List.reverse_append, List.reverse_cons, List.append_assoc,
    List.singleton_append, trimStart_append_cons hc, trimEnd_eq_reverse]
  simp

/-- A first character that is no blank stays. -/
theorem trimEnd_cons {c : Char} (hc : isBlank c = false) (cs : List Char) :
    trimEnd (c :: cs) = c :: trimEnd cs :=
  trimEnd_append_cons hc [] cs

/-- To trim comes to the same if the leading blanks were dropped before. -/
theorem trimChars_trimStart (cs : List Char) : trimChars (trimStart cs) = trimChars cs := by
  rw [trimChars, trimStart_trimStart, trimChars]

/-- Trimming a text whose end has been trimmed is trimming the text. -/
theorem trimChars_trimEnd (cs : List Char) : trimChars (trimEnd cs) = trimChars cs := by
  have hparts : cs.takeWhile isBlank ++ trimStart cs = cs := List.takeWhile_append_dropWhile
  cases hrest : trimStart cs with
  | nil =>
    have hnil : trimEnd cs = [] := trimEnd_eq_nil_iff.2 (trimStart_eq_nil_iff.1 hrest)
    rw [hnil, trimChars, trimChars, hrest]
    rfl
  | cons c rest =>
    -- the blanks before the first character that is none are kept by the trimming of the end
    have hc : isBlank c = false :=
      isBlank_of_mem_head?_trimStart (show c ∈ (trimStart cs).head? by rw [hrest]; rfl)
    have hblanks : trimStart (cs.takeWhile isBlank) = [] :=
      trimStart_eq_nil_iff.2 fun d hd => List.mem_takeWhile_imp hd
    rw [hrest] at hparts
    rw [← hparts, trimEnd_append_cons hc, trimChars, trimChars, trimStart_append_cons hc,
      trimStart_append_cons hc, hblanks, List.nil_append, List.nil_append, trimEnd_cons hc,
      trimEnd_cons hc, trimEnd_trimEnd]

/-! ## The first split -/

/-- A text is not split exactly if the separator is not in it. -/
theorem splitOnce_eq_none_iff {sep : Char} {cs : List Char} :
    splitOnce sep cs = none ↔ sep ∉ cs := by
  induction cs with
  | nil => simp [splitOnce]
  | cons c cs ih =>
    by_cases h : c = sep
    · simp [splitOnce, h]
    · simp [splitOnce, h, ih, Ne.symm h]

/-- A text is split at the first separator in it. -/
theorem splitOnce_eq_some_iff {sep : Char} {cs before after : List Char} :
    splitOnce sep cs = some (before, after) ↔ cs = before ++ sep :: after ∧ sep ∉ before := by
  induction cs generalizing before with
  | nil => simp [splitOnce]
  | cons c cs ih =>
    by_cases h : c = sep
    · subst h
      cases before with
      | nil => simp [splitOnce]
      | cons b before =>
        simp only [splitOnce, if_true, Option.some.injEq, Prod.mk.injEq]
        constructor
        · rintro ⟨hnil, -⟩
          cases hnil
        · rintro ⟨heq, hmem⟩
          obtain ⟨rfl, -⟩ := List.cons.inj heq
          exact absurd List.mem_cons_self hmem
    · cases before with
      | nil => simp [splitOnce, h]
      | cons b before =>
        simp only [splitOnce, h, if_false, Option.map_eq_some_iff, Prod.exists, Prod.mk.injEq,
          List.cons.injEq, List.cons_append, List.mem_cons, not_or]
        constructor
        · rintro ⟨before', after', hsplit, ⟨rfl, rfl⟩, rfl⟩
          obtain ⟨rfl, hmem⟩ := ih.1 hsplit
          exact ⟨⟨rfl, rfl⟩, Ne.symm h, hmem⟩
        · rintro ⟨⟨rfl, heq⟩, -, hmem⟩
          exact ⟨before, after, ih.2 ⟨heq, hmem⟩, ⟨rfl, rfl⟩, rfl⟩

end Wiring.Text
