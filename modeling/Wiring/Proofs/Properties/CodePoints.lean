import Wiring.Proofs.Properties.Failures
import Wiring.Proofs.Properties.Joined

/-!
# Properties · Characters by their code points

Which `\u` escapes are read, and where a text is refused for one that is not. What follows an escape
is looked at by itself, wherever it stands (`escapes`, `mem_escapes_iff`), and is read if four
hexadecimal digits spell a code point or if a plus sign and three of them do
(`readCodePoint?_eq`). Reading fails over the first escape that is not read
(`unescape_eq_error_iff`), and otherwise puts the character of each escape in its place (`Says`).
Main statement: `parse_codePoints`, which also tells when the rule that asks for four digits is
kept.
-/

namespace Wiring.Properties

/-! ## Spellings -/

/-- The character whose code point is spelled with so many hexadecimal digits. -/
def spelled? (width : Nat) (digits : List Char) : Option Char :=
  if digits.length = width then (Text.digitsValue? 16 Text.hexValue? 0 digits).bind Text.scalar?
  else none

/-- The character whose code point is spelled with a plus sign and three hexadecimal digits. -/
def signed? : List Char → Option Char
  | '+' :: digits => spelled? 3 digits
  | _ => none

/-- A number stands for a character exactly if it is the code point of that character. -/
theorem scalar?_eq_some_iff {n : Nat} {c : Char} : Text.scalar? n = some c ↔ n = c.toNat := by
  rw [Text.scalar?]
  constructor
  · intro h
    split at h
    · next hvalid =>
      obtain rfl := Option.some.inj h
      rw [Char.ofNat, dif_pos hvalid]
      rfl
    · cases h
  · rintro rfl
    have hvalid : c.toNat.isValidChar := c.valid
    rw [if_pos hvalid, Char.ofNat_toNat]

/-- **What is spelled** is the character of which the digits give the code. -/
theorem spelled?_eq_some_iff {width : Nat} {digits : List Char} {c : Char} :
    spelled? width digits = some c ↔
      digits.length = width ∧ Text.digitsValue? 16 Text.hexValue? 0 digits = some c.toNat := by
  rw [spelled?]
  split
  · next h => simp [h, Option.bind_eq_some_iff, scalar?_eq_some_iff]
  · next h => simp [h]

/-- **What is read** of the characters behind an escape. -/
theorem readCodePoint?_eq (digits : List Char) :
    readCodePoint? digits = (spelled? 4 digits).or (signed? digits) := by
  have hlength (width : Nat) {digits : List Char} (h : digits.length ≠ width) :
      spelled? width digits = none := if_neg h
  unfold readCodePoint? Text.readHex4?
  split
  · rfl
  · next a b c d hplus =>
    have hnone : signed? [a, b, c, d] = none := by
      unfold signed?
      split
      · next heq => exact absurd (List.cons.inj heq).1 hplus
      · rfl
    rw [hnone, Option.or_none]
    rfl
  · next hsigned hfour =>
    -- any other number of characters
    have hne : digits.length ≠ 4 := fun h => by
      obtain ⟨a, b, c, d, rfl⟩ := List.length_eq_four.1 h
      exact hfour a b c d rfl
    have hnone : signed? digits = none := by
      unfold signed?
      split
      · exact hlength 3 fun h => hne (congrArg Nat.succ h)
      · rfl
    rw [hnone, hlength 4 hne]
    rfl

/-- Whether what follows an escape does not spell a code point with four digits. -/
def isMisspelt (digits : List Char) : Bool :=
  (spelled? 4 digits).isNone

/-- Whether what follows an escape does not spell a code point with a plus sign and three digits
either. -/
def isRefused (digits : List Char) : Bool :=
  isMisspelt digits && (signed? digits).isNone

/-- What is refused is exactly what no code point is read from. -/
theorem isNone_readCodePoint? (digits : List Char) :
    (readCodePoint? digits).isNone = isRefused digits := by
  rw [readCodePoint?_eq, isRefused, isMisspelt]
  cases spelled? 4 digits <;> rfl

/-- Only hexadecimal digits have a value. -/
theorem isHexDigit_of_digitsValue? {acc n : Nat} {digits : List Char}
    (h : Text.digitsValue? 16 Text.hexValue? acc digits = some n) :
    ∀ d ∈ digits, Text.isHexDigit d = true := by
  induction digits generalizing acc with
  | nil => nofun
  | cons d digits ih =>
    rw [Text.digitsValue?, Option.bind_eq_some_iff] at h
    obtain ⟨value, hvalue, hrest⟩ := h
    exact List.forall_mem_cons.2 ⟨by rw [Text.isHexDigit, hvalue]; rfl, ih hrest⟩

/-- Four characters are read, and none of them is a backslash. -/
theorem of_readCodePoint? {digits : List Char} {c : Char} (h : readCodePoint? digits = some c) :
    digits.length = 4 ∧ '\\' ∉ digits := by
  have hhex (width : Nat) (digits : List Char) (hspelled : spelled? width digits = some c) :
      digits.length = width ∧ '\\' ∉ digits := by
    obtain ⟨hlength, hvalue⟩ := spelled?_eq_some_iff.1 hspelled
    refine ⟨hlength, fun hmem => ?_⟩
    cases isHexDigit_of_digitsValue? hvalue _ hmem
  rw [readCodePoint?_eq, Option.or_eq_some_iff] at h
  rcases h with hspelled | ⟨-, hsigned⟩
  · exact hhex 4 digits hspelled
  · unfold signed? at hsigned
    split at hsigned
    · next digits =>
      obtain ⟨hlength, hmem⟩ := hhex 3 digits hsigned
      exact ⟨congrArg Nat.succ hlength, by simp [hmem]⟩
    · cases hsigned

/-! ## What follows the escapes -/

/-- What follows each escape, up to four characters. An escape begins with a backslash that no other
one escapes. -/
def escapes : List Char → List (List Char)
  | '\\' :: c :: cs => if c = 'u' then cs.take 4 :: escapes cs else escapes cs
  | _ :: cs => escapes cs
  | [] => []

/-- **Induction over written characters**, one at a time or with the backslash in front of it. What
follows an escape may be taken off along with it. -/
theorem raw_induction {motive : List Char → Prop} (nil : motive []) (dropped : motive ['\\'])
    (plain : ∀ c cs, c ≠ '\\' → motive cs → motive (c :: cs))
    (escaped : ∀ c cs, (∀ rest, rest <:+ cs → motive rest) → motive ('\\' :: c :: cs))
    (raw : List Char) : motive raw := by
  induction hlength : raw.length using Nat.strongRecOn generalizing raw with
  | ind n ih =>
    subst hlength
    rcases raw with _ | ⟨c, cs⟩
    · exact nil
    · by_cases hc : c = '\\'
      · subst hc
        rcases cs with _ | ⟨d, cs⟩
        · exact dropped
        · refine escaped d cs fun rest hrest => ih rest.length ?_ rest rfl
          exact Nat.lt_succ_of_le (Nat.le_succ_of_le hrest.length_le)
      · exact plain c cs hc (ih cs.length (Nat.lt_succ_self _) cs rfl)

/-! ## Scanning -/

/-- A character that is no backslash begins no escape. -/
theorem escapes_cons {c : Char} (h : c ≠ '\\') (cs : List Char) :
    escapes (c :: cs) = escapes cs := by
  rw [escapes.eq_def]
  split <;> simp_all

/-- Characters without a backslash hold no escape. -/
theorem escapes_append {front : List Char} (h : '\\' ∉ front) (cs : List Char) :
    escapes (front ++ cs) = escapes cs := by
  induction front with
  | nil => rfl
  | cons c front ih =>
    rw [List.mem_cons, not_or] at h
    rw [List.cons_append, escapes_cons (Ne.symm h.1), ih h.2]

/-- **What is read of an escape** and of what stands behind it. -/
theorem unescape_codePoint (cs : List Char) :
    unescape ('\\' :: 'u' :: cs) =
      match readCodePoint? (cs.take 4) with
      | some c => (unescape (cs.drop 4)).map (c :: ·)
      | none => .error (cs.take 4) := by
  rcases cs with _ | ⟨w, _ | ⟨x, _ | ⟨y, _ | ⟨z, cs⟩⟩⟩⟩
  case cons.cons.cons.cons => rfl
  -- with fewer characters there is nothing to read
  all_goals simp [unescape, readCodePoint?, Text.readHex4?]

/-- **Reading fails** over the first escape that is refused, and only then. -/
theorem unescape_eq_error_iff {raw digits : List Char} :
    unescape raw = .error digits ↔ (escapes raw).find? isRefused = some digits := by
  induction raw using raw_induction with
  | nil => simp [unescape, escapes]
  | dropped => simp [unescape, escapes]
  | plain c cs hc ih =>
    rw [unescape_cons hc, escapes_cons hc, ← ih, map_eq_error_iff]
  | escaped c cs ih =>
    rw [escapes]
    by_cases hc : c = 'u'
    · subst hc
      rw [unescape_codePoint, if_pos rfl]
      have hrefused := isNone_readCodePoint? (cs.take 4)
      cases hread : readCodePoint? (cs.take 4) with
      | none =>
        rw [hread] at hrefused
        rw [List.find?_cons_of_pos hrefused.symm, Except.error.injEq, Option.some.injEq]
      | some c =>
        rw [hread] at hrefused
        have hsplit : escapes cs = escapes (cs.drop 4) := by
          rw [← escapes_append (of_readCodePoint? hread).2 (cs.drop 4), List.take_append_drop]
        rw [List.find?_cons_of_neg (Bool.eq_false_iff.1 hrefused.symm), hsplit,
          ← ih _ (List.drop_suffix 4 cs)]
        exact map_eq_error_iff
    · rw [unescape_backslash hc, if_neg hc, ← ih cs (List.suffix_refl cs), map_eq_error_iff]

/-- Reading succeeds where no escape is refused. -/
theorem exists_unescape_iff {raw : List Char} :
    (∃ out, unescape raw = .ok out) ↔ (escapes raw).find? isRefused = none := by
  cases hread : unescape raw with
  | ok out =>
    have hnone : (escapes raw).find? isRefused = none :=
      Option.eq_none_iff_forall_ne_some.2 fun digits hdigits => by
        rw [unescape_eq_error_iff.2 hdigits] at hread
        cases hread
    simp [hnone]
  | error digits => simp [unescape_eq_error_iff.1 hread]

/-! ## Where escapes stand -/

/-- A first character that is no backslash does not decide whether a line goes on. -/
theorem continues_cons {c : Char} (h : c ≠ '\\') (cs : List Char) :
    continues (c :: cs) = continues cs :=
  @continues_append [c] (not_continues_of_getLast? (by simpa using h)) cs

/-- A backslash and what it escapes do not decide whether a line goes on. -/
theorem continues_escaped (c : Char) (cs : List Char) :
    continues ('\\' :: c :: cs) = continues cs := by
  have hpair : continues ['\\', c] = false := by
    rw [show ['\\', c] = ['\\'] ++ [c] from rfl, continues_append_singleton]
    split <;> rfl
  exact continues_append hpair cs

/-- Whether a `\u` escape stands in a text between `front` and `rest`: no backslash at the end of
`front` escapes that of the `\u`. -/
structure EscapeAt (raw front rest : List Char) : Prop where
  /-- The parts of the text. -/
  split : raw = front ++ '\\' :: 'u' :: rest
  /-- The backslash is not escaped. -/
  bare : continues front = false

/-- Behind a character that is no backslash the same escapes stand one character further on. -/
theorem escapeAt_cons {c : Char} (hc : c ≠ '\\') {cs front rest : List Char} :
    EscapeAt (c :: cs) front rest ↔ ∃ front', front = c :: front' ∧ EscapeAt cs front' rest := by
  constructor
  · rintro ⟨hsplit, hbare⟩
    cases front with
    | nil => exact absurd (List.cons.inj hsplit).1 hc
    | cons d front =>
      obtain ⟨rfl, rfl⟩ := List.cons.inj hsplit
      exact ⟨front, rfl, rfl, continues_cons hc front ▸ hbare⟩
  · rintro ⟨front, rfl, rfl, hbare⟩
    exact ⟨rfl, (continues_cons hc front).trans hbare⟩

/-- A backslash begins an escape, or it keeps what it escapes from beginning one. -/
theorem escapeAt_escaped {c : Char} {cs front rest : List Char} :
    EscapeAt ('\\' :: c :: cs) front rest ↔
      (c = 'u' ∧ front = [] ∧ rest = cs) ∨
        ∃ front', front = '\\' :: c :: front' ∧ EscapeAt cs front' rest := by
  constructor
  · rintro ⟨hsplit, hbare⟩
    rcases front with _ | ⟨d, _ | ⟨e, front⟩⟩
    · obtain ⟨rfl, rfl⟩ := List.cons.inj (List.cons.inj hsplit).2
      exact .inl ⟨rfl, rfl, rfl⟩
    · -- a backslash alone would escape the next one
      obtain ⟨rfl, -⟩ := List.cons.inj hsplit
      cases hbare
    · obtain ⟨rfl, hrest⟩ := List.cons.inj hsplit
      obtain ⟨rfl, rfl⟩ := List.cons.inj hrest
      exact .inr ⟨front, rfl, rfl, continues_escaped c front ▸ hbare⟩
  · rintro (⟨rfl, rfl, rfl⟩ | ⟨front, rfl, rfl, hbare⟩)
    · exact ⟨rfl, rfl⟩
    · exact ⟨rfl, (continues_escaped c front).trans hbare⟩

/-- **The escapes of a text** are found where they stand. -/
theorem mem_escapes_iff {raw digits : List Char} :
    digits ∈ escapes raw ↔ ∃ front rest, EscapeAt raw front rest ∧ digits = rest.take 4 := by
  induction raw using raw_induction with
  | nil =>
    refine iff_of_false List.not_mem_nil ?_
    rintro ⟨front, rest, ⟨hsplit, -⟩, -⟩
    simp at hsplit
  | dropped =>
    refine iff_of_false List.not_mem_nil ?_
    rintro ⟨front, rest, ⟨hsplit, -⟩, -⟩
    have hlength := congrArg List.length hsplit
    simp at hlength
    omega
  | plain c cs hc ih =>
    rw [escapes_cons hc, ih]
    simp only [escapeAt_cons hc]
    constructor
    · rintro ⟨front, rest, h, hdigits⟩
      exact ⟨c :: front, rest, ⟨front, rfl, h⟩, hdigits⟩
    · rintro ⟨_, rest, ⟨front, rfl, h⟩, hdigits⟩
      exact ⟨front, rest, h, hdigits⟩
  | escaped c cs ih =>
    have hcases : (∃ front rest, EscapeAt ('\\' :: c :: cs) front rest ∧ digits = rest.take 4) ↔
        (c = 'u' ∧ digits = cs.take 4) ∨ digits ∈ escapes cs := by
      simp only [ih cs (List.suffix_refl cs), escapeAt_escaped]
      constructor
      · rintro ⟨_, rest, ⟨hc, rfl, rfl⟩ | ⟨front, rfl, h⟩, hdigits⟩
        · exact .inl ⟨hc, hdigits⟩
        · exact .inr ⟨front, rest, h, hdigits⟩
      · rintro (⟨hc, hdigits⟩ | ⟨front, rest, h, hdigits⟩)
        · exact ⟨[], cs, .inl ⟨hc, rfl, rfl⟩, hdigits⟩
        · exact ⟨'\\' :: c :: front, rest, .inr ⟨front, rfl, h⟩, hdigits⟩
    rw [hcases, escapes]
    by_cases hc : c = 'u' <;> simp [hc]

/-- What is read in front of a backslash that no other one escapes is read by itself. -/
theorem exists_unescape_append {front back out : List Char} (hfront : continues front = false)
    (h : unescape (front ++ '\\' :: back) = .ok out) :
    ∃ before after, unescape front = .ok before ∧ unescape ('\\' :: back) = .ok after ∧
      out = before ++ after := by
  induction front using raw_induction generalizing out with
  | nil => exact ⟨[], out, rfl, h, rfl⟩
  | dropped => cases hfront
  | plain c cs hc ih =>
    rw [continues_cons hc] at hfront
    rw [List.cons_append, unescape_cons hc] at h
    obtain ⟨out, hout, rfl⟩ := map_eq_ok_iff.1 h
    obtain ⟨before, after, hbefore, hafter, rfl⟩ := ih hfront hout
    exact ⟨c :: before, after, by rw [unescape_cons hc, hbefore]; rfl, hafter, rfl⟩
  | escaped c cs ih =>
    rw [continues_escaped] at hfront
    by_cases hc : c = 'u'
    · subst hc
      rw [List.cons_append, List.cons_append, unescape_codePoint] at h
      cases hread : readCodePoint? ((cs ++ '\\' :: back).take 4) with
      | none => simp [hread] at h
      | some d =>
        obtain ⟨-, hplain⟩ := of_readCodePoint? hread
        -- none of the four characters is the backslash, so they all stand in front of it
        have hlong : 4 ≤ cs.length := by
          by_contra hshort
          have hone : 4 - cs.length = 3 - cs.length + 1 := by omega
          refine hplain ?_
          rw [List.take_append, hone, List.take_succ_cons]
          simp
        rw [List.take_append_of_le_length hlong] at hread h hplain
        have hdrop : continues (cs.drop 4) = false := by
          have htake : continues (cs.take 4) = false :=
            not_continues_of_getLast? fun hlast => hplain (List.mem_of_getLast? hlast)
          rw [← hfront, ← continues_append htake, List.take_append_drop]
        rw [hread, List.drop_append_of_le_length hlong] at h
        obtain ⟨out, hout, rfl⟩ := map_eq_ok_iff.1 h
        obtain ⟨before, after, hbefore, hafter, rfl⟩ := ih _ (List.drop_suffix 4 cs) hdrop hout
        exact ⟨d :: before, after, by rw [unescape_codePoint, hread, hbefore]; rfl, hafter, rfl⟩
    · rw [List.cons_append, List.cons_append, unescape_backslash hc] at h
      obtain ⟨out, hout, rfl⟩ := map_eq_ok_iff.1 h
      obtain ⟨before, after, hbefore, hafter, rfl⟩ := ih cs (List.suffix_refl cs) hfront hout
      exact ⟨unescapeChar c :: before, after, by rw [unescape_backslash hc, hbefore]; rfl, hafter,
        rfl⟩

/-- Whether `out` is what a written key or value says: each escape in it stands for the character
that is spelled behind it, between what is said in front of it and what is said further on. -/
structure Says (raw out : List Char) : Prop where
  /-- What is read. -/
  unescape : unescape raw = .ok out
  /-- What each escape stands for. -/
  escape : ∀ front rest, EscapeAt raw front rest → ∃ before c after,
    Properties.unescape front = .ok before ∧ Properties.unescape (rest.drop 4) = .ok after ∧
      out = before ++ c :: after ∧
      (spelled? 4 (rest.take 4) = some c ∨ signed? (rest.take 4) = some c)

/-- **What is read is said.** -/
theorem says_of_unescape {raw out : List Char} (h : unescape raw = .ok out) : Says raw out := by
  refine ⟨h, ?_⟩
  rintro front rest ⟨rfl, hbare⟩
  obtain ⟨before, after, hbefore, hafter, rfl⟩ := exists_unescape_append hbare h
  rw [unescape_codePoint] at hafter
  cases hread : readCodePoint? (rest.take 4) with
  | none => simp [hread] at hafter
  | some c =>
    rw [hread] at hafter
    obtain ⟨said, hsaid, rfl⟩ := map_eq_ok_iff.1 hafter
    rw [readCodePoint?_eq, Option.or_eq_some_iff] at hread
    exact ⟨before, c, said, hbefore, hsaid, rfl, hread.imp_right And.right⟩

/-! ## Logical lines and their escapes -/

namespace LogicalLine

/-- What follows the escapes of the key and then of the value. -/
def escapes (line : LogicalLine) : List (List Char) :=
  Properties.escapes (splitEntry line.text).1 ++ Properties.escapes (splitEntry line.text).2

/-- Whether an escape of a line is not spelled with four digits. -/
def isMisspelt (line : LogicalLine) : Bool :=
  line.escapes.any Properties.isMisspelt

/-- Whether an escape of a line is refused. -/
def isRefused (line : LogicalLine) : Bool :=
  line.escapes.any Properties.isRefused

/-- Whether a pair of texts is what the key and the value of a line say. -/
def Holds (line : LogicalLine) (pair : String × String) : Prop :=
  Says (splitEntry line.text).1 pair.1.toList ∧ Says (splitEntry line.text).2 pair.2.toList

/-- The escapes of a line are those of its key and those of its value, where they stand. -/
theorem mem_escapes_iff {line : LogicalLine} {digits : List Char} :
    digits ∈ line.escapes ↔ ∃ front rest,
      (EscapeAt (splitEntry line.text).1 front rest ∨
        EscapeAt (splitEntry line.text).2 front rest) ∧ digits = rest.take 4 := by
  simp only [escapes, List.mem_append, Properties.mem_escapes_iff, or_and_right, exists_or]

/-- A line with an escape that is refused has one without four digits. -/
theorem isMisspelt_of_isRefused {line : LogicalLine} (h : line.isRefused = true) :
    line.isMisspelt = true := by
  obtain ⟨digits, hmem, hrefused⟩ := List.any_eq_true.1 h
  exact List.any_eq_true.2 ⟨digits, hmem, (Bool.and_eq_true_iff.1 hrefused).1⟩

/-- A line is refused exactly if there is a first escape of it that is. -/
theorem isRefused_iff {line : LogicalLine} :
    line.isRefused = true ↔ ∃ digits, line.escapes.find? Properties.isRefused = some digits := by
  rw [isRefused, List.any_eq_true, ← Option.isSome_iff_exists, List.find?_isSome]

/-- A line fails over the first of its escapes that is refused. -/
theorem entryOfText_eq_error_iff {line : LogicalLine} {digits : List Char} :
    entryOfText line.text = .error digits ↔
      line.escapes.find? Properties.isRefused = some digits := by
  have hreturn {key value : List Char} : ¬(Pure.pure (String.ofList key, String.ofList value) :
      Except (List Char) (String × String)) = .error digits := nofun
  rw [entryOfText, bind_eq_error_iff, escapes, List.find?_append, Option.or_eq_some_iff,
    ← exists_unescape_iff, unescape_eq_error_iff]
  simp only [bind_eq_error_iff, unescape_eq_error_iff, hreturn, and_false, exists_false, or_false,
    exists_and_right]

/-- What is read from a line is what the line holds. -/
theorem holds_of_entryOfText {line : LogicalLine} {pair : String × String}
    (h : entryOfText line.text = .ok pair) : line.Holds pair := by
  obtain ⟨hkey, hvalue⟩ := entryOfText_eq_ok_iff.1 h
  exact ⟨says_of_unescape hkey, says_of_unescape hvalue⟩

end LogicalLine

/-! ## Reading a text -/

variable {text resource : String}

/-- **Reading fails** over the first logical line with an escape that is refused. -/
theorem parse_eq_error_iff {e : SyntaxError} :
    parse text resource = .error e ↔ ∃ line digits,
      (logicalLines text.toList).find? LogicalLine.isRefused = some line ∧
        line.escapes.find? isRefused = some digits ∧
        e = .malformedEscape line.number (.ofList digits) resource := by
  have hline (line : LogicalLine) (e : SyntaxError) : entryOfLine resource line = .error e ↔
      ∃ digits, line.escapes.find? isRefused = some digits ∧
        e = .malformedEscape line.number (.ofList digits) resource := by
    rw [entryOfLine_eq, mapError_eq_error_iff]
    simp only [LogicalLine.entryOfText_eq_error_iff]
  have hok (line : LogicalLine) : (∃ pair, entryOfLine resource line = .ok pair) ↔
      (!line.isRefused) = true := by
    rw [Bool.not_eq_true', ← Bool.not_eq_true, LogicalLine.isRefused_iff]
    cases hread : entryOfLine resource line with
    | ok pair =>
      have hnone : ¬∃ digits, line.escapes.find? isRefused = some digits := by
        rintro ⟨digits, hdigits⟩
        rw [(hline line _).2 ⟨digits, hdigits, rfl⟩] at hread
        cases hread
      simp only [hnone, not_false_eq_true, iff_true]
      exact ⟨pair, rfl⟩
    | error e =>
      obtain ⟨digits, hdigits, -⟩ := (hline line e).1 hread
      simp [hdigits]
  rw [parse, map_eq_error_iff, readEntries, mapM_eq_error_iff]
  simp only [List.find?_eq_some_iff_append, hok, hline, LogicalLine.isRefused_iff]
  constructor
  · rintro ⟨before, line, after, hsplit, hbefore, digits, hdigits, rfl⟩
    exact ⟨line, digits, ⟨⟨digits, hdigits⟩, before, after, hsplit, hbefore⟩, hdigits, rfl⟩
  · rintro ⟨line, digits, ⟨-, before, after, hsplit, hbefore⟩, hdigits, rfl⟩
    exact ⟨before, line, after, hsplit, hbefore, digits, hdigits, rfl⟩

/-- **What is read** is what the logical lines say. -/
theorem parse_eq_ok {p : Properties} (h : parse text resource = .ok p) :
    ∃ pairs, p = ofList pairs ∧
      List.Forall₂ LogicalLine.Holds (logicalLines text.toList) pairs := by
  obtain ⟨pairs, hpairs, rfl⟩ := map_eq_ok_iff.1 h
  refine ⟨pairs, rfl, (mapM_eq_ok_iff.1 hpairs).imp fun line pair hline => ?_⟩
  rw [entryOfLine_eq, mapError_eq_ok_iff] at hline
  exact LogicalLine.holds_of_entryOfText hline

/-- Whether a text is read by the rule that asks for four digits behind each escape: reading fails
if and only if some line has an escape without them, and then over the first such line. -/
structure ReadStrictly (text resource : String) : Prop where
  /-- When reading fails. -/
  fails : (∃ e, parse text resource = .error e) ↔
    ∃ line ∈ logicalLines text.toList, line.isMisspelt = true
  /-- Over what it fails. -/
  number : ∀ e, parse text resource = .error e → ∃ line digits,
    (logicalLines text.toList).find? LogicalLine.isMisspelt = some line ∧
      e = .malformedEscape line.number digits resource

/-- The first line that is misspelt is the first one that is refused, if it is refused. -/
theorem find?_isRefused {lines : List LogicalLine} {line : LogicalLine}
    (h : lines.find? LogicalLine.isMisspelt = some line) (hrefused : line.isRefused = true) :
    lines.find? LogicalLine.isRefused = some line := by
  obtain ⟨-, before, after, hsplit, hbefore⟩ := List.find?_eq_some_iff_append.1 h
  refine List.find?_eq_some_iff_append.2 ⟨hrefused, before, after, hsplit, fun other hother => ?_⟩
  have hspelt : other.isMisspelt = false := by simpa using hbefore other hother
  rw [Bool.not_eq_true']
  exact Bool.eq_false_iff.2 fun hother => by
    rw [LogicalLine.isMisspelt_of_isRefused hother] at hspelt
    cases hspelt

/-- **The strict rule is kept** where the first line that it finds misspelt is refused. -/
theorem readStrictly_iff : ReadStrictly text resource ↔
    ∀ line, (logicalLines text.toList).find? LogicalLine.isMisspelt = some line →
      line.isRefused = true := by
  have hfails : (∃ e, parse text resource = .error e) ↔
      ∃ line ∈ logicalLines text.toList, line.isRefused = true := by
    constructor
    · rintro ⟨e, he⟩
      obtain ⟨line, -, hfind, -, -⟩ := parse_eq_error_iff.1 he
      exact ⟨line, List.mem_of_find?_eq_some hfind, List.find?_some hfind⟩
    · intro hrefused
      obtain ⟨line, hfind⟩ := Option.isSome_iff_exists.1 (List.find?_isSome.2 hrefused)
      obtain ⟨digits, hdigits⟩ := LogicalLine.isRefused_iff.1 (List.find?_some hfind)
      exact ⟨_, parse_eq_error_iff.2 ⟨line, digits, hfind, hdigits, rfl⟩⟩
  have hfirst (h : ∃ line ∈ logicalLines text.toList, line.isMisspelt = true) :
      ∃ line, (logicalLines text.toList).find? LogicalLine.isMisspelt = some line :=
    Option.isSome_iff_exists.1 (List.find?_isSome.2 h)
  constructor
  · intro h line hfind
    obtain ⟨e, he⟩ := h.fails.2 ⟨line, List.mem_of_find?_eq_some hfind, List.find?_some hfind⟩
    obtain ⟨first, digits, hfirst, rfl⟩ := h.number e he
    obtain rfl : first = line := Option.some.inj (hfirst.symm.trans hfind)
    obtain ⟨refused, digits', hrefused, -, hsame⟩ := parse_eq_error_iff.1 he
    -- the error names one line only
    obtain rfl : first = refused :=
      eq_of_number_eq (List.mem_of_find?_eq_some hfind) (List.mem_of_find?_eq_some hrefused)
        (SyntaxError.malformedEscape.inj hsame).1
    exact List.find?_some hrefused
  · intro h
    refine ⟨hfails.trans ⟨?_, fun hmisspelt => ?_⟩, fun e he => ?_⟩
    · rintro ⟨line, hmem, hrefused⟩
      exact ⟨line, hmem, LogicalLine.isMisspelt_of_isRefused hrefused⟩
    · obtain ⟨line, hfind⟩ := hfirst hmisspelt
      exact ⟨line, List.mem_of_find?_eq_some hfind, h line hfind⟩
    · obtain ⟨refused, digits, hrefused, -, rfl⟩ := parse_eq_error_iff.1 he
      obtain ⟨line, hfind⟩ := hfirst ⟨refused, List.mem_of_find?_eq_some hrefused,
        LogicalLine.isMisspelt_of_isRefused (List.find?_some hrefused)⟩
      obtain rfl : line = refused :=
        Option.some.inj ((find?_isRefused hfind (h line hfind)).symm.trans hrefused)
      exact ⟨line, _, hfind, rfl⟩

/-! ## Main statement -/

/-- **Characters by their code points.** The logical lines of a text are those that `joined` makes,
numbered by where they begin, and their escapes are those of key and value. Reading fails exactly if
an escape is refused, over the first such escape of the first line with one, and else yields what
the lines say: each escape stands for the character whose code is spelled behind it. The rule that
asks for four hexadecimal digits is kept unless the first line that breaks it does so only by
escapes with a plus sign in place of the first digit. -/
theorem parse_codePoints (text resource : String) :
    (∀ line, line ∈ logicalLines text.toList ↔
      ∃ front first rest, Text.lines text.toList = front ++ first :: rest ∧
        leavesOpen front = false ∧ isPart false first = true ∧
        line = ⟨front.length + 1, joined (first :: rest)⟩) ∧
    (∀ (line : LogicalLine) (digits : List Char), digits ∈ line.escapes ↔ ∃ front rest,
      (EscapeAt (splitEntry line.text).1 front rest ∨
        EscapeAt (splitEntry line.text).2 front rest) ∧ digits = rest.take 4) ∧
    (∀ e, parse text resource = .error e ↔ ∃ line digits,
      (logicalLines text.toList).find? LogicalLine.isRefused = some line ∧
        line.escapes.find? isRefused = some digits ∧
        e = .malformedEscape line.number (.ofList digits) resource) ∧
    (∀ p, parse text resource = .ok p → ∃ pairs, p = ofList pairs ∧
      List.Forall₂ LogicalLine.Holds (logicalLines text.toList) pairs) ∧
    (ReadStrictly text resource ↔
      ∀ line, (logicalLines text.toList).find? LogicalLine.isMisspelt = some line →
        line.isRefused = true) :=
  ⟨fun _ => mem_logicalLines_iff, fun _ _ => LogicalLine.mem_escapes_iff,
    fun _ => parse_eq_error_iff, fun _ => parse_eq_ok, readStrictly_iff⟩

/-- **A plus sign among the digits is read**: the escape with three digits behind a plus sign stands
for a character, although the strict rule refuses it. -/
theorem plusSign_read :
    parse "k=\\u+041" "r" = .ok (ofList [("k", "A")]) ∧
      (logicalLines "k=\\u+041".toList).find? LogicalLine.isMisspelt =
        some ⟨1, "k=\\u+041".toList⟩ ∧
      ¬ReadStrictly "k=\\u+041" "r" := by
  have hread : parse "k=\\u+041" "r" = .ok (ofList [("k", "A")]) := by decide +kernel
  have hfind : (logicalLines "k=\\u+041".toList).find? LogicalLine.isMisspelt =
      some ⟨1, "k=\\u+041".toList⟩ := by decide +kernel
  refine ⟨hread, hfind, fun hstrict => ?_⟩
  obtain ⟨e, he⟩ := hstrict.fails.2 ⟨_, List.mem_of_find?_eq_some hfind, List.find?_some hfind⟩
  rw [hread] at he
  cases he

end Wiring.Properties
