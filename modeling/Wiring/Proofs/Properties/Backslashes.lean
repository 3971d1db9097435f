import Wiring.Proofs.Properties.CodePoints

/-!
# Properties · No backslash is dropped

The reader of a written key or value drops a backslash with nothing behind it. `Reads` tells how it
goes through the characters in front of such a backslash; no rule of it takes the backslash itself.
Every reading ends at the end of the text, at an escape that is refused or at the backslash
(`ends`), and it gets to the last exactly if a backslash is left open there
(`reads_backslash_iff`). Logical lines leave none open, neither in the key nor in the value
(`LogicalLine.not_continues_written`). So the reader of a property list never gets there:
`parse_readsThrough`.
-/

namespace Wiring.Properties

/-! ## How far the reader has got -/

/-- Whether the reader, begun on `raw`, has read the characters `said` when what it has left is
`rest`. A backslash is read together with what it escapes, never alone. -/
inductive Reads : List Char → List Char → List Char → Prop
  /-- Nothing is read yet. -/
  | start (raw : List Char) : Reads raw [] raw
  /-- A character for itself. -/
  | plain {c : Char} {cs said rest : List Char} (hc : c ≠ '\\') (h : Reads cs said rest) :
      Reads (c :: cs) (c :: said) rest
  /-- An escaped character. -/
  | escaped {c : Char} {cs said rest : List Char} (hc : c ≠ 'u') (h : Reads cs said rest) :
      Reads ('\\' :: c :: cs) (unescapeChar c :: said) rest
  /-- A character by its code point, with the four characters that spell it. -/
  | codePoint {c : Char} {cs said rest : List Char} (hc : readCodePoint? (cs.take 4) = some c)
      (h : Reads (cs.drop 4) said rest) : Reads ('\\' :: 'u' :: cs) (c :: said) rest

variable {raw said rest out : List Char}

/-- **What is read of the whole** is what has been read, and then what is read of the rest. -/
theorem Reads.unescape_eq (h : Reads raw said rest) :
    unescape raw = (unescape rest).map (said ++ ·) := by
  have hmap (c : Char) (said : List Char) (result : Except (List Char) (List Char)) :
      (result.map (said ++ ·)).map (c :: ·) = result.map (c :: said ++ ·) := by
    cases result <;> rfl
  induction h with
  | start raw => cases unescape raw <;> rfl
  | plain hc _ ih => rw [unescape_cons hc, ih, hmap]
  | escaped hc _ ih => rw [unescape_backslash hc, ih, hmap]
  | codePoint hc _ ih =>
    rw [unescape_codePoint, hc, ih]
    exact hmap _ _ _

/-- **The reader closes what it opens**: a backslash is left open at the end of what is left exactly
if one is at the end of the whole. The four characters behind a `\u` hold none, or they would not
spell a code point. -/
theorem Reads.continues_eq (h : Reads raw said rest) : continues rest = continues raw := by
  induction h with
  | start raw => rfl
  | plain hc _ ih => rw [continues_cons hc, ih]
  | escaped hc _ ih => rw [continues_escaped, ih]
  | @codePoint c cs _ _ hc _ ih =>
    have hfour : continues (cs.take 4) = false :=
      not_continues_of_getLast? fun hlast =>
        (of_readCodePoint? hc).2 (List.mem_of_getLast? hlast)
    rw [continues_escaped, ih, ← continues_append hfour, List.take_append_drop]

/-! ## Where reading ends -/

/-- Whether the reader gets to an escape that does not spell a code point. -/
def Refuses (raw digits : List Char) : Prop :=
  ∃ said rest, Reads raw said ('\\' :: 'u' :: rest) ∧ readCodePoint? (rest.take 4) = none ∧
    digits = rest.take 4

/-- How reading may end. -/
inductive Ends (raw : List Char) : Prop
  /-- Everything is read. -/
  | through {out : List Char} (h : Reads raw out [])
  /-- A backslash with nothing behind it is left. -/
  | backslash {said : List Char} (h : Reads raw said ['\\'])
  /-- An escape is refused. -/
  | refused {digits : List Char} (h : Refuses raw digits)

/-- Where the reader gets from one text to another and on from there, the two end alike. -/
theorem Ends.of_reads {cs : List Char} (h : Ends cs)
    (read : ∀ {said rest}, Reads cs said rest → ∃ said', Reads raw said' rest) : Ends raw := by
  cases h with
  | through h => exact (read h).elim fun _ => .through
  | backslash h => exact (read h).elim fun _ => .backslash
  | refused h =>
    obtain ⟨said, rest, hread, hrefused⟩ := h
    obtain ⟨said', hread⟩ := read hread
    exact .refused ⟨said', rest, hread, hrefused⟩

/-- **Every reading ends** in one of these ways. -/
theorem ends (raw : List Char) : Ends raw := by
  induction raw using raw_induction with
  | nil => exact .through (.start [])
  | dropped => exact .backslash (.start ['\\'])
  | plain c cs hc ih => exact ih.of_reads fun hread => ⟨_, .plain hc hread⟩
  | escaped c cs ih =>
    by_cases hc : c = 'u'
    · subst hc
      cases hcode : readCodePoint? (cs.take 4) with
      | none => exact .refused ⟨[], cs, .start _, hcode, rfl⟩
      | some d =>
        exact (ih _ (List.drop_suffix 4 cs)).of_reads fun hread => ⟨_, .codePoint hcode hread⟩
    · exact (ih cs (List.suffix_refl cs)).of_reads fun hread => ⟨_, .escaped hc hread⟩

/-- Where nothing is read of what is left, what has been read is all. -/
theorem unescape_of_reads (h : Reads raw said rest) (hrest : unescape rest = .ok []) :
    unescape raw = .ok said := by
  rw [h.unescape_eq, hrest]
  exact congrArg Except.ok (List.append_nil said)

/-- Where the reader gets to an escape that spells no code point, it fails over it. -/
theorem unescape_of_refuses {digits : List Char} (h : Refuses raw digits) :
    unescape raw = .error digits := by
  obtain ⟨said, rest, hread, hrefused, rfl⟩ := h
  rw [hread.unescape_eq, unescape_codePoint, hrefused]
  rfl

/-- Reading that succeeds has got to the end, or to a backslash that it drops. -/
theorem reads_of_unescape (h : unescape raw = .ok out) :
    Reads raw out [] ∨ Reads raw out ['\\'] := by
  cases ends raw with
  | through hread =>
    obtain rfl := Except.ok.inj ((unescape_of_reads hread rfl).symm.trans h)
    exact .inl hread
  | backslash hread =>
    obtain rfl := Except.ok.inj ((unescape_of_reads hread rfl).symm.trans h)
    exact .inr hread
  | refused hrefused =>
    rw [unescape_of_refuses hrefused] at h
    cases h

/-- **When a backslash is dropped**: exactly if one is left open at the end and nothing in front of
it is refused. -/
theorem reads_backslash_iff :
    (∃ said, Reads raw said ['\\']) ↔ continues raw = true ∧ ∃ out, unescape raw = .ok out := by
  constructor
  · rintro ⟨said, hread⟩
    exact ⟨hread.continues_eq.symm, said, unescape_of_reads hread rfl⟩
  · rintro ⟨hopen, out, hok⟩
    rcases reads_of_unescape hok with hread | hread
    · rw [← hread.continues_eq] at hopen
      cases hopen
    · exact ⟨out, hread⟩

/-- Where no backslash is left open, what is read is read to the end. -/
theorem unescape_eq_ok_iff_reads (h : continues raw = false) :
    unescape raw = .ok out ↔ Reads raw out [] := by
  refine ⟨fun hok => (reads_of_unescape hok).resolve_right fun hread => ?_,
    fun hread => unescape_of_reads hread rfl⟩
  rw [← hread.continues_eq] at h
  cases h

/-! ## Key and value -/

/-- The scan for the end of the key takes a backslash together with what it escapes, so it leaves
none open on either side. -/
theorem not_continues_splitKey {cs : List Char} (h : continues cs = false) :
    continues (splitKey cs).1 = false ∧ continues (splitKey cs).2 = false := by
  induction cs using raw_induction with
  | nil => exact ⟨rfl, rfl⟩
  | dropped => cases h
  | plain c cs hc ih =>
    rw [splitKey_cons hc]
    split
    · exact ⟨rfl, h⟩
    · rw [continues_cons hc] at h
      exact ⟨(continues_cons hc _).trans (ih h).1, (ih h).2⟩
  | escaped c cs ih =>
    rw [continues_escaped] at h
    obtain ⟨hkey, hrest⟩ := ih cs (List.suffix_refl cs) h
    exact ⟨(continues_escaped c _).trans hkey, hrest⟩

/-- Separators hold no backslash. -/
theorem continues_skipSeparators (cs : List Char) :
    continues (skipSeparators cs) = continues cs := by
  have hgap : isGap '\\' = false := by decide
  rw [← continues_dropWhile hgap cs, skipSeparators]
  cases cs.dropWhile isGap with
  | nil => rfl
  | cons c rest =>
    dsimp only
    split
    · next hassign =>
      have hc : c ≠ '\\' := by
        rintro rfl
        cases hassign
      rw [continues_dropWhile hgap, continues_cons hc]
    · rfl

namespace LogicalLine

/-- The written key and the written value of a line. -/
def written (line : LogicalLine) : List (List Char) :=
  [(splitEntry line.text).1, (splitEntry line.text).2]

/-- Whether the key and the value of a line are read to their ends, and are then those of a pair of
texts. -/
def ReadsThrough (line : LogicalLine) (pair : String × String) : Prop :=
  Reads (splitEntry line.text).1 pair.1.toList [] ∧ Reads (splitEntry line.text).2 pair.2.toList []

variable {text : List Char} {line : LogicalLine}

/-- **Neither key nor value leaves a backslash open**, in whatever way the line came about. -/
theorem not_continues_written (h : line ∈ logicalLines text) :
    ∀ raw ∈ line.written, continues raw = false := by
  obtain ⟨hkey, hrest⟩ := not_continues_splitKey (not_continues_text h)
  have hvalue : continues (splitEntry line.text).2 = false :=
    (continues_skipSeparators _).trans hrest
  simpa [written] using ⟨hkey, hvalue⟩

/-- What is read of a line is read to the end of its key and of its value. -/
theorem entryOfText_eq_ok_iff_readsThrough (h : line ∈ logicalLines text) {pair : String × String} :
    entryOfText line.text = .ok pair ↔ line.ReadsThrough pair := by
  have hclosed := not_continues_written h
  have hkey := hclosed (splitEntry line.text).1 (by simp [written])
  have hvalue := hclosed (splitEntry line.text).2 (by simp [written])
  rw [entryOfText_eq_ok_iff, unescape_eq_ok_iff_reads hkey, unescape_eq_ok_iff_reads hvalue,
    ReadsThrough]

end LogicalLine

/-- The entries of a text are what is read to the end of all its lines. -/
theorem readEntries_eq_ok_iff_readsThrough {text resource : String}
    {pairs : List (String × String)} :
    readEntries text resource = .ok pairs ↔
      List.Forall₂ LogicalLine.ReadsThrough (logicalLines text.toList) pairs := by
  have hentry {line : LogicalLine} (hline : line ∈ logicalLines text.toList)
      {pair : String × String} :
      entryOfLine resource line = .ok pair ↔ line.ReadsThrough pair := by
    rw [entryOfLine_eq, mapError_eq_ok_iff, LogicalLine.entryOfText_eq_ok_iff_readsThrough hline]
  have hmem : ∀ line ∈ logicalLines text.toList, line ∈ logicalLines text.toList :=
    fun _ hline => hline
  rw [readEntries, mapM_eq_ok_iff]
  constructor
  · intro h
    exact ((List.forall₂_and_left _ _).2 ⟨hmem, h⟩).imp fun _ _ h => (hentry h.1).1 h.2
  · intro h
    exact ((List.forall₂_and_left _ _).2 ⟨hmem, h⟩).imp fun _ _ h => (hentry h.1).2 h.2

/-! ## Main statement -/

/-- **No backslash is dropped.** The reader of a property list never gets to a backslash with
nothing behind it, neither in a key nor in a value, and be it that the text ends in a line that goes
on: it reads each of them to its end, or fails over an escape that does not spell a code point. What
it makes of a text is what it reads in this way of all the lines. -/
theorem parse_readsThrough (text resource : String) :
    (∀ line ∈ logicalLines text.toList, ∀ raw ∈ line.written,
      (∀ said, ¬Reads raw said ['\\']) ∧
        ((∃ out, unescape raw = .ok out ∧ Reads raw out []) ∨
          ∃ digits, unescape raw = .error digits ∧ Refuses raw digits)) ∧
    ∀ p, parse text resource = .ok p ↔ ∃ pairs, p = ofList pairs ∧
      List.Forall₂ LogicalLine.ReadsThrough (logicalLines text.toList) pairs := by
  constructor
  · intro line hline raw hraw
    have hclosed := LogicalLine.not_continues_written hline raw hraw
    have hnever : ¬∃ said, Reads raw said ['\\'] := by
      rw [reads_backslash_iff, hclosed]
      exact fun h => Bool.false_ne_true h.1
    refine ⟨not_exists.1 hnever, ?_⟩
    cases ends raw with
    | through hread => exact .inl ⟨_, unescape_of_reads hread rfl, hread⟩
    | backslash hread => exact absurd ⟨_, hread⟩ hnever
    | refused hrefused => exact .inr ⟨_, unescape_of_refuses hrefused, hrefused⟩
  · intro p
    rw [parse, map_eq_ok_iff]
    exact exists_congr fun pairs => by rw [readEntries_eq_ok_iff_readsThrough, and_comm]

/-- A text that ends in a line that goes on: of its three backslashes the first two stand for one
and the last is no part of the value. -/
example : parse "k=a\\\\\\" "r" = .ok (ofList [("k", "a\\")]) := by decide +kernel

end Wiring.Properties
