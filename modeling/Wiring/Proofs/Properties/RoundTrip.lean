import Wiring.Proofs.Properties.Failures
import Wiring.Proofs.Properties.Pairs
import Wiring.Proofs.Properties.Written
import Wiring.Proofs.Text.Lines

/-!
# Properties · Reading what was written

A property list is written one line an entry and read back. `parse_toText` says what comes back in
every case: the same entries, except that a key has lost the bare blanks it began with (and entries
whose keys become equal by that are merged). The reader drops every blank in front of a line, the
writer guards only some of them by a backslash. So writing and reading give the list again exactly
when no key begins with a bare blank.
-/

namespace Wiring.Properties

/-! ## Logical lines -/

/-- Lines that hold an entry and end it are logical lines of their own. -/
theorem logicalLinesFrom_map_text (n : Nat) {bodies : List (List Char)}
    (h : ∀ line ∈ bodies, isSkipped (Text.trimStart line) = false ∧
      continues (Text.trimStart line) = false) :
    (logicalLinesFrom n none bodies).map LogicalLine.text = bodies.map Text.trimStart := by
  induction bodies generalizing n with
  | nil => rfl
  | cons line bodies ih =>
    have hline := h line (by simp)
    have hrest := ih (n + 1) fun other hother => h other (by simp [hother])
    simp [logicalLinesFrom, hline, LogicalLine.extend, hrest]

/-! ## Round trip -/

/-- A line with the text of a written entry holds that entry. -/
theorem entryOfLine_writeEntry {line : LogicalLine} {entry : String × String}
    (h : line.text = writeEntry entry) (resource : String) :
    entryOfLine resource line = .ok entry := by
  rw [entryOfLine_eq, mapError_eq_ok_iff, entryOfText_eq_ok_iff, h, splitEntry_writeEntry]
  exact ⟨unescape_escapeKey _, unescape_escapeValue _⟩

/-- The logical lines of a written list: one an entry, without the bare blanks in front. -/
theorem map_text_logicalLines_toText (p : Properties) :
    (logicalLines p.toText.toList).map LogicalLine.text =
      p.entries.map fun entry => writeEntry (dropBareBlanks entry.1, entry.2) := by
  have htext : p.toText.toList = (p.entries.map writeEntry).flatMap (· ++ ['\n']) := by
    simp [toText, List.flatMap_map]
  have hlines : Text.lines p.toText.toList = p.entries.map writeEntry := by
    rw [htext]
    apply Text.lines_flatMap_append
    intro line hline
    obtain ⟨entry, -, rfl⟩ := List.mem_map.1 hline
    exact ⟨not_mem_writeEntry entry (.inl rfl), not_mem_writeEntry entry (.inr rfl)⟩
  rw [logicalLines, hlines, logicalLinesFrom_map_text]
  · simp [List.map_map, Function.comp_def, trimStart_writeEntry]
  · intro line hline
    obtain ⟨entry, -, rfl⟩ := List.mem_map.1 hline
    rw [trimStart_writeEntry]
    exact ⟨isSkipped_writeEntry _, not_continues_writeEntry _⟩

/-- **What comes back of a written list**: its entries, with keys that have lost the bare blanks
they began with. Reading what was written never fails. -/
theorem parse_toText (p : Properties) (resource : String) :
    parse p.toText resource =
      .ok (ofList (p.entries.map fun entry => (dropBareBlanks entry.1, entry.2))) := by
  have hentries : readEntries p.toText resource =
      .ok (p.entries.map fun entry => (dropBareBlanks entry.1, entry.2)) := by
    rw [readEntries, mapM_eq_ok_iff, List.forall₂_map_right_iff]
    have htexts := map_text_logicalLines_toText p
    rw [← List.forall₂_eq_eq_eq, List.forall₂_map_left_iff, List.forall₂_map_right_iff] at htexts
    exact htexts.imp fun line entry h => entryOfLine_writeEntry h resource
  rw [parse, hentries]
  rfl

/-- Whether a key begins with a blank that is written without an escape. -/
def beginsBare (key : String) : Bool :=
  key.toList.head?.any isBareBlank

/-- A key keeps all its characters exactly where it does not begin with a bare blank. -/
theorem dropBareBlanks_eq_self_iff (key : String) :
    dropBareBlanks key = key ↔ beginsBare key = false := by
  rw [dropBareBlanks, beginsBare, ← String.toList_inj, String.toList_ofList]
  cases key.toList with
  | nil => simp
  | cons c cs =>
    by_cases h : isBareBlank c
    · have hshort := (List.dropWhile_suffix (l := cs) isBareBlank).length_le
      simp only [List.dropWhile_cons, h, if_true, List.head?_cons, Option.any_some]
      constructor
      · intro heq
        rw [heq, List.length_cons] at hshort
        omega
      · intro hfalse
        cases hfalse
    · simp [h]

/-- The entries of a written list come back unchanged exactly when no key begins with a bare
blank. -/
theorem map_dropBareBlanks_eq_self_iff (p : Properties) :
    (p.entries.map fun entry => (dropBareBlanks entry.1, entry.2)) = p.entries ↔
      ∀ key ∈ p.keys, beginsBare key = false := by
  have hkeys : (∀ key ∈ p.keys, beginsBare key = false) ↔
      ∀ entry ∈ p.entries, beginsBare entry.1 = false := by
    simp only [keys, List.forall_mem_map]
  have hid : p.entries.map id = p.entries := List.map_id _
  rw [hkeys]
  constructor
  · intro h entry hentry
    have hentry' := List.map_inj_left.1 (h.trans hid.symm) entry hentry
    exact (dropBareBlanks_eq_self_iff entry.1).1 (congrArg Prod.fst hentry')
  · intro h
    refine (List.map_congr_left fun entry hentry => ?_).trans hid
    rw [(dropBareBlanks_eq_self_iff entry.1).2 (h entry hentry), id]

/-- The bytes of a text are read as that text. -/
theorem ofBytes_toUTF8 (text resource : String) :
    ofBytes text.toUTF8 resource = parse text resource := by
  have hdecoded : String.fromUTF8? text.toUTF8 = some text := dif_pos text.isValidUTF8
  rw [ofBytes, hdecoded]

/-- Writing and reading loses nothing where no key begins with a bare blank. -/
theorem parse_toText_of_not_beginsBare {p : Properties} (h : ∀ key ∈ p.keys, beginsBare key = false)
    (resource : String) : parse p.toText resource = .ok p := by
  rw [parse_toText, (map_dropBareBlanks_eq_self_iff p).2 h, Except.ok.injEq]
  exact Properties.ext (entries_ofList_of_nodup p.nodup_keys)

/-- **Writing and reading give the list again exactly when no key begins with a bare blank.** -/
theorem parse_toText_eq_self_iff (p : Properties) (resource : String) :
    parse p.toText resource = .ok p ↔ ∀ key ∈ p.keys, beginsBare key = false := by
  rw [parse_toText, ← map_dropBareBlanks_eq_self_iff]
  constructor
  · intro h
    have hsame : ofList (p.entries.map fun entry => (dropBareBlanks entry.1, entry.2)) = p :=
      Except.ok.inj h
    -- as many entries came back as were written, so no two of the keys have become equal
    have hsize := congrArg size hsame
    have hnodup : ((p.entries.map fun entry =>
        (dropBareBlanks entry.1, entry.2)).map Prod.fst).Nodup := by
      rw [← size_ofList_eq_iff, hsize, List.length_map, size]
    rw [← entries_ofList_of_nodup hnodup, hsame]
  · intro h
    rw [h, Except.ok.injEq]
    exact Properties.ext (entries_ofList_of_nodup p.nodup_keys)

/-- A no-break space in front of a key is lost: the list with the one key that begins so is read
back with another key. -/
theorem parse_toText_noBreakSpace :
    parse (ofList [("\u00a0k", "v")]).toText "r" = .ok (ofList [("k", "v")]) ∧
      ofList [("\u00a0k", "v")] ≠ ofList [("k", "v")] := by
  refine ⟨?_, by decide⟩
  rw [parse_toText]
  decide

end Wiring.Properties
