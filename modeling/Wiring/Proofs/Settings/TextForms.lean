import Wiring.Proofs.Steps
import Wiring.Proofs.Tables
import Wiring.Proofs.Text.Trim
import Wiring.Settings.Codec

/-!
# Settings · What a text form stands for

The settings that are tables or sets of names can be written in a single text. `Spells` says which
items spell which entries, with blanks around every part, and with blank items anywhere. Whoever
writes the entries of a table or the names of a set so, in any order, is read as having written the
table or the set itself: main statement `text_forms`, which also says exactly which texts are no
table.
-/

namespace Wiring.Settings

open Text (Padded isBlank isBlankText trim trimChars)

/-! ## What is written -/

/-- Whether items spell some entries one after the other, each entry as `spells` says, with blank
items in between. -/
inductive Spells {α : Type} (spells : α → String → Prop) : List α → List String → Prop
  /-- Nothing is spelled by no item. -/
  | nil : Spells spells [] []
  /-- A blank item spells nothing. -/
  | blank {entries : List α} {items : List String} {item : String}
      (hitem : isBlankText item = true) (h : Spells spells entries items) :
      Spells spells entries (item :: items)
  /-- An item spells an entry. -/
  | entry {entries : List α} {items : List String} {a : α} {item : String}
      (hitem : spells a item) (h : Spells spells entries items) :
      Spells spells (a :: entries) (item :: items)

/-- Whether an item spells a name: it is the name with blanks around. -/
def SpellsName (name item : String) : Prop :=
  Padded name.toList item.toList

/-- Whether an item spells a pair: it is the key, an equals sign and the value, with blanks around
the key and the value. -/
def SpellsPair (pair : String × String) (item : String) : Prop :=
  ∃ key value, Padded pair.1.toList key ∧ Padded pair.2.toList value ∧
    item.toList = key ++ '=' :: value

/-- Whether a name can stand in a list of names. -/
structure FitsList (name : String) : Prop where
  /-- It is trimmed. -/
  trimmed : trim name = name
  /-- It is not empty. -/
  ne_empty : name ≠ ""
  /-- It holds no comma. -/
  no_comma : ',' ∉ name.toList

instance (name : String) : Decidable (FitsList name) :=
  decidable_of_iff (trim name = name ∧ name ≠ "" ∧ ',' ∉ name.toList)
    ⟨fun h => ⟨h.1, h.2.1, h.2.2⟩, fun h => ⟨h.trimmed, h.ne_empty, h.no_comma⟩⟩

/-- Whether a pair can stand in a list of pairs. -/
structure FitsPairs (pair : String × String) : Prop where
  /-- The key is trimmed. -/
  key_trimmed : trim pair.1 = pair.1
  /-- It holds no equals sign -/
  key_no_equals : '=' ∉ pair.1.toList
  /-- and no semicolon. -/
  key_no_semicolon : ';' ∉ pair.1.toList
  /-- The value is trimmed. -/
  value_trimmed : trim pair.2 = pair.2
  /-- It holds no semicolon. -/
  value_no_semicolon : ';' ∉ pair.2.toList

instance (pair : String × String) : Decidable (FitsPairs pair) :=
  decidable_of_iff (trim pair.1 = pair.1 ∧ '=' ∉ pair.1.toList ∧ ';' ∉ pair.1.toList ∧
      trim pair.2 = pair.2 ∧ ';' ∉ pair.2.toList)
    ⟨fun h => ⟨h.1, h.2.1, h.2.2.1, h.2.2.2.1, h.2.2.2.2⟩, fun h =>
      ⟨h.key_trimmed, h.key_no_equals, h.key_no_semicolon, h.value_trimmed, h.value_no_semicolon⟩⟩

/-! ## Single items -/

/-- A trimmed text has no blank to drop among its characters. -/
theorem trimChars_toList_of_trim {text : String} (h : trim text = text) :
    trimChars text.toList = text.toList := by
  rw [← Text.toList_trim, h]

/-- A character that is no blank stands in a padded text only if it stands in the text. -/
theorem not_mem_of_padded {inner outer : List Char} (h : Padded inner outer) {c : Char}
    (hc : isBlank c = false) (hinner : c ∉ inner) : c ∉ outer := by
  obtain ⟨front, back, hfront, hback, rfl⟩ := h
  intro hmem
  rcases List.mem_append.1 hmem with hmem | hmem
  · exact absurd (hfront c hmem) (by simp [hc])
  · rcases List.mem_append.1 hmem with hmem | hmem
    · exact hinner hmem
    · exact absurd (hback c hmem) (by simp [hc])

/-- An item that spells a name is the name with the blanks around it dropped. -/
theorem trim_of_spellsName {name item : String} (h : SpellsName name item) (hfits : FitsList name) :
    trim item = name := by
  unfold trim
  rw [h.trimChars_eq (trimChars_toList_of_trim hfits.trimmed), String.ofList_toList]

/-- **An item that spells a pair** is read as the pair. -/
theorem readPair_of_spellsPair {pair : String × String} {item : String} (h : SpellsPair pair item)
    (hfits : FitsPairs pair) : readPair (trim item) = .ok pair := by
  obtain ⟨key, value, hkey, hvalue, hitem⟩ := h
  have hequals : isBlank '=' = false := by decide
  have htrim : (trim item).toList = Text.trimStart key ++ '=' :: Text.trimEnd value := by
    rw [Text.toList_trim, hitem, trimChars, Text.trimStart_append_cons hequals,
      Text.trimEnd_append_cons hequals]
  have hno : '=' ∉ Text.trimStart key := fun hmem =>
    not_mem_of_padded hkey hequals hfits.key_no_equals ((Text.trimStart_isSuffix key).mem hmem)
  have hsplit : Text.splitOnce '=' (trim item).toList =
      some (Text.trimStart key, Text.trimEnd value) :=
    Text.splitOnce_eq_some_iff.2 ⟨htrim, hno⟩
  unfold readPair
  rw [hsplit]
  dsimp only
  rw [Text.trimChars_trimStart, Text.trimChars_trimEnd,
    hkey.trimChars_eq (trimChars_toList_of_trim hfits.key_trimmed),
    hvalue.trimChars_eq (trimChars_toList_of_trim hfits.value_trimmed), String.ofList_toList,
    String.ofList_toList]

/-- An item that spells a pair is not blank. -/
theorem trim_ne_empty_of_spellsPair {pair : String × String} {item : String}
    (h : SpellsPair pair item) : trim item ≠ "" := by
  obtain ⟨key, value, -, -, hitem⟩ := h
  rw [Ne, Text.trim_eq_empty_iff, Text.trimChars_eq_nil_iff, hitem]
  intro hblank
  exact absurd (hblank '=' (by simp)) (by decide)

/-! ## Rows of items -/

section Rows

variable {α : Type} {spells : α → String → Prop} {entries : List α} {items : List String}

/-- The items that are not blank belong to the entries, one each, as each item that spells an entry
does. -/
theorem Spells.forall₂ {R : String → α → Prop} (h : Spells spells entries items)
    (hentry : ∀ a ∈ entries, ∀ item, spells a item → trim item ≠ "" ∧ R (trim item) a) :
    List.Forall₂ R ((items.map trim).filter (!·.isEmpty)) entries := by
  induction h with
  | nil => exact .nil
  | blank hitem h ih =>
    have hempty : trim _ = "" := Text.trim_eq_empty_iff.2 (Text.isBlankText_iff.1 hitem)
    rw [List.map_cons, List.filter_cons_of_neg (by simp [hempty])]
    exact ih hentry
  | @entry entries items a item hitem h ih =>
    obtain ⟨hfirst, hrest⟩ := List.forall_mem_cons.1 hentry
    obtain ⟨hne, hitem⟩ := hfirst item hitem
    rw [List.map_cons, List.filter_cons_of_pos (by simpa using hne)]
    exact .cons hitem (ih hrest)

/-- A separator that is no blank and in no entry is in no item. -/
theorem Spells.not_mem (h : Spells spells entries items) {c : Char} (hc : isBlank c = false)
    (hentry : ∀ a ∈ entries, ∀ item, spells a item → c ∉ item.toList) :
    ∀ item ∈ items, c ∉ item.toList := by
  induction h with
  | nil => simp
  | blank hitem h ih =>
    refine List.forall_mem_cons.2 ⟨fun hmem => ?_, ih hentry⟩
    rw [isBlankText, List.all_eq_true] at hitem
    exact absurd (hitem c hmem) (by simp [hc])
  | entry hitem h ih =>
    obtain ⟨hfirst, hrest⟩ := List.forall_mem_cons.1 hentry
    exact List.forall_mem_cons.2 ⟨hfirst _ hitem, ih hrest⟩

end Rows

/-- Items without the separator are found again when it joins them; where there is none, a blank one
is found. -/
theorem split_intercalate_filter {sep : String} {c : Char} (hsep : sep.toList = [c])
    {items : List String} (hnone : ∀ item ∈ items, c ∉ item.toList) :
    ((Text.split (· == c) (sep.intercalate items)).map trim).filter (!·.isEmpty) =
      (items.map trim).filter (!·.isEmpty) := by
  unfold Text.split
  rw [String.toList_intercalate, hsep]
  cases items with
  | nil => rfl
  | cons first rest =>
    rw [Text.splitAt_intercalate (by simp), List.map_map]
    · simp [Function.comp_def]
    · intro piece hpiece
      obtain ⟨item, hitem, rfl⟩ := List.mem_map.1 hpiece
      exact hnone item hitem

/-! ## Sets of names -/

section Names

variable {names : NameSet} {entries items : List String}

/-- **Names in a row** are read as their set. -/
theorem readNames_of_spells (hfits : ∀ name ∈ names, FitsList name)
    (hentries : ∀ name, name ∈ entries ↔ name ∈ names) (h : Spells SpellsName entries items) :
    readNames items = names := by
  have hrow : List.Forall₂ Eq ((items.map trim).filter (!·.isEmpty)) entries := by
    refine h.forall₂ fun name hname item hitem => ?_
    have hfit : FitsList name := hfits name ((hentries name).1 hname)
    have htrim : trim item = name := trim_of_spellsName hitem hfit
    exact ⟨htrim ▸ hfit.ne_empty, htrim⟩
  rw [List.forall₂_eq_eq_eq] at hrow
  rw [readNames, hrow]
  refine Std.ExtTreeSet.ext_mem fun name => ?_
  rw [NameSet.mem_ofNames, hentries]

/-- **Names between commas** are read as their set. -/
theorem readList_of_spells (hfits : ∀ name ∈ names, FitsList name)
    (hentries : ∀ name, name ∈ entries ↔ name ∈ names) (h : Spells SpellsName entries items) :
    readList (",".intercalate items) = names := by
  have hcomma : isBlank ',' = false := by decide
  have hnone : ∀ item ∈ items, ',' ∉ item.toList :=
    h.not_mem hcomma fun name hname item hitem =>
      not_mem_of_padded hitem hcomma (hfits name ((hentries name).1 hname)).no_comma
  rw [← readNames_of_spells hfits hentries h, readList, readNames, readNames,
    split_intercalate_filter rfl hnone]

end Names

/-- A list of texts is read as the names that it lists. -/
theorem decodeNames_texts (items : List String) :
    decodeNames (.list (items.map .text)) = .ok (readNames items) := by
  have hdecode : (items.map Value.text).mapM decodeName = .ok items := by
    rw [mapM_eq_ok_iff, List.forall₂_map_left_iff, List.forall₂_same]
    exact fun item _ => rfl
  rw [decodeNames, hdecode]
  rfl

/-! ## Tables of texts -/

section Pairs

variable {table : Table String} {pairs : List (String × String)} {items : List String}

/-- The pairs of a table, in any order, make up the table. -/
theorem ofPairs_of_perm (h : pairs.Perm table.toList) : Table.ofPairs pairs = table := by
  have hpairs : ∀ key value, (key, value) ∈ pairs ↔ table[key]? = some value := fun key value => by
    rw [h.mem_iff, Std.ExtTreeMap.mem_toList_iff_getElem?_eq_some]
  refine Std.ExtTreeMap.ext_getElem? fun key => Option.ext fun value => ?_
  rw [Table.getElem?_ofPairs_eq_some_iff, hpairs]
  intro key a b ha hb
  exact Option.some.inj (((hpairs key a).1 ha).symm.trans ((hpairs key b).1 hb))

/-- An item that spells a pair which fits does not hold the sign between items. -/
theorem not_mem_of_spellsPair {pair : String × String} {item : String} (h : SpellsPair pair item)
    (hfits : FitsPairs pair) : ';' ∉ item.toList := by
  obtain ⟨key, value, hkey, hvalue, hitem⟩ := h
  have hsemicolon : isBlank ';' = false := by decide
  rw [hitem, List.mem_append, List.mem_cons]
  rintro (hmem | hmem | hmem)
  · exact not_mem_of_padded hkey hsemicolon hfits.key_no_semicolon hmem
  · exact absurd hmem (by decide)
  · exact not_mem_of_padded hvalue hsemicolon hfits.value_no_semicolon hmem

/-- **Pairs between semicolons** are read as their table. -/
theorem readPairs_of_spells (hfits : ∀ pair ∈ table.toList, FitsPairs pair)
    (hpairs : pairs.Perm table.toList) (h : Spells SpellsPair pairs items) :
    readPairs (";".intercalate items) = .ok table := by
  have hfits' : ∀ pair ∈ pairs, FitsPairs pair := fun pair hpair =>
    hfits pair (hpairs.mem_iff.1 hpair)
  have hnone : ∀ item ∈ items, ';' ∉ item.toList :=
    h.not_mem (by decide) fun pair hpair item hitem =>
      not_mem_of_spellsPair hitem (hfits' pair hpair)
  have hrow : List.Forall₂ (fun item pair => readPair item = .ok pair)
      ((items.map trim).filter (!·.isEmpty)) pairs :=
    h.forall₂ fun pair hpair item hitem =>
      ⟨trim_ne_empty_of_spellsPair hitem, readPair_of_spellsPair hitem (hfits' pair hpair)⟩
  rw [readPairs, pairItems, split_intercalate_filter rfl hnone, mapM_eq_ok_iff.2 hrow,
    Except.map, ofPairs_of_perm hpairs]

/-- The pairs of a table in tree form are decoded to the table. -/
theorem decodeTexts_table (hpairs : pairs.Perm table.toList) :
    decodeTexts (.table (pairs.map fun pair => (pair.1, .text pair.2))) = .ok table := by
  have hdecode : (pairs.map fun pair => (pair.1, Value.text pair.2)).mapM
      (fun field => do return (field.1, ← decodePlainText field.2)) =
        (.ok pairs : Except DecodeError (List (String × String))) := by
    rw [mapM_eq_ok_iff, List.forall₂_map_left_iff, List.forall₂_same]
    exact fun pair _ => rfl
  rw [decodeTexts, decodeFields, hdecode, ← ofPairs_of_perm hpairs]
  rfl

end Pairs

/-! ## Texts that are no table -/

/-- An item is refused as a pair exactly if it has no equals sign. -/
theorem readPair_eq_error_iff {item : String} :
    (∃ e, readPair item = .error e) ↔ '=' ∉ item.toList := by
  unfold readPair
  cases h : Text.splitOnce '=' item.toList with
  | none => simpa using Text.splitOnce_eq_none_iff.1 h
  | some parts =>
    obtain ⟨heq, -⟩ := Text.splitOnce_eq_some_iff.1 h
    simp [heq]

/-- Trimming neither takes an equals sign away nor adds one. -/
theorem equals_mem_trim_iff {item : String} : '=' ∈ (trim item).toList ↔ '=' ∈ item.toList := by
  rw [Text.toList_trim]
  constructor
  · exact Text.mem_of_mem_trimChars
  · intro hmem
    obtain ⟨front, back, heq⟩ := List.append_of_mem hmem
    rw [heq, trimChars, Text.trimStart_append_cons (by decide),
      Text.trimEnd_append_cons (by decide)]
    simp

/-- **A text is no table** exactly when some item between semicolons is not blank and has no equals
sign. -/
theorem readPairs_eq_error_iff {text : String} :
    (∃ e, readPairs text = .error e) ↔
      ∃ item ∈ Text.split (· == ';') text, isBlankText item = false ∧ '=' ∉ item.toList := by
  have hkept {item : String} : (trim item).isEmpty = false ↔ isBlankText item = false := by
    rw [Bool.eq_false_iff, Bool.eq_false_iff, Ne, Ne, String.isEmpty_iff, Text.trim_eq_empty_iff,
      Text.isBlankText_iff]
  simp only [readPairs, map_eq_error_iff, exists_mapM_eq_error_iff, readPair_eq_error_iff,
    pairItems, List.mem_filter, List.mem_map, Bool.not_eq_true', and_assoc,
    exists_exists_and_eq_and, hkept, equals_mem_trim_iff]

/-! ## Main statement -/

/-- **Text forms mean what they list.** A table of trimmed texts, without semicolons and without
equals signs in its keys, is read from any items between semicolons that spell its pairs, in any
order and with blanks and blank items anywhere, as it is read from the pairs themselves. A set of
trimmed names, none empty and without commas, is read from any items between commas that spell
its names, repeats and blank items included, as it is read from a list of the items. A text is
refused as a table exactly when some item between semicolons is not blank and has no equals sign. -/
theorem text_forms :
    (∀ (table : Table String) (pairs : List (String × String)) (items : List String),
      (∀ pair ∈ table.toList, FitsPairs pair) → pairs.Perm table.toList →
      Spells SpellsPair pairs items →
        decodeTexts (.text (";".intercalate items)) = .ok table ∧
        decodeTexts (.table (pairs.map fun pair => (pair.1, .text pair.2))) = .ok table) ∧
    (∀ (names : NameSet) (entries items : List String),
      (∀ name ∈ names, FitsList name) → (∀ name, name ∈ entries ↔ name ∈ names) →
      Spells SpellsName entries items →
        decodeNames (.text (",".intercalate items)) = .ok names ∧
        decodeNames (.list (items.map .text)) = .ok names) ∧
    (∀ text : String, (∃ e, readPairs text = .error e) ↔
      ∃ item ∈ Text.split (· == ';') text, isBlankText item = false ∧ '=' ∉ item.toList) := by
  refine ⟨fun table pairs items hfits hpairs h => ⟨?_, decodeTexts_table hpairs⟩,
    fun names entries items hfits hentries h => ⟨?_, ?_⟩, fun text => readPairs_eq_error_iff⟩
  · rw [decodeTexts, readPairs_of_spells hfits hpairs h]
    rfl
  · rw [← readList_of_spells hfits hentries h]
    rfl
  · rw [← readNames_of_spells hfits hentries h]
    exact decodeNames_texts items

/-- A table with equals signs, commas and brackets in its values, and a set with a name that is
listed twice. -/
theorem text_forms_greeters :
    decodeTexts (.text ";demo.Other = ; \t;demo.Greeter=\ta=b,(c) ") =
        .ok (Table.ofPairs [("demo.Greeter", "a=b,(c)"), ("demo.Other", "")]) ∧
      decodeNames (.text "two, one , ,two ") = .ok (NameSet.ofNames ["one", "two"]) := by
  constructor
  · have hlist : (Table.ofPairs [("demo.Greeter", "a=b,(c)"), ("demo.Other", "")]).toList =
        [("demo.Greeter", "a=b,(c)"), ("demo.Other", "")] := by decide +kernel
    have hblank : isBlankText "" = true ∧ isBlankText " \t" = true := by decide
    refine (text_forms.1 _ [("demo.Other", ""), ("demo.Greeter", "a=b,(c)")]
      ["", "demo.Other = ", " \t", "demo.Greeter=\ta=b,(c) "] (by decide +kernel) ?_ ?_).1
    · rw [hlist]
      exact .swap _ _ []
    · refine .blank hblank.1 (.entry ?_ (.blank hblank.2 (.entry ?_ .nil)))
      · exact ⟨"demo.Other ".toList, [' '], ⟨[], [' '], by simp, List.all_eq_true.1 rfl, by simp⟩,
          ⟨[' '], [], List.all_eq_true.1 rfl, by simp, by simp⟩, by simp⟩
      · exact ⟨"demo.Greeter".toList, "\ta=b,(c) ".toList, ⟨[], [], by simp, by simp, by simp⟩,
          ⟨['\t'], [' '], List.all_eq_true.1 rfl, List.all_eq_true.1 rfl, by simp⟩, by simp⟩
  · have hfits : ∀ name ∈ ["one", "two"], FitsList name := by decide +kernel
    refine (text_forms.2.1 _ ["two", "one", "two"] ["two", " one ", " ", "two "] ?_ ?_ ?_).1
    · exact fun name hname => hfits name (NameSet.mem_ofNames.1 hname)
    · intro name
      rw [NameSet.mem_ofNames]
      grind
    · refine .entry ⟨[], [], ?_⟩ (.entry ⟨[' '], [' '], ?_⟩ (.blank (by decide)
        (.entry ⟨[], [' '], ?_⟩ .nil)))
      · exact ⟨by simp, by simp, by simp⟩
      · exact ⟨List.all_eq_true.1 rfl, List.all_eq_true.1 rfl, by simp⟩
      · exact ⟨by simp, List.all_eq_true.1 rfl, by simp⟩

end Wiring.Settings
