import Wiring.Proofs.Settings.Layers
import Wiring.Settings.Load

/-!
# Settings · Every source is a well-formed tree

Whatever a source of settings holds, in its tree every key stands once: in encoded settings
(`keysOnce_encode`), in the tree of environment variables (`Environment.keysOnce_tree`) and in that
of a TOML file (`Toml.keysOnce_parse?`), whose readers refuse a key that is there or replace what
stands under it.
-/

namespace Wiring.Settings

open Value (KeysOnce)

/-! ## Encoded settings -/

/-- In a table that is written out every key stands once, if it does in its values. -/
theorem keysOnce_encodeTable {α : Type} {encode : α → Value} (h : ∀ a, (encode a).KeysOnce)
    (table : Table α) : (encodeTable encode table).KeysOnce := by
  refine .table ?_ fun field hfield => ?_
  · have hkeys : (table.toList.map fun pair => (pair.1, encode pair.2)).map Prod.fst =
        table.keys := by
      rw [List.map_map, ← Std.ExtTreeMap.map_fst_toList_eq_keys]
      rfl
    exact hkeys ▸ table.nodup_keys
  · obtain ⟨pair, -, rfl⟩ := List.mem_map.1 hfield
    exact h pair.2

/-- In a logging section that is written out every key stands once. -/
theorem keysOnce_encodeLogging (c : LoggingConfig) : (encodeLogging c).KeysOnce := by
  have hpath : ((c.filePath.map Value.text).getD .null).KeysOnce := by
    cases c.filePath <;> exact .plain rfl
  have hspans : (Value.table [("new", .bool c.spanEvents.new),
      ("close", .bool c.spanEvents.close)]).KeysOnce := by
    refine .table (by simp) ?_
    simp only [List.forall_mem_cons, List.not_mem_nil, false_implies, implies_true, and_true]
    exact ⟨.plain rfl, .plain rfl⟩
  refine .table (by simp) ?_
  simp only [List.forall_mem_cons, List.not_mem_nil, false_implies, implies_true, and_true]
  exact ⟨.plain rfl, .plain rfl, .plain rfl, hpath, .plain rfl, .plain rfl, hspans,
    keysOnce_encodeTable (fun _ => .plain rfl) c.filters⟩

/-- **Encoded settings** have every key once. -/
theorem keysOnce_encode (s : Settings) : (encode s).KeysOnce := by
  refine .table (by simp) ?_
  simp only [List.forall_mem_cons, List.not_mem_nil, false_implies, implies_true, and_true]
  exact ⟨.plain rfl, .plain rfl, .plain rfl, keysOnce_encodeTable (fun _ => .plain rfl) s.apply,
    keysOnce_encodeTable (fun _ => .plain rfl) s.ignore, keysOnce_encodeLogging s.logging⟩

/-! ## Environment variables -/

namespace Environment

/-- In a value that is read from a word every key stands once. -/
theorem keysOnce_plainValue (cs : List Char) : (plainValue cs).KeysOnce := by
  unfold plainValue
  split
  · exact .plain rfl
  · split
    · exact .plain rfl
    · split <;> exact .plain rfl

/-- Neither a value nor the entries of a table are read with a key twice. -/
theorem keysOnce_read (fuel : Nat) :
    (∀ {cs value rest}, readValue fuel cs = some (value, rest) → value.KeysOnce) ∧
    (∀ {cs fields rest}, readFields fuel cs = some (fields, rest) →
      FieldsOnce KeysOnce fields) := by
  induction fuel with
  | zero =>
    constructor
    · intro cs value rest h
      cases h
    · intro cs fields rest h
      cases h
  | succ fuel ih =>
    obtain ⟨ihvalue, ihfields⟩ := ih
    constructor
    · intro cs value rest h
      rw [readValue] at h
      split at h
      case h_1 | h_2 | h_6 =>
        cases h
        exact .plain rfl
      case h_3 =>
        obtain ⟨_, hread, hdone⟩ := Option.bind_eq_some_iff.1 h
        obtain ⟨⟨fields, after⟩, hfields, rfl⟩ := Option.map_eq_some_iff.1 hread
        cases hdone
        exact Value.keysOnce_table_iff.2 (ihfields hfields)
      case h_4 | h_5 =>
        obtain ⟨_, hread, hdone⟩ := Option.bind_eq_some_iff.1 h
        obtain ⟨read, -, rfl⟩ := Option.map_eq_some_iff.1 hread
        cases hdone
        exact .plain rfl
      case h_7 => cases h
      case h_8 =>
        cases h
        exact keysOnce_plainValue _
    · intro cs fields rest h
      rw [readFields.eq_def] at h
      split at h
      · cases h
      · cases h
        exact .nil
      · rename_i hfuel _
        obtain rfl := Nat.succ.inj hfuel
        obtain ⟨⟨key, afterKey⟩, -, h⟩ := Option.bind_eq_some_iff.1 h
        dsimp only at h
        split at h
        · obtain ⟨⟨value, afterValue⟩, hvalue, h⟩ := Option.bind_eq_some_iff.1 h
          dsimp only at h
          split at h
          · obtain ⟨⟨others, afterOthers⟩, hothers, hdone⟩ := Option.bind_eq_some_iff.1 h
            cases hdone
            -- An entry whose key comes again later is dropped.
            have hothers : FieldsOnce KeysOnce others := ihfields hothers
            cases hkey : others.lookup key with
            | some old => exact hothers
            | none => exact hothers.cons (lookup_eq_none_iff_not_mem.1 hkey) (ihvalue hvalue)
          · cases h
            exact .cons (by simp) (ihvalue hvalue) .nil
          · cases h
        · cases h

/-- In a value that is read from a text every key stands once. -/
theorem keysOnce_valueOfText (text : String) : (valueOfText text).KeysOnce := by
  unfold valueOfText
  dsimp only
  split
  · rename_i value hread
    exact (keysOnce_read _).1 hread
  · exact .plain rfl

/-- **The tree of environment variables** has every key once. -/
theorem keysOnce_tree (keyPrefix : String) (entries : List (String × String)) :
    (tree keyPrefix entries).KeysOnce := by
  refine Value.keysOnce_layered fun layer hlayer => ?_
  obtain ⟨entry, -, hlayer⟩ := List.mem_filterMap.1 hlayer
  obtain ⟨path, -, rfl⟩ := Option.map_eq_some_iff.1 hlayer
  exact Value.keysOnce_nest (keysOnce_valueOfText entry.2)

end Environment

/-! ## TOML files -/

namespace Toml

/-- Whether in every table below a node every key stands once. Tables in a row are left out, as
lists are. -/
inductive Node.KeysOnce : Node → Prop
  /-- A finished value. -/
  | leaf {value : Value} (h : value.KeysOnce) : Node.KeysOnce (.leaf value)
  /-- A table. -/
  | table {origin : Origin} {fields : Fields} (hkeys : (fields.map Prod.fst).Nodup)
      (hfields : ∀ field ∈ fields, Node.KeysOnce field.2) : Node.KeysOnce (.table origin fields)
  /-- Tables in a row. -/
  | tables (elements : List Fields) : Node.KeysOnce (.tables elements)

/-- Every key stands once below a table exactly if it does in its fields. -/
theorem Node.keysOnce_table_iff {origin : Origin} {fields : Fields} :
    (Node.table origin fields).KeysOnce ↔ FieldsOnce Node.KeysOnce fields := by
  constructor
  · rintro ⟨⟩
    constructor <;> assumption
  · exact fun h => .table h.keys h.values

/-! ### From nodes to values -/

/-- The fields of a table are the values of its nodes. -/
theorem valueFields_eq_map (fields : Fields) :
    valueFields fields = fields.map fun field => (field.1, field.2.value) := by
  induction fields with
  | nil => rw [valueFields, List.map_nil]
  | cons field rest ih =>
    obtain ⟨key, node⟩ := field
    rw [valueFields, ih, List.map_cons]

/-- Fields with different keys stay so as values. -/
theorem fieldsOnce_valueFields {fields : Fields} (hkeys : (fields.map Prod.fst).Nodup)
    (hvalues : ∀ field ∈ fields, field.2.value.KeysOnce) :
    FieldsOnce KeysOnce (valueFields fields) := by
  rw [valueFields_eq_map]
  constructor
  · rwa [List.map_map]
  · exact List.forall_mem_map.2 hvalues

/-- A node in which every key stands once is such a value. -/
theorem keysOnce_value {node : Node} (h : node.KeysOnce) : node.value.KeysOnce := by
  induction h with
  | leaf h => rwa [Node.value]
  | table hkeys _ ih =>
    rw [Node.value]
    exact Value.keysOnce_table_iff.2 (fieldsOnce_valueFields hkeys ih)
  | tables elements =>
    rw [Node.value]
    exact .plain rfl

/-- Fields in which every key stands once are such a table. -/
theorem keysOnce_valueFields {fields : Fields} (h : FieldsOnce Node.KeysOnce fields) :
    (Value.table (valueFields fields)).KeysOnce :=
  Value.keysOnce_table_iff.2
    (fieldsOnce_valueFields h.keys fun field hfield => keysOnce_value (h.values field hfield))

/-! ### Growing tables -/

/-- A change keeps every key once. -/
def KeepsKeys (change : Origin → Fields → Option Fields) : Prop :=
  ∀ {origin fields changed}, FieldsOnce Node.KeysOnce fields →
    change origin fields = some changed → FieldsOnce Node.KeysOnce changed

/-- A table changed below keeps every key once, if the change does. -/
theorem keepsKeys_updateAt {viaDots : Bool} {path : List String}
    {change : Origin → Fields → Option Fields} (hchange : KeepsKeys change) :
    KeepsKeys fun origin fields => updateAt viaDots origin fields path change := by
  intro origin fields changed hfields h
  induction path generalizing origin fields changed with
  | nil => exact hchange hfields h
  | cons key rest ih =>
    dsimp only at h
    rw [updateAt] at h
    split at h
    · obtain ⟨inner, hinner, hdone⟩ := Option.bind_eq_some_iff.1 h
      cases hdone
      exact hfields.upsert (Node.keysOnce_table_iff.2 (ih .nil hinner))
    · rename_i inside inner hkey
      split at h
      · cases h
      · obtain ⟨changed, hchanged, hdone⟩ := Option.bind_eq_some_iff.1 h
        cases hdone
        have hinner := Node.keysOnce_table_iff.1 (hfields.of_lookup hkey)
        exact hfields.upsert (Node.keysOnce_table_iff.2 (ih hinner hchanged))
    · -- Whatever is changed within the latest of the tables in a row, they stay a list.
      obtain ⟨last, -, h⟩ := Option.bind_eq_some_iff.1 h
      obtain ⟨changed, -, hdone⟩ := Option.bind_eq_some_iff.1 h
      cases hdone
      exact hfields.upsert (.tables _)
    · cases h

/-- A field with a new key may be added at the end. -/
theorem fieldsOnce_append {fields : Fields} {key : String} {node : Node}
    (h : FieldsOnce Node.KeysOnce fields) (hkey : fields.lookup key = none)
    (hnode : node.KeysOnce) : FieldsOnce Node.KeysOnce (fields ++ [(key, node)]) := by
  rw [← upsert_of_not_mem (lookup_eq_none_iff_not_mem.1 hkey)]
  exact h.upsert hnode

/-- To add a leaf keeps every key once. -/
theorem keepsKeys_addLeaf {path : List String} {value : Value} (hvalue : value.KeysOnce) :
    KeepsKeys fun origin fields => addLeaf origin fields path value := by
  intro origin fields changed hfields h
  obtain ⟨key, -, h⟩ := Option.bind_eq_some_iff.1 h
  refine keepsKeys_updateAt (fun {inside inner changed} hinner hchanged => ?_) hfields h
  split at hchanged
  · cases hchanged
  · split at hchanged
    · cases hchanged
    · rename_i hkey
      cases hchanged
      exact fieldsOnce_append hinner (Option.not_isSome_iff_eq_none.1 hkey) (.leaf hvalue)

/-- To open a table keeps every key once. -/
theorem fieldsOnce_openTable {path : List String} {fields changed : Fields}
    (hfields : FieldsOnce Node.KeysOnce fields) (h : openTable fields path = some changed) :
    FieldsOnce Node.KeysOnce changed := by
  obtain ⟨key, -, h⟩ := Option.bind_eq_some_iff.1 h
  refine keepsKeys_updateAt (fun {inside inner changed} hinner hchanged => ?_) hfields h
  split at hchanged
  · rename_i hkey
    cases hchanged
    exact fieldsOnce_append hinner hkey (Node.keysOnce_table_iff.2 .nil)
  · rename_i old hkey
    cases hchanged
    have hold := Node.keysOnce_table_iff.1 (hinner.of_lookup hkey)
    exact hinner.upsert (Node.keysOnce_table_iff.2 hold)
  · cases hchanged

/-- To open an element of a row of tables keeps every key once. -/
theorem fieldsOnce_openElement {path : List String} {fields changed : Fields}
    (hfields : FieldsOnce Node.KeysOnce fields) (h : openElement fields path = some changed) :
    FieldsOnce Node.KeysOnce changed := by
  obtain ⟨key, -, h⟩ := Option.bind_eq_some_iff.1 h
  refine keepsKeys_updateAt (fun {inside inner changed} hinner hchanged => ?_) hfields h
  split at hchanged
  · rename_i hkey
    cases hchanged
    exact fieldsOnce_append hinner hkey (.tables _)
  · cases hchanged
    exact hinner.upsert (.tables _)
  · cases hchanged

/-! ### Readers -/

/-- In a value that is read from a bare word every key stands once. -/
theorem keysOnce_of_plainValue? {cs : List Char} {value : Value}
    (h : plainValue? cs = some value) : value.KeysOnce := by
  have hinteger {result : Option Int} (h : result.map Value.integer = some value) :
      value.KeysOnce := by
    obtain ⟨n, -, rfl⟩ := Option.map_eq_some_iff.1 h
    exact .plain rfl
  rw [plainValue?.eq_def] at h
  split at h
  case h_1 | h_2 =>
    cases h
    exact .plain rfl
  case h_3 | h_4 | h_5 => exact hinteger h
  case h_6 =>
    dsimp only at h
    split at h
    · exact hinteger h
    · split at h
      · cases h
        exact .plain rfl
      · obtain ⟨m, -, rfl⟩ := Option.map_eq_some_iff.1 h
        exact Value.keysOnce_table_iff.2 (.cons (by simp) (.plain rfl) .nil)

/-- Neither a value nor the entries of a table in braces are read with a key twice. -/
theorem keysOnce_read (fuel : Nat) :
    (∀ {room cs value rest}, readValue fuel room cs = some (value, rest) → value.KeysOnce) ∧
    (∀ {room fields cs read rest}, FieldsOnce Node.KeysOnce fields →
      readEntries fuel room fields cs = some (read, rest) → FieldsOnce Node.KeysOnce read) := by
  induction fuel with
  | zero =>
    constructor
    · intro room cs value rest h
      cases h
    · intro room fields cs read rest _ h
      cases h
  | succ fuel ih =>
    obtain ⟨ihvalue, ihentries⟩ := ih
    constructor
    · intro room cs value rest h
      rw [readValue.eq_def] at h
      dsimp only at h
      split at h
      case h_1 | h_2 | h_3 =>
        obtain ⟨read, -, hdone⟩ := Option.map_eq_some_iff.1 h
        cases hdone
        exact .plain rfl
      case h_4 =>
        split at h
        · cases h
          exact Value.keysOnce_table_iff.2 .nil
        · obtain ⟨⟨fields, after⟩, hfields, hdone⟩ := Option.map_eq_some_iff.1 h
          cases hdone
          exact keysOnce_valueFields (ihentries .nil hfields)
      case h_5 =>
        obtain ⟨read, hread, hdone⟩ := Option.map_eq_some_iff.1 h
        cases hdone
        exact keysOnce_of_plainValue? hread
    · intro room fields cs read rest hfields h
      rw [readEntries] at h
      obtain ⟨⟨path, afterPath⟩, -, h⟩ := Option.bind_eq_some_iff.1 h
      dsimp only at h
      split at h
      · obtain ⟨⟨value, afterValue⟩, hvalue, h⟩ := Option.bind_eq_some_iff.1 h
        obtain ⟨grown, hgrown, h⟩ := Option.bind_eq_some_iff.1 h
        have hgrown : FieldsOnce Node.KeysOnce grown :=
          keepsKeys_addLeaf (ihvalue hvalue) hfields hgrown
        split at h
        · exact ihentries hgrown h
        · cases h
          exact hgrown
        · cases h
      · cases h

/-! ### Lines -/

/-- To read a header keeps every key once. -/
theorem fieldsOnce_readHeader {doc read : Document} {cs rest : List Char}
    (hdoc : FieldsOnce Node.KeysOnce doc.fields) (h : doc.readHeader cs = some (read, rest)) :
    FieldsOnce Node.KeysOnce read.fields := by
  unfold Document.readHeader at h
  split at h
  · obtain ⟨⟨path, after⟩, -, h⟩ := Option.bind_eq_some_iff.1 h
    dsimp only at h
    split at h
    · obtain ⟨fields, hfields, hdone⟩ := Option.bind_eq_some_iff.1 h
      cases hdone
      exact fieldsOnce_openElement hdoc hfields
    · cases h
  · obtain ⟨⟨path, after⟩, -, h⟩ := Option.bind_eq_some_iff.1 h
    dsimp only at h
    split at h
    · obtain ⟨fields, hfields, hdone⟩ := Option.bind_eq_some_iff.1 h
      cases hdone
      exact fieldsOnce_openTable hdoc hfields
    · cases h

/-- To read an entry keeps every key once. -/
theorem fieldsOnce_readEntry {doc read : Document} {cs rest : List Char}
    (hdoc : FieldsOnce Node.KeysOnce doc.fields) (h : doc.readEntry cs = some (read, rest)) :
    FieldsOnce Node.KeysOnce read.fields := by
  unfold Document.readEntry at h
  obtain ⟨⟨path, after⟩, -, h⟩ := Option.bind_eq_some_iff.1 h
  dsimp only at h
  split at h
  · obtain ⟨⟨value, afterValue⟩, hvalue, h⟩ := Option.bind_eq_some_iff.1 h
    obtain ⟨grown, hgrown, hdone⟩ := Option.bind_eq_some_iff.1 h
    cases hdone
    obtain ⟨fields, hfields, hdone⟩ := Option.bind_eq_some_iff.1 hgrown
    cases hdone
    exact keepsKeys_updateAt (keepsKeys_addLeaf ((keysOnce_read _).1 hvalue)) hdoc hfields
  · cases h

/-- To read a line keeps every key once. -/
theorem fieldsOnce_readLine {doc read : Document} {cs rest : List Char}
    (hdoc : FieldsOnce Node.KeysOnce doc.fields) (h : doc.readLine cs = some (read, rest)) :
    FieldsOnce Node.KeysOnce read.fields := by
  unfold Document.readLine at h
  split at h
  case h_5 => exact fieldsOnce_readHeader hdoc h
  case h_6 => exact fieldsOnce_readEntry hdoc h
  all_goals
    cases h
    exact hdoc

/-- To read lines keeps every key once. -/
theorem fieldsOnce_readLines {fuel : Nat} {doc read : Document} {cs : List Char}
    (hdoc : FieldsOnce Node.KeysOnce doc.fields) (h : doc.readLines fuel cs = some read) :
    FieldsOnce Node.KeysOnce read.fields := by
  induction fuel generalizing doc cs with
  | zero => cases h
  | succ fuel ih =>
    rw [Document.readLines] at h
    obtain ⟨⟨grown, afterLine⟩, hline, h⟩ := Option.bind_eq_some_iff.1 h
    have hgrown : FieldsOnce Node.KeysOnce grown.fields := fieldsOnce_readLine hdoc hline
    obtain ⟨after, -, h⟩ := Option.bind_eq_some_iff.1 h
    split at h
    · cases h
      exact hgrown
    · obtain ⟨next, -, h⟩ := Option.bind_eq_some_iff.1 h
      exact ih hgrown h

/-- **The tree of a TOML file** has every key once. -/
theorem keysOnce_parse? {text : String} {value : Value} (h : parse? text = some value) :
    value.KeysOnce := by
  obtain ⟨doc, hdoc, rfl⟩ := Option.map_eq_some_iff.1 h
  exact keysOnce_valueFields (fieldsOnce_readLines .nil hdoc)

end Toml

end Wiring.Settings
