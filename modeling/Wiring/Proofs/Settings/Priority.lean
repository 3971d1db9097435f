import Wiring.Proofs.Settings.Fields
import Wiring.Proofs.Settings.KeysOnce

/-!
# Settings · Which source counts

Settings are layered from the built-in defaults, base settings, a file, environment variables and
values set by the program, path by path. Main statement: `load_by_priority`. For every field of
loaded settings the highest source that does not leave its path open decides, and what it has there
is what the field is read from, unless it is a table. What tables are joined to is said of the whole
tree: the values set by the program are layered among themselves first, and so make up one source
above the others. This matters where one of them hides another one (`load_not_one_by_one`).
-/

namespace Wiring

open Settings (Key encode)
open Value (KeysOnce LayeredFrom decider? layered)

/-! ## Trees and what is read from them -/

/-- How settings are read from a tree. -/
structure Settings.ReadFrom (tree : Value) (settings : Settings) : Prop where
  /-- Every field is read from what stands at the end of its way, or has its default. -/
  field : ∀ key : Key, key.Holds (tree.reach? key.steps) settings
  /-- A table of services to apply has under a contract the text that the tree has there; -/
  apply : ∀ {fields}, tree.get? Key.apply.path = some (.table fields) → ∀ contract text,
    settings.apply[contract]? = some text ↔
      tree.get? (Key.apply.path ++ [contract]) = some (.text text)
  /-- so has a table of plugins to disable, -/
  ignore : ∀ {fields}, tree.get? Key.ignore.path = some (.table fields) → ∀ contract text,
    settings.ignore[contract]? = some text ↔
      tree.get? (Key.ignore.path ++ [contract]) = some (.text text)
  /-- and a table of levels has under a target the level that the tree has there. -/
  filters : ∀ {fields}, tree.get? Key.filters.path = some (.table fields) → ∀ target level,
    settings.logging.filters[target]? = some level ↔
      ∃ value, tree.get? (Key.filters.path ++ [target]) = some value ∧
        Settings.decodeLogLevel .ignored value = .ok level

namespace Settings

/-- A text is read as it is, and from nothing else. -/
theorem decodePlainText_eq_ok_iff {value : Value} {text : String} :
    decodePlainText value = .ok text ↔ value = .text text := by
  cases value <;> simp [decodePlainText]

/-- **Decoded settings** are read from their tree. -/
theorem readFrom_of_decode {tree : Value} {settings : Settings} (htree : tree.KeysOnce)
    (h : decode .ignored tree = .ok settings) : ReadFrom tree settings := by
  have hfield (key : Key) {value : Value} (hvalue : tree.get? key.path = some value) :
      key.Holds (some value) settings := by
    have hholds := holds_of_decode h key
    rwa [Value.reach?_of_get? hvalue] at hholds
  have hentry {α : Type} {decode : Value → Except DecodeError α} {table : Table α}
      {path : List String} {fields : List (String × Value)}
      (hfields : tree.get? path = some (.table fields))
      (htable : decodeFields decode fields = .ok table) (key : String) (a : α) :
      table[key]? = some a ↔ ∃ value, tree.get? (path ++ [key]) = some value ∧
        decode value = .ok a := by
    have hkeys := (Value.keysOnce_table_iff.1 (htree.of_get? hfields)).keys
    rw [getElem?_of_decodeFields hkeys htable, Value.get?_append_singleton, hfields]
    rfl
  refine ⟨holds_of_decode h, fun hfields contract text => ?_, fun hfields contract text => ?_,
    fun hfields target level => hentry hfields (hfield .filters hfields) target level⟩
  · rw [hentry hfields (hfield .apply hfields)]
    simp only [decodePlainText_eq_ok_iff, exists_eq_right]
  · rw [hentry hfields (hfield .ignore hfields)]
    simp only [decodePlainText_eq_ok_iff, exists_eq_right]

/-- Encoded settings have something for every field. -/
theorem exists_get?_encode (settings : Settings) (key : Key) :
    ∃ value, (encode settings).get? key.path = some value := by
  cases key <;> exact ⟨_, rfl⟩

end Settings

/-! ## Sources -/

namespace SettingsSources

variable {sources : SettingsSources} {s : Surroundings} {settings : Settings} {file : Value}

/-- The layers below the values set by the program, the weakest first. The one of the settings file
is given. -/
def lower (sources : SettingsSources) (s : Surroundings) (file : Value) : List Value :=
  (Settings.default :: sources.bases).map encode ++ [file, sources.environmentLayer s]

/-- **Loaded settings** are what the layered tree is decoded to. -/
theorem load_eq_ok (h : (sources.load s).2 = .ok settings) :
    ∃ file values, (sources.fileLayer s).2 = .ok file ∧
      sources.values.mapM valueLayer = .ok values ∧
      Settings.decode .ignored (layered (sources.lower s file ++ [layered values])) =
        .ok settings := by
  unfold load at h
  split at h
  rename_i fileLog result hfile
  have hresult : (sources.fileLayer s).2 = result := congrArg Prod.snd hfile
  split at h
  · cases h
  · cases h
  · rename_i file
    dsimp only at h
    split at h
    · cases h
    · rename_i loaded hload
      cases h
      obtain ⟨layers, hlayers, hextract⟩ := bind_eq_ok_iff.1 hload
      obtain ⟨set, hset, hlayers⟩ := bind_eq_ok_iff.1 hlayers
      obtain ⟨values, hvalues, hset⟩ := bind_eq_ok_iff.1 hset
      cases hset
      cases hlayers
      obtain ⟨decoded, hdecoded, hvalid⟩ := bind_eq_ok_iff.1 hextract
      obtain ⟨_, -, hdone⟩ := bind_eq_ok_iff.1 hvalid
      cases hdone
      refine ⟨file, values, hresult, hvalues, ?_⟩
      have hdecoded := mapError_eq_ok_iff.1 hdecoded
      rw [lower, List.append_assoc]
      exact hdecoded

/-- In what a file sets every key stands once. -/
theorem keysOnce_fileLayer (h : (sources.fileLayer s).2 = .ok file) : file.KeysOnce := by
  have hread {path : String} (h : readFile s.tree path = .ok file) : file.KeysOnce := by
    unfold readFile at h
    split at h
    · cases h
      exact Value.keysOnce_table_iff.2 .nil
    · split at h
      · rename_i value hvalue
        cases h
        obtain ⟨text, -, hparse⟩ := Option.bind_eq_some_iff.1 hvalue
        exact Settings.Toml.keysOnce_parse? hparse
      · cases h
  unfold fileLayer at h
  split at h
  · split at h
    · dsimp only [readNamedFile] at h
      split at h
      · exact hread h
      · cases h
    · cases h
  · split at h
    · exact hread h
    · cases h
      exact Value.keysOnce_table_iff.2 .nil

/-- In what a value sets every key stands once, if it does in the value. -/
theorem keysOnce_valueLayer {entry : String × Value} {value : Value} (hentry : entry.2.KeysOnce)
    (h : valueLayer entry = .ok value) : value.KeysOnce := by
  unfold valueLayer at h
  split at h
  · rename_i fields hnest
    cases h
    exact hnest ▸ Value.keysOnce_nest hentry
  · cases h

/-- In each of the layers below the values every key stands once. -/
theorem keysOnce_lower (hfile : file.KeysOnce) :
    ∀ layer ∈ sources.lower s file, layer.KeysOnce := by
  intro layer hlayer
  rcases List.mem_append.1 hlayer with hlayer | hlayer
  · obtain ⟨base, -, rfl⟩ := List.mem_map.1 hlayer
    exact Settings.keysOnce_encode base
  · rcases List.mem_pair.1 hlayer with rfl | rfl
    · exact hfile
    · unfold environmentLayer
      split
      · exact Settings.Environment.keysOnce_tree _ _
      · exact Value.keysOnce_table_iff.2 .nil

/-! ## Main statement -/

/-- **Settings are layered by priority.** Of all sources one by one, the built-in defaults first and
the last value set by the program last, the highest one that does not leave the path of a field open
decides about the field: unless it has a table there, the field is what it has. In general the
values set by the program are layered among themselves, and then above the other sources; in both
layerings every path has what the highest source that does not leave it open says, and the settings
are read from the tree that comes out. -/
theorem load_by_priority (hkeys : ∀ entry ∈ sources.values, entry.2.KeysOnce)
    (h : (sources.load s).2 = .ok settings) :
    ∃ file values, (sources.fileLayer s).2 = .ok file ∧
      sources.values.mapM valueLayer = .ok values ∧
      (∀ key : Key, ∃ layer,
        decider? (sources.lower s file ++ values) key.path = some layer ∧
        ∀ value, layer.get? key.path = some value → value.isTable = false →
          key.Holds (some value) settings) ∧
      ∃ set tree, LayeredFrom values set ∧ LayeredFrom (sources.lower s file ++ [set]) tree ∧
        Settings.ReadFrom tree settings := by
  obtain ⟨file, values, hfile, hvalues, hdecode⟩ := load_eq_ok h
  have hlower : ∀ layer ∈ sources.lower s file, layer.KeysOnce :=
    keysOnce_lower (keysOnce_fileLayer hfile)
  have hupper : ∀ value ∈ values, value.KeysOnce := by
    intro value hvalue
    obtain ⟨entry, hentry, hlayer⟩ := (mem_iff_of_forall₂ (mapM_eq_ok_iff.1 hvalues)).1 hvalue
    exact keysOnce_valueLayer (hkeys entry hentry) hlayer
  have hlayers := Value.keysOnce_append_layered hlower hupper
  refine ⟨file, values, hfile, hvalues, fun key => ?_, layered values, _,
    Value.layeredFrom hupper, Value.layeredFrom hlayers,
    Settings.readFrom_of_decode (Value.keysOnce_layered hlayers) hdecode⟩
  -- The built-in defaults have something for every field, so some source decides about it.
  have hdecider : ∃ layer, decider? (sources.lower s file ++ values) key.path = some layer := by
    obtain ⟨standard, hstandard⟩ := Settings.exists_get?_encode .default key
    exact Value.exists_decider? (by simp [lower]) (Value.leavesOpen_of_get? hstandard)
  obtain ⟨layer, hlayer⟩ := hdecider
  refine ⟨layer, hlayer, fun value hvalue hplain => ?_⟩
  have hpath : key.path ≠ [] := by cases key <;> exact List.cons_ne_nil _ _
  have hget := Value.get?_layered_nested hlower hupper hpath hlayer hvalue hplain
  have hholds := Settings.holds_of_decode hdecode key
  rwa [Value.reach?_of_get? hget] at hholds

/-- Base settings with a layout and a service, a level from the environment, and a service set by
the program in the text form. -/
theorem load_by_priority_greeter :
    let sources : SettingsSources :=
      { SettingsSources.default with
        bases := [{ Settings.default with
          apply := Table.ofPairs [("demo.Greeter", "plain")]
          logging := { LoggingConfig.default with format := .full } }]
        values := [("apply", .text "demo.Other=boxed")] }
    let s : Surroundings := ⟨⟨[], ∅, ∅⟩, [("SPI_LOGGING__LEVEL", "warn")], ""⟩
    let settings : Settings :=
      { Settings.default with
        apply := Table.ofPairs [("demo.Other", "boxed")]
        logging := { LoggingConfig.default with level := .warn, format := .full } }
    (sources.load s).2 = .ok settings ∧ Key.level.Holds (some (.text "warn")) settings ∧
      Key.format.Holds (some (.text "full")) settings ∧
      Key.apply.Holds (some (.text "demo.Other=boxed")) settings := by
  intro sources s settings
  have hload : (sources.load s).2 = .ok settings := by decide +kernel
  have hkeys : ∀ entry ∈ sources.values, entry.2.KeysOnce := by
    intro entry hentry
    rw [List.mem_singleton.1 hentry]
    exact .plain rfl
  obtain ⟨file, values, hfile, hvalues, hfields, -⟩ := load_by_priority hkeys hload
  have hfound : sources.foundFile? s = none := by decide +kernel
  have hempty : (sources.fileLayer s).2 = .ok (.table []) := by
    rw [fileLayer, hfound]
    rfl
  obtain rfl : file = .table [] := Except.ok.inj (hfile.symm.trans hempty)
  have hset : sources.values.mapM valueLayer =
      .ok [.table [("apply", .text "demo.Other=boxed")]] := rfl
  obtain rfl : values = _ := Except.ok.inj (hvalues.symm.trans hset)
  have hholds (key : Key) (text : String)
      (hdecider : ((decider? (sources.lower s (.table []) ++
        [.table [("apply", .text "demo.Other=boxed")]]) key.path).bind (·.get? key.path)).map
          Settings.decodePlainText = some (.ok text)) :
      key.Holds (some (.text text)) settings := by
    obtain ⟨layer, hlayer, hfield⟩ := hfields key
    rw [hlayer] at hdecider
    obtain ⟨value, hvalue, htext⟩ := Option.map_eq_some_iff.1 hdecider
    rw [Settings.decodePlainText_eq_ok_iff.1 htext] at hvalue
    exact hfield _ hvalue rfl
  refine ⟨hload, hholds .level "warn" ?_, hholds .format "full" ?_, hholds .apply _ ?_⟩ <;>
    decide +kernel

/-! ## Sources one by one -/

/-- Whether something holds of loaded settings and their sources one by one, the weakest first,
whenever settings are loaded. -/
def OfEveryLoad (relates : List Value → Settings → Prop) : Prop :=
  ∀ (sources : SettingsSources) (s : Surroundings) (settings : Settings) (file : Value)
    (values : List Value), (sources.load s).2 = .ok settings →
    (sources.fileLayer s).2 = .ok file → sources.values.mapM valueLayer = .ok values →
    relates (sources.lower s file ++ values) settings

/-- **Sources do not count one by one.** A table of services to apply may hold what a text above it
should hide, where a table was set after that text. A field may have its built-in default although a
source has something for it, where its section was then set as a list. And a choice that is set as a
table twice is not the one set last. -/
theorem load_not_one_by_one :
    ¬ OfEveryLoad (fun layers settings => ∀ fields,
        (decider? layers Key.apply.path).bind (·.get? Key.apply.path) = some (.table fields) →
        ∀ contract text, settings.apply[contract]? = some text →
          (decider? layers (Key.apply.path ++ [contract])).bind
            (·.get? (Key.apply.path ++ [contract])) = some (.text text)) ∧
      ¬ OfEveryLoad (fun layers settings => ∀ (key : Key) value,
        layers.reverse.findSome? (·.get? key.path) = some value → value.isTable = false →
          key.Holds (some value) settings) ∧
      ¬ OfEveryLoad (fun layers settings => ∀ fields,
        layers.reverse.findSome? (·.get? Key.level.path) = some (.table fields) →
          Key.level.Holds (some (.table fields)) settings) := by
  let sources (bases : List Settings) (values : List (String × Value)) : SettingsSources :=
    { SettingsSources.default with bases, useEnvironment := false, values }
  let s : Surroundings := ⟨⟨[], ∅, ∅⟩, [], ""⟩
  have hfound : SettingsSources.default.foundFile? s = none := by decide +kernel
  have hfile (bases : List Settings) (values : List (String × Value)) :
      ((sources bases values).fileLayer s).2 = .ok (.table []) := by
    rw [fileLayer, show (sources bases values).foundFile? s = none from hfound]
    rfl
  refine ⟨fun h => ?_, fun h => ?_, fun h => ?_⟩
  · let base : Settings := { Settings.default with apply := Table.ofPairs [("a", "x")] }
    have hload : ((sources [base]
        [("apply", .text "b=y"), ("apply", .table [("c", .text "z")])]).load s).2 =
        .ok { base with apply := Table.ofPairs [("a", "x"), ("c", "z")] } := by
      decide +kernel
    have hentry := h _ s _ _ _ hload (hfile _ _) rfl [("c", .text "z")] rfl "a" "x"
      (by decide +kernel)
    exact absurd (congrArg Option.isSome hentry) (by decide +kernel)
  · let base : Settings :=
      { Settings.default with logging := { LoggingConfig.default with format := .full } }
    have hload : ((sources [base] [("logging", .list [.text "debug"])]).load s).2 =
        .ok { base with logging := { LoggingConfig.default with level := .debug } } := by
      decide +kernel
    have hformat : Settings.decodeChoice .ignored LogFormat.all LogFormat.name (.text "full") =
        .ok .compact := h _ s _ _ _ hload (hfile _ _) rfl .format (.text "full") rfl rfl
    exact absurd hformat (by decide +kernel)
  · have hload : ((sources [] [("logging.level", .table [("debug", .null)]),
        ("logging.level", .table [("warn", .null)])]).load s).2 =
        .ok { Settings.default with
          logging := { LoggingConfig.default with level := .debug } } := by decide +kernel
    have hlevel : Settings.decodeLogLevel .ignored (.table [("warn", .null)]) = .ok .debug :=
      h _ s _ _ _ hload (hfile _ _) rfl [("warn", .null)] rfl
    exact absurd hlevel (by decide +kernel)

end SettingsSources

end Wiring
