import Wiring.Proofs.Settings.Layers
import Wiring.Proofs.Steps
import Wiring.Proofs.Tables
import Wiring.Settings.Codec

/-!
# Settings · Where fields are read

Settings are read field by field. A record that is written as a table has its fields under their
names, one that is written as a list has them at their places; what is not there has its default.
`Key` names the single fields of the settings, sections included, with the way to each. Main
statement: `holds_of_decode`, that decoded settings have for every key what stands at the end of its
way, or the default. `getElem?_of_decodeFields` adds what the tables of settings have under a key.
-/

namespace Wiring

/-- What stands for a field of a record: under its name in a table, at its place in a list. -/
def Value.part? (value : Value) (name : String) (place : Nat) : Option Value :=
  match value with
  | .table fields => fields.lookup name
  | .list items => items[place]?
  | _ => none

/-- What stands at the end of a way through records, each with a name and a place. -/
def Value.reach? (value : Value) (steps : List (String × Nat)) : Option Value :=
  steps.foldlM (fun record step => record.part? step.1 step.2) value

/-- No step leads to the value itself. -/
@[simp] theorem Value.reach?_nil (value : Value) : value.reach? [] = some value := rfl

/-- The first step leads to a part of the value, and the others on from there. -/
@[simp] theorem Value.reach?_cons (value : Value) (step : String × Nat)
    (rest : List (String × Nat)) :
    value.reach? (step :: rest) = (value.part? step.1 step.2).bind (reach? · rest) := rfl

/-- A way through tables leads by its names. -/
theorem Value.reach?_of_get? {value found : Value} {steps : List (String × Nat)}
    (h : value.get? (steps.map Prod.fst) = some found) : value.reach? steps = some found := by
  induction steps generalizing value with
  | nil => exact h
  | cons step rest ih =>
    cases value with
    | table fields =>
      rw [List.map_cons, get?_cons_table] at h
      obtain ⟨inner, hinner, h⟩ := Option.bind_eq_some_iff.1 h
      exact Option.bind_eq_some_iff.2 ⟨inner, hinner, ih h⟩
    | _ => cases h

namespace Settings

/-! ## Fields of one record -/

/-- Whether a field is what was found for it, or the default where nothing was. -/
def IsRead {β : Type} (decode : Value → Except DecodeError β) (default : β) (found : Option Value)
    (b : β) : Prop :=
  match found with
  | some value => decode value = .ok b
  | none => b = default

section Records

variable {α β : Type} {decode : Value → Except DecodeError β} {set : α → β → α}
  {readers : List (FieldReader α)} {name : String} {record result : α}

/-- A record with a field read from what was found for it. -/
def readFound (reader : FieldReader α) (record : α) (found : Option Value) :
    Except DecodeError α :=
  match found with
  | some value => reader.read value record
  | none => .ok record

/-- A record is read with one field read, if there is something for it. -/
theorem readFound_eq_ok_iff (get : α → β) (hset : ∀ record, set record (get record) = record)
    {found : Option Value} :
    readFound (.of name decode set) record found = .ok result ↔
      ∃ b, IsRead decode (get record) found b ∧ result = set record b := by
  cases found with
  | none => simp [readFound, IsRead, hset, eq_comm]
  | some value => exact map_eq_ok_iff

/-- **The first field of a table** is read, then the others. -/
theorem decodeTable_cons_iff (get : α → β)
    (hset : ∀ record, set record (get record) = record) {fields : List (String × Value)} :
    decodeTable (.of name decode set :: readers) record fields = .ok result ↔
      ∃ b, IsRead decode (get record) (fields.lookup name) b ∧
        decodeTable readers (set record b) fields = .ok result := by
  have hcons : decodeTable (.of name decode set :: readers) record fields =
      readFound (.of name decode set) record (fields.lookup name) >>=
        fun record => decodeTable readers record fields := rfl
  rw [hcons, bind_eq_ok_iff]
  simp only [readFound_eq_ok_iff get hset]
  constructor
  · rintro ⟨_, ⟨b, hb, rfl⟩, h⟩
    exact ⟨b, hb, h⟩
  · rintro ⟨b, hb, h⟩
    exact ⟨_, ⟨b, hb, rfl⟩, h⟩

/-- **The first field of a list** is read from its first item, then the others. -/
theorem decodeList_cons_iff (get : α → β)
    (hset : ∀ record, set record (get record) = record)
    (hreader : readers.find? (fun reader => reader.name == name) = some (.of name decode set))
    (place : Nat) {names : List String} {items : List Value} :
    decodeList readers (name :: names) record (items.drop place) = .ok result ↔
      ∃ b, IsRead decode (get record) items[place]? b ∧
        decodeList readers names (set record b) (items.drop (place + 1)) = .ok result := by
  have hcons : decodeList readers (name :: names) record (items.drop place) =
      readFound (.of name decode set) record items[place]? >>=
        fun record => decodeList readers names record (items.drop (place + 1)) := by
    cases hitem : items[place]? with
    | none =>
      have hlength : items.length ≤ place := List.getElem?_eq_none_iff.1 hitem
      rw [List.drop_eq_nil_of_le hlength, List.drop_eq_nil_of_le (by omega)]
      cases names <;> rfl
    | some item =>
      obtain ⟨hplace, rfl⟩ := List.getElem?_eq_some_iff.1 hitem
      rw [List.drop_eq_getElem_cons hplace, decodeList, List.zip_cons_cons, List.foldlM_cons]
      dsimp only
      rw [hreader]
      rfl
  rw [hcons, bind_eq_ok_iff]
  simp only [readFound_eq_ok_iff get hset]
  constructor
  · rintro ⟨_, ⟨b, hb, rfl⟩, h⟩
    exact ⟨b, hb, h⟩
  · rintro ⟨b, hb, h⟩
    exact ⟨_, ⟨b, hb, rfl⟩, h⟩

/-- A record is decoded from a table or from a list. -/
theorem decodeRecord_eq_ok {surplus : Surplus} {names : List String} {value : Value}
    (h : decodeRecord surplus readers names record value = .ok result) :
    (∃ fields, value = .table fields ∧ decodeTable readers record fields = .ok result) ∨
      ∃ items, value = .list items ∧ decodeList readers names record items = .ok result := by
  cases value with
  | table fields => exact .inl ⟨fields, rfl, h⟩
  | list items =>
    obtain ⟨read, hread, hdone⟩ := bind_eq_ok_iff.1 h
    split at hdone
    · cases hdone
    · cases hdone
      exact .inr ⟨items, rfl, hread⟩
  | _ => cases h

end Records

/-! ## The records of the settings -/

/-- Span events are read of the two parts that are there for them. -/
theorem decodeSpanEvents_eq_ok {surplus : Surplus} {value : Value} {e : SpanEvents}
    (h : decodeSpanEvents surplus value = .ok e) :
    IsRead decodeBool false (value.part? "new" 0) e.new ∧
      IsRead decodeBool false (value.part? "close" 1) e.close := by
  rcases decodeRecord_eq_ok h with ⟨fields, rfl, hread⟩ | ⟨items, rfl, hread⟩
  · obtain ⟨close, hclose, hread⟩ := (decodeTable_cons_iff (·.close) fun _ => rfl).1 hread
    obtain ⟨new, hnew, hread⟩ := (decodeTable_cons_iff (·.new) fun _ => rfl).1 hread
    cases hread
    exact ⟨hnew, hclose⟩
  · obtain ⟨new, hnew, hread⟩ := (decodeList_cons_iff (·.new) (fun _ => rfl) rfl 0).1 hread
    obtain ⟨close, hclose, hread⟩ := (decodeList_cons_iff (·.close) (fun _ => rfl) rfl 1).1 hread
    cases hread
    exact ⟨hnew, hclose⟩

/-- What is found for each field of a logging section. -/
structure LoggingIsRead (value : Value) (c : LoggingConfig) : Prop where
  /-- The level, -/
  level : IsRead (decodeLogLevel .ignored) LoggingConfig.default.level (value.part? "level" 0)
    c.level
  /-- the layout, -/
  format : IsRead (decodeChoice .ignored LogFormat.all LogFormat.name) LoggingConfig.default.format
    (value.part? "format" 1) c.format
  /-- the destination, -/
  output : IsRead (decodeChoice .ignored LogOutput.all LogOutput.name) LoggingConfig.default.output
    (value.part? "output" 2) c.output
  /-- the file, -/
  filePath : IsRead decodeOptional LoggingConfig.default.filePath (value.part? "file_path" 3)
    c.filePath
  /-- the thread, -/
  threadIds : IsRead decodeBool LoggingConfig.default.threadIds (value.part? "thread_ids" 4)
    c.threadIds
  /-- the place in the program, -/
  fileLocation : IsRead decodeBool LoggingConfig.default.fileLocation
    (value.part? "file_location" 5) c.fileLocation
  /-- the ends of a span, -/
  spanEvents : IsRead (decodeSpanEvents .ignored) LoggingConfig.default.spanEvents
    (value.part? "span_events" 6) c.spanEvents
  /-- and the level of single targets. -/
  filters : IsRead (decodeFilters .ignored) LoggingConfig.default.filters (value.part? "filters" 7)
    c.filters

/-- Of a logging section that can be read every field is read. -/
theorem decodeLogging_eq_ok {value : Value} {c : LoggingConfig}
    (h : decodeLogging .ignored value = .ok c) : LoggingIsRead value c := by
  rcases decodeRecord_eq_ok h with ⟨fields, rfl, hread⟩ | ⟨items, rfl, hread⟩
  · obtain ⟨_, hlocation, hread⟩ := (decodeTable_cons_iff (·.fileLocation) fun _ => rfl).1 hread
    obtain ⟨_, hpath, hread⟩ := (decodeTable_cons_iff (·.filePath) fun _ => rfl).1 hread
    obtain ⟨_, hfilters, hread⟩ := (decodeTable_cons_iff (·.filters) fun _ => rfl).1 hread
    obtain ⟨_, hformat, hread⟩ := (decodeTable_cons_iff (·.format) fun _ => rfl).1 hread
    obtain ⟨_, hlevel, hread⟩ := (decodeTable_cons_iff (·.level) fun _ => rfl).1 hread
    obtain ⟨_, houtput, hread⟩ := (decodeTable_cons_iff (·.output) fun _ => rfl).1 hread
    obtain ⟨_, hspans, hread⟩ := (decodeTable_cons_iff (·.spanEvents) fun _ => rfl).1 hread
    obtain ⟨_, hthreads, hread⟩ := (decodeTable_cons_iff (·.threadIds) fun _ => rfl).1 hread
    cases hread
    exact ⟨hlevel, hformat, houtput, hpath, hthreads, hlocation, hspans, hfilters⟩
  · obtain ⟨_, hlevel, hread⟩ := (decodeList_cons_iff (·.level) (fun _ => rfl) rfl 0).1 hread
    obtain ⟨_, hformat, hread⟩ := (decodeList_cons_iff (·.format) (fun _ => rfl) rfl 1).1 hread
    obtain ⟨_, houtput, hread⟩ := (decodeList_cons_iff (·.output) (fun _ => rfl) rfl 2).1 hread
    obtain ⟨_, hpath, hread⟩ := (decodeList_cons_iff (·.filePath) (fun _ => rfl) rfl 3).1 hread
    obtain ⟨_, hthreads, hread⟩ := (decodeList_cons_iff (·.threadIds) (fun _ => rfl) rfl 4).1 hread
    obtain ⟨_, hlocation, hread⟩ :=
      (decodeList_cons_iff (·.fileLocation) (fun _ => rfl) rfl 5).1 hread
    obtain ⟨_, hspans, hread⟩ := (decodeList_cons_iff (·.spanEvents) (fun _ => rfl) rfl 6).1 hread
    obtain ⟨_, hfilters, hread⟩ := (decodeList_cons_iff (·.filters) (fun _ => rfl) rfl 7).1 hread
    cases hread
    exact ⟨hlevel, hformat, houtput, hpath, hthreads, hlocation, hspans, hfilters⟩

/-- What is found for each field of the settings. -/
structure SettingsAreRead (value : Value) (s : Settings) : Prop where
  /-- The verbosity, -/
  verbosity : IsRead decodeVerbosity default.verbosity (value.part? "verbosity" 0) s.verbosity
  /-- whether loaders are cached, -/
  cache : IsRead decodeBool default.cache (value.part? "cache" 1) s.cache
  /-- the fingerprints, -/
  fileExclusion : IsRead decodeNames default.fileExclusion (value.part? "file_exclusion" 2)
    s.fileExclusion
  /-- the services to apply, -/
  apply : IsRead decodeTexts default.apply (value.part? "apply" 3) s.apply
  /-- the plugins to disable, -/
  ignore : IsRead decodeTexts default.ignore (value.part? "ignore" 4) s.ignore
  /-- and the logging section. -/
  logging : IsRead (decodeLogging .ignored) default.logging (value.part? "logging" 5) s.logging

/-- Of settings that can be read every field is read. -/
theorem decode_eq_ok {value : Value} {s : Settings} (h : decode .ignored value = .ok s) :
    SettingsAreRead value s := by
  rcases decodeRecord_eq_ok h with ⟨fields, rfl, hread⟩ | ⟨items, rfl, hread⟩
  · obtain ⟨_, happly, hread⟩ := (decodeTable_cons_iff (·.apply) fun _ => rfl).1 hread
    obtain ⟨_, hcache, hread⟩ := (decodeTable_cons_iff (·.cache) fun _ => rfl).1 hread
    obtain ⟨_, hexclusion, hread⟩ :=
      (decodeTable_cons_iff (·.fileExclusion) fun _ => rfl).1 hread
    obtain ⟨_, hignore, hread⟩ := (decodeTable_cons_iff (·.ignore) fun _ => rfl).1 hread
    obtain ⟨_, hlogging, hread⟩ := (decodeTable_cons_iff (·.logging) fun _ => rfl).1 hread
    obtain ⟨_, hverbosity, hread⟩ :=
      (decodeTable_cons_iff (·.verbosity) fun _ => rfl).1 hread
    cases hread
    exact ⟨hverbosity, hcache, hexclusion, happly, hignore, hlogging⟩
  · obtain ⟨_, hverbosity, hread⟩ :=
      (decodeList_cons_iff (·.verbosity) (fun _ => rfl) rfl 0).1 hread
    obtain ⟨_, hcache, hread⟩ := (decodeList_cons_iff (·.cache) (fun _ => rfl) rfl 1).1 hread
    obtain ⟨_, hexclusion, hread⟩ :=
      (decodeList_cons_iff (·.fileExclusion) (fun _ => rfl) rfl 2).1 hread
    obtain ⟨_, happly, hread⟩ := (decodeList_cons_iff (·.apply) (fun _ => rfl) rfl 3).1 hread
    obtain ⟨_, hignore, hread⟩ :=
      (decodeList_cons_iff (·.ignore) (fun _ => rfl) rfl 4).1 hread
    obtain ⟨_, hlogging, hread⟩ :=
      (decodeList_cons_iff (·.logging) (fun _ => rfl) rfl 5).1 hread
    cases hread
    exact ⟨hverbosity, hcache, hexclusion, happly, hignore, hlogging⟩

/-! ## Single fields -/

/-- The single fields of the settings. -/
inductive Key
  /-- How much loaders show. -/
  | verbosity
  /-- Whether loaders are cached. -/
  | cache
  /-- Fingerprints of contents to leave out. -/
  | fileExclusion
  /-- The service to apply, by contract. -/
  | apply
  /-- The plugins to disable, by contract. -/
  | ignore
  /-- The level of everything that no filter names. -/
  | level
  /-- The layout of log entries. -/
  | format
  /-- Where log entries are written. -/
  | output
  /-- The log file. -/
  | filePath
  /-- Whether log entries show their thread. -/
  | threadIds
  /-- Whether log entries show their place in the program. -/
  | fileLocation
  /-- Whether the start of a span is logged. -/
  | newSpans
  /-- Whether the end of a span is logged. -/
  | closedSpans
  /-- The level of single targets. -/
  | filters
deriving DecidableEq, Repr

namespace Key

/-- The way to a field: names of fields, with their places in lists. -/
def steps : Key → List (String × Nat)
  | verbosity => [("verbosity", 0)]
  | cache => [("cache", 1)]
  | fileExclusion => [("file_exclusion", 2)]
  | apply => [("apply", 3)]
  | ignore => [("ignore", 4)]
  | level => [("logging", 5), ("level", 0)]
  | format => [("logging", 5), ("format", 1)]
  | output => [("logging", 5), ("output", 2)]
  | filePath => [("logging", 5), ("file_path", 3)]
  | threadIds => [("logging", 5), ("thread_ids", 4)]
  | fileLocation => [("logging", 5), ("file_location", 5)]
  | newSpans => [("logging", 5), ("span_events", 6), ("new", 0)]
  | closedSpans => [("logging", 5), ("span_events", 6), ("close", 1)]
  | filters => [("logging", 5), ("filters", 7)]

/-- The path of a field. -/
def path (key : Key) : List String :=
  key.steps.map Prod.fst

/-- Whether settings have a field as it was found, or by default where nothing was. -/
def Holds (key : Key) (found : Option Value) (s : Settings) : Prop :=
  match key with
  | verbosity => IsRead decodeVerbosity default.verbosity found s.verbosity
  | cache => IsRead decodeBool default.cache found s.cache
  | fileExclusion => IsRead decodeNames default.fileExclusion found s.fileExclusion
  | apply => IsRead decodeTexts default.apply found s.apply
  | ignore => IsRead decodeTexts default.ignore found s.ignore
  | level => IsRead (decodeLogLevel .ignored) default.logging.level found s.logging.level
  | format =>
    IsRead (decodeChoice .ignored LogFormat.all LogFormat.name) default.logging.format found
      s.logging.format
  | output =>
    IsRead (decodeChoice .ignored LogOutput.all LogOutput.name) default.logging.output found
      s.logging.output
  | filePath => IsRead decodeOptional default.logging.filePath found s.logging.filePath
  | threadIds => IsRead decodeBool default.logging.threadIds found s.logging.threadIds
  | fileLocation => IsRead decodeBool default.logging.fileLocation found s.logging.fileLocation
  | newSpans => IsRead decodeBool default.logging.spanEvents.new found s.logging.spanEvents.new
  | closedSpans =>
    IsRead decodeBool default.logging.spanEvents.close found s.logging.spanEvents.close
  | filters => IsRead (decodeFilters .ignored) default.logging.filters found s.logging.filters

end Key

/-- A field of a record that is a field itself: what is found for it is found in what is found for
the record. -/
theorem IsRead.part {β γ : Type} {decode : Value → Except DecodeError β} {dflt b : β}
    {inner : Value → Except DecodeError γ} {get : β → γ} {found : Option Value} {name : String}
    {place : Nat} (h : IsRead decode dflt found b)
    (hsome : ∀ value, decode value = .ok b →
      IsRead inner (get dflt) (value.part? name place) (get b)) :
    IsRead inner (get dflt) (found.bind fun value => value.part? name place) (get b) := by
  cases found with
  | none => exact congrArg get h
  | some value => exact hsome value h

/-- **Decoded settings** have for every field what stands at the end of its way, or the default. -/
theorem holds_of_decode {tree : Value} {s : Settings} (h : decode .ignored tree = .ok s)
    (key : Key) : key.Holds (tree.reach? key.steps) s := by
  have hread : SettingsAreRead tree s := decode_eq_ok h
  have htop {β : Type} {decode : Value → Except DecodeError β} {dflt b : β} {name : String}
      {place : Nat} (hfield : IsRead decode dflt (tree.part? name place) b) :
      IsRead decode dflt (tree.reach? [(name, place)]) b := by
    simpa using hfield
  have hlogging {β : Type} {inner : Value → Except DecodeError β} {get : LoggingConfig → β}
      {name : String} {place : Nat}
      (hfield : ∀ value, LoggingIsRead value s.logging →
        IsRead inner (get LoggingConfig.default) (value.part? name place) (get s.logging)) :
      IsRead inner (get LoggingConfig.default) (tree.reach? [("logging", 5), (name, place)])
        (get s.logging) := by
    simp only [Value.reach?_cons, Value.reach?_nil, Option.bind_fun_some]
    exact hread.logging.part fun value hvalue => hfield value (decodeLogging_eq_ok hvalue)
  have hspans {get : SpanEvents → Bool} {name : String} {place : Nat}
      (hfield : ∀ value, decodeSpanEvents .ignored value = .ok s.logging.spanEvents →
        IsRead decodeBool (get ⟨false, false⟩) (value.part? name place)
          (get s.logging.spanEvents)) :
      IsRead decodeBool (get ⟨false, false⟩)
        (tree.reach? [("logging", 5), ("span_events", 6), (name, place)])
        (get s.logging.spanEvents) := by
    have hsection := (hlogging fun value hvalue => hvalue.spanEvents).part hfield
    simp only [Value.reach?_cons, Value.reach?_nil, Option.bind_fun_some,
      Option.bind_assoc] at hsection ⊢
    exact hsection
  cases key with
  | verbosity => exact htop hread.verbosity
  | cache => exact htop hread.cache
  | fileExclusion => exact htop hread.fileExclusion
  | apply => exact htop hread.apply
  | ignore => exact htop hread.ignore
  | level => exact hlogging fun _ h => h.level
  | format => exact hlogging fun _ h => h.format
  | output => exact hlogging fun _ h => h.output
  | filePath => exact hlogging fun _ h => h.filePath
  | threadIds => exact hlogging fun _ h => h.threadIds
  | fileLocation => exact hlogging fun _ h => h.fileLocation
  | newSpans => exact hspans fun _ h => (decodeSpanEvents_eq_ok h).1
  | closedSpans => exact hspans fun _ h => (decodeSpanEvents_eq_ok h).2
  | filters => exact hlogging fun _ h => h.filters

/-! ## Tables of settings -/

/-- **A table whose values are all of one kind** has under a key what the value there is decoded
to. -/
theorem getElem?_of_decodeFields {α : Type} {decode : Value → Except DecodeError α}
    {fields : List (String × Value)} {table : Table α} (hkeys : (fields.map Prod.fst).Nodup)
    (h : decodeFields decode fields = .ok table) (key : String) (a : α) :
    table[key]? = some a ↔ ∃ value, fields.lookup key = some value ∧ decode value = .ok a := by
  obtain ⟨pairs, hpairs, hdone⟩ := bind_eq_ok_iff.1 h
  cases hdone
  have hpairs := mapM_eq_ok_iff.1 hpairs
  have hmem (key : String) (a : α) :
      (key, a) ∈ pairs ↔ ∃ value, fields.lookup key = some value ∧ decode value = .ok a := by
    rw [mem_iff_of_forall₂ hpairs]
    constructor
    · rintro ⟨⟨name, value⟩, hfield, hread⟩
      obtain ⟨read, hvalue, hdone⟩ := bind_eq_ok_iff.1 hread
      cases hdone
      exact ⟨value, (lookup_eq_some_iff_mem hkeys).2 hfield, hvalue⟩
    · rintro ⟨value, hfield, hvalue⟩
      exact ⟨(key, value), mem_of_lookup_eq_some hfield, bind_eq_ok_iff.2 ⟨a, hvalue, rfl⟩⟩
  rw [Table.getElem?_ofPairs_eq_some_iff, hmem]
  intro name first second hfirst hsecond
  obtain ⟨value, hvalue, hfirst⟩ := (hmem name first).1 hfirst
  obtain ⟨other, hother, hsecond⟩ := (hmem name second).1 hsecond
  obtain rfl := Option.some.inj (hvalue.symm.trans hother)
  exact Except.ok.inj (hfirst.symm.trans hsecond)

end Settings

end Wiring
