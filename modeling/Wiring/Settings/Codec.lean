import Wiring.Settings.Schema
import Wiring.Settings.TextForm
import Wiring.Settings.Value

/-!
# Settings · Decoding and encoding

Between settings trees and settings. A field that is missing has its default, an unknown one does
not count. Kinds are not converted: a truth value must be one, a choice must be its exact name. Only
the fields that are sets or tables also take their text forms. A record may be written as a table or
as the list of its first fields in order. Where several fields are wrong, the first counts: in a
table the first in the order of names, in a list the first item. A tree that was written as a whole
must hold nothing behind what is read; in a tree of several layers that does not count.
-/

namespace Wiring

/-- What is wrong with a settings tree. -/
inductive DecodeError
  /-- A text names no verbosity. -/
  | unknownVerbosity (text : String)
  /-- An item of a table's text form has no equals sign. -/
  | missingEquals (item : String)
  /-- A value has not the kind of its field. -/
  | wrongKind
deriving DecidableEq, Repr

/-- The wording of a decoding error. -/
def DecodeError.message : DecodeError → String
  | unknownVerbosity text => Verbosity.unknownMessage text
  | missingEquals item => s!"expected 'contract=value', got '{item}'"
  | wrongKind => "a value has not the kind of its field"

namespace Settings

/-! ## Decoding single fields -/

/-- A truth value. -/
def decodeBool : Value → Except DecodeError Bool
  | .bool b => .ok b
  | _ => .error .wrongKind

/-- A text; a character is a text of its own. -/
def decodeText : Value → Except DecodeError String
  | .text s => .ok s
  | .char c => .ok (.singleton c)
  | _ => .error .wrongKind

/-- What becomes of parts of a tree that stand behind all that is read: items of a list behind those
for the fields of a record, and keys of a table behind the name of a choice. -/
inductive Surplus
  /-- They are wrong. -/
  | refused
  /-- They do not count. -/
  | ignored
deriving DecidableEq, Repr

/-- One of several choices by its exact name. -/
def choiceOfName {α : Type} (choices : List α) (name : α → String) (s : String) :
    Except DecodeError α :=
  match choices.find? fun choice => name choice == s with
  | some choice => .ok choice
  | none => .error .wrongKind

/-- The field of a table whose key comes first. -/
def firstField? (fields : List (String × Value)) : Option (String × Value) :=
  fields.find? fun field => fields.all fun other => !decide (other.1 < field.1)

/-- One of several choices, by its exact name or as a table with the name for its first key, under
which nothing stands. -/
def decodeChoice {α : Type} (surplus : Surplus) (choices : List α) (name : α → String) :
    Value → Except DecodeError α
  | .text s => choiceOfName choices name s
  | .table fields =>
    match firstField? fields with
    | some (s, .null) =>
      if surplus = .refused ∧ 1 < fields.length then .error .wrongKind
      else choiceOfName choices name s
    | _ => .error .wrongKind
  | _ => .error .wrongKind

/-- A verbosity, in capital or small letters. -/
def decodeVerbosity (value : Value) : Except DecodeError Verbosity := do
  let text ← decodeText value
  match Verbosity.ofName? text with
  | some v => return v
  | none => .error (.unknownVerbosity text)

/-- The text of a name that may be written as an integer. -/
def decodeName : Value → Except DecodeError String
  | .text s => .ok s
  | .integer n => .ok (toString n)
  | _ => .error .wrongKind

/-- A set of names, as a list or in its text form. -/
def decodeNames : Value → Except DecodeError NameSet
  | .list items => return readNames (← items.mapM decodeName)
  | value => return readList (← decodeName value)

/-- A text that is none but a text. -/
def decodePlainText : Value → Except DecodeError String
  | .text s => .ok s
  | _ => .error .wrongKind

/-- A table whose values are all of one kind. -/
def decodeFields {α : Type} (decode : Value → Except DecodeError α)
    (fields : List (String × Value)) : Except DecodeError (Table α) := do
  let pairs ← fields.mapM fun field => do return (field.1, ← decode field.2)
  return Table.ofPairs pairs

/-- A table of texts, as a table or in its text form. -/
def decodeTexts : Value → Except DecodeError (Table String)
  | .table fields => decodeFields decodePlainText fields
  | .text s => (readPairs s).mapError .missingEquals
  | _ => .error .wrongKind

/-- A level of the process log. -/
def decodeLogLevel (surplus : Surplus) : Value → Except DecodeError LogLevel :=
  decodeChoice surplus LogLevel.all LogLevel.name

/-- Levels by target. -/
def decodeFilters (surplus : Surplus) : Value → Except DecodeError (Table LogLevel)
  | .table fields => decodeFields (decodeLogLevel surplus) fields
  | _ => .error .wrongKind

/-- A text or nothing. -/
def decodeOptional : Value → Except DecodeError (Option String)
  | .null => .ok none
  | value => (decodeText value).map some

/-! ## Decoding records -/

/-- How one field of a record is read. -/
structure FieldReader (α : Type) where
  /-- The name of the field. -/
  name : String
  /-- The record with the field as a value has it. -/
  read : Value → α → Except DecodeError α

/-- The reader of a field, from how its value is decoded and how the field is set. -/
def FieldReader.of {α β : Type} (name : String) (decode : Value → Except DecodeError β)
    (set : α → β → α) : FieldReader α :=
  ⟨name, fun value record => (decode value).map (set record)⟩

/-- Decodes a record that is written as a table, field by field in the order of the readers, on top
of a record of defaults. -/
def decodeTable {α : Type} (readers : List (FieldReader α)) (default : α)
    (fields : List (String × Value)) : Except DecodeError α :=
  readers.foldlM (fun record reader =>
    match fields.lookup reader.name with
    | some value => reader.read value record
    | none => .ok record) default

/-- Decodes a record that is written as a list of its first fields in the order of `names`. -/
def decodeList {α : Type} (readers : List (FieldReader α)) (names : List String) (default : α)
    (items : List Value) : Except DecodeError α :=
  (names.zip items).foldlM (fun record (name, item) =>
    match readers.find? fun reader => reader.name == name with
    | some reader => reader.read item record
    | none => .ok record) default

/-- Decodes a record. The readers stand in the order of their names; `names` has the order of
lists. -/
def decodeRecord {α : Type} (surplus : Surplus) (readers : List (FieldReader α))
    (names : List String) (default : α) : Value → Except DecodeError α
  | .table fields => decodeTable readers default fields
  | .list items => do
    let record ← decodeList readers names default items
    if surplus = .refused ∧ names.length < items.length then .error .wrongKind else .ok record
  | _ => .error .wrongKind

/-- How the ends of a span that are logged are read. -/
def spanEventsReaders : List (FieldReader SpanEvents) :=
  [.of "close" decodeBool fun e close => { e with close },
    .of "new" decodeBool fun e new => { e with new }]

/-- The ends of a span that are logged. -/
def decodeSpanEvents (surplus : Surplus) (value : Value) : Except DecodeError SpanEvents :=
  decodeRecord surplus spanEventsReaders ["new", "close"] ⟨false, false⟩ value

/-- How the logging section is read. -/
def loggingReaders (surplus : Surplus) : List (FieldReader LoggingConfig) :=
  [.of "file_location" decodeBool fun c fileLocation => { c with fileLocation },
    .of "file_path" decodeOptional fun c filePath => { c with filePath },
    .of "filters" (decodeFilters surplus) fun c filters => { c with filters },
    .of "format" (decodeChoice surplus LogFormat.all LogFormat.name)
      fun c format => { c with format },
    .of "level" (decodeLogLevel surplus) fun c level => { c with level },
    .of "output" (decodeChoice surplus LogOutput.all LogOutput.name)
      fun c output => { c with output },
    .of "span_events" (decodeSpanEvents surplus) fun c spanEvents => { c with spanEvents },
    .of "thread_ids" decodeBool fun c threadIds => { c with threadIds }]

/-- The fields of the logging section, in the order of lists. -/
def loggingFields : List String :=
  ["level", "format", "output", "file_path", "thread_ids", "file_location", "span_events",
    "filters"]

/-- The logging section. -/
def decodeLogging (surplus : Surplus) (value : Value) : Except DecodeError LoggingConfig :=
  decodeRecord surplus (loggingReaders surplus) loggingFields .default value

/-- How settings are read. -/
def readers (surplus : Surplus) : List (FieldReader Settings) :=
  [.of "apply" decodeTexts fun s apply => { s with apply },
    .of "cache" decodeBool fun s cache => { s with cache },
    .of "file_exclusion" decodeNames fun s fileExclusion => { s with fileExclusion },
    .of "ignore" decodeTexts fun s ignore => { s with ignore },
    .of "logging" (decodeLogging surplus) fun s logging => { s with logging },
    .of "verbosity" decodeVerbosity fun s verbosity => { s with verbosity }]

/-- The fields of the settings, in the order of lists. -/
def fieldNames : List String :=
  ["verbosity", "cache", "file_exclusion", "apply", "ignore", "logging"]

/-- The settings that a tree holds. -/
def decode (surplus : Surplus) (value : Value) : Except DecodeError Settings :=
  decodeRecord surplus (readers surplus) fieldNames .default value

/-! ## Encoding -/

/-- A table as a tree. -/
def encodeTable {α : Type} (encode : α → Value) (table : Table α) : Value :=
  .table (table.toList.map fun pair => (pair.1, encode pair.2))

/-- The logging section as a tree. -/
def encodeLogging (c : LoggingConfig) : Value :=
  .table [("level", .text c.level.name), ("format", .text c.format.name),
    ("output", .text c.output.name), ("file_path", (c.filePath.map Value.text).getD .null),
    ("thread_ids", .bool c.threadIds), ("file_location", .bool c.fileLocation),
    ("span_events", .table [("new", .bool c.spanEvents.new), ("close", .bool c.spanEvents.close)]),
    ("filters", encodeTable (fun level => .text level.name) c.filters)]

/-- Settings as a tree that holds every field. -/
def encode (s : Settings) : Value :=
  .table [("verbosity", .text s.verbosity.name), ("cache", .bool s.cache),
    ("file_exclusion", .list (s.fileExclusion.toList.map Value.text)),
    ("apply", encodeTable Value.text s.apply), ("ignore", encodeTable Value.text s.ignore),
    ("logging", encodeLogging s.logging)]

end Settings

end Wiring
