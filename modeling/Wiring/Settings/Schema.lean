import Wiring.Diagnostics.Delivery
import Wiring.Overrides

/-!
# Settings · Schema

The settings of a process and their built-in defaults. `Settings.overrides` is what they decide
ahead of all records: names are trimmed, and fingerprints are put into the form in which digests are
written.
-/

namespace Wiring

/-! ## Logging -/

/-- How log entries are laid out. -/
inductive LogFormat
  /-- One short line each. -/
  | compact
  /-- One line with every field. -/
  | full
  /-- Several lines. -/
  | pretty
deriving DecidableEq, Repr, Inhabited

namespace LogFormat

/-- All formats. -/
def all : List LogFormat := [compact, full, pretty]

/-- The name as it is configured. -/
def name : LogFormat → String
  | compact => "compact"
  | full => "full"
  | pretty => "pretty"

/-- The name as it is shown in a debugging description. -/
def shown : LogFormat → String
  | compact => "Compact"
  | full => "Full"
  | pretty => "Pretty"

end LogFormat

/-- Where log entries are written. -/
inductive LogOutput
  /-- Standard output. -/
  | stdout
  /-- Standard error. -/
  | stderr
  /-- A file. -/
  | file
deriving DecidableEq, Repr, Inhabited

namespace LogOutput

/-- All outputs. -/
def all : List LogOutput := [stdout, stderr, file]

/-- The name as it is configured. -/
def name : LogOutput → String
  | stdout => "stdout"
  | stderr => "stderr"
  | file => "file"

/-- The name as it is shown in a debugging description. -/
def shown : LogOutput → String
  | stdout => "Stdout"
  | stderr => "Stderr"
  | file => "File"

end LogOutput

/-- Which ends of a span are logged. -/
structure SpanEvents where
  /-- Its start. -/
  new : Bool
  /-- Its end. -/
  close : Bool
deriving DecidableEq, Repr, Inhabited

/-- How the process logs. -/
structure LoggingConfig where
  /-- The level of everything that no filter names. -/
  level : LogLevel
  /-- The layout. -/
  format : LogFormat
  /-- The destination. -/
  output : LogOutput
  /-- The file, where the destination is one. -/
  filePath : Option String
  /-- Whether entries show their thread. -/
  threadIds : Bool
  /-- Whether entries show their place in the program. -/
  fileLocation : Bool
  /-- Which ends of a span are logged. -/
  spanEvents : SpanEvents
  /-- The level of single targets. -/
  filters : Table LogLevel
deriving DecidableEq

/-- Short lines on standard output, from the middle level on. -/
def LoggingConfig.default : LoggingConfig :=
  ⟨.info, .compact, .stdout, none, false, false, ⟨false, false⟩, ∅⟩

/-! ## Settings -/

/-- The settings of a process. -/
structure Settings where
  /-- How much loaders show. -/
  verbosity : Verbosity
  /-- Whether loaders are cached. -/
  cache : Bool
  /-- Fingerprints of contents to leave out. -/
  fileExclusion : NameSet
  /-- The service to apply, by contract. -/
  apply : Table String
  /-- The plugins to disable, by contract. -/
  ignore : Table String
  /-- How the process logs. -/
  logging : LoggingConfig
deriving DecidableEq

namespace Settings

/-- What holds where nothing is configured. -/
def default : Settings := ⟨.info, true, ∅, ∅, ∅, .default⟩

/-- A table with keys and values trimmed; of two keys that become one the later counts. -/
def trimTable (table : Table String) : Table String :=
  Table.ofPairs (table.toList.map fun pair => (Text.trim pair.1, Text.trim pair.2))

/-- A fingerprint as digests are written: trimmed and in small letters. -/
def normalFingerprint (text : String) : String :=
  Text.asciiLower (Text.trim text)

/-- What the settings decide ahead of all records. -/
def overrides (s : Settings) : Overrides where
  apply := trimTable s.apply
  ignore := trimTable s.ignore
  excluded := NameSet.ofNames (s.fileExclusion.toList.map normalFingerprint)

end Settings

end Wiring
