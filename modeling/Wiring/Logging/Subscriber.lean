import Wiring.FileTree
import Wiring.Logging.Directive
import Wiring.Settings.Schema
import Wiring.Text.Quoted

/-!
# Logging · Subscribers

The description of a log subscriber: how entries are laid out, where they go, and the directives
that select them. It starts from the logging section of the settings, whose filters become
directives. Settings of the highest verbosity raise the targets of the engine as well, so that its
notes are not lost on the way to the log.
-/

namespace Wiring

/-- The description of a log subscriber. -/
structure Subscriber where
  /-- Layout, destination and base level. -/
  config : LoggingConfig
  /-- The directives, later ones on top. -/
  directives : List String
  /-- Which ends of a span are logged. -/
  spanEvents : SpanEvents
  /-- Whether entries show their target. -/
  target : Bool
deriving DecidableEq

namespace Subscriber

/-! ## Starting points -/

/-- The targets of the engine. -/
def engineTargets : List String := ["spi_core", "spi_runtime"]

/-- The directive that sets the level of a target. -/
def levelDirective (target : String) (level : LogLevel) : String :=
  s!"{target}={level.name}"

/-- The subscriber of a logging section. -/
def ofConfig (config : LoggingConfig) : Subscriber where
  config := config
  directives := config.filters.toList.map fun filter => levelDirective filter.1 filter.2
  spanEvents := config.spanEvents
  target := true

/-- The subscriber of settings. -/
def ofSettings (settings : Settings) : Subscriber :=
  let subscriber := ofConfig settings.logging
  if settings.verbosity = .debug then
    { subscriber with
      directives := subscriber.directives ++ engineTargets.map fun t => levelDirective t .debug }
  else subscriber

/-- The subscriber of the default logging section. -/
def default : Subscriber := ofConfig .default

/-! ## Changes -/

/-- With another base level. -/
def withLevel (s : Subscriber) (level : LogLevel) : Subscriber :=
  { s with config := { s.config with level } }

/-- With one more directive. -/
def withDirective (s : Subscriber) (directive : String) : Subscriber :=
  { s with directives := s.directives ++ [directive] }

/-- With other ends of spans logged. -/
def withSpanEvents (s : Subscriber) (spanEvents : SpanEvents) : Subscriber :=
  { s with spanEvents }

/-- With another layout. -/
def withFormat (s : Subscriber) (format : LogFormat) : Subscriber :=
  { s with config := { s.config with format } }

/-- Writing to standard error. -/
def toStderr (s : Subscriber) : Subscriber :=
  { s with config := { s.config with output := .stderr } }

/-- Writing to a file. -/
def toFile (s : Subscriber) (path : String) : Subscriber :=
  { s with config := { s.config with output := .file, filePath := some path } }

/-- Showing threads or not. -/
def withThreadIds (s : Subscriber) (threadIds : Bool) : Subscriber :=
  { s with config := { s.config with threadIds } }

/-- Showing places in the program or not. -/
def withFileLocation (s : Subscriber) (fileLocation : Bool) : Subscriber :=
  { s with config := { s.config with fileLocation } }

/-- Showing targets or not. -/
def withTarget (s : Subscriber) (target : Bool) : Subscriber :=
  { s with target }

/-! ## Installing -/

/-- What is logged about directives that cannot be read. -/
def directiveWarnings (s : Subscriber) : List LogEntry :=
  (s.directives.filter fun directive => (Directive.parse? directive).isNone).map fun directive =>
    ⟨.warn, "Ignoring invalid log directive", [("directive", directive)]⟩

/-- The name of a log file whose path has none. -/
def defaultFileName : String := "spi.log"

/-- Where a log file lies: in the directory of its path, or in the working directory. -/
def logFilePath (path : String) : String :=
  let directory := ((Path.parent? path).filter (!·.isEmpty)).getD "."
  Path.join directory ((Path.fileName? path).getD defaultFileName)

/-- The tree after a log file was opened, which is made where it is missing. -/
def openLogFile (tree : FileTree) (path : String) : FileTree :=
  let path := logFilePath path
  if (tree.file? path).isSome then tree else tree.write path .empty

/-- The tree after the destination was opened, and what is logged about it. -/
def openOutput (s : Subscriber) (tree : FileTree) : FileTree × List LogEntry :=
  match s.config.output, s.config.filePath with
  | .file, some path => (openLogFile tree path, [])
  | .file, none =>
    (tree, [⟨.warn, "File output requested without a file path, writing to stdout", []⟩])
  | _, _ => (tree, [])

/-- Builds the subscriber: the files afterwards, and what is logged on the way. -/
def install (s : Subscriber) (tree : FileTree) : FileTree × List LogEntry :=
  let (tree, log) := s.openOutput tree
  (tree, s.directiveWarnings ++ log)

/-! ## Description -/

/-- Items in brackets as they are shown in a debugging description. -/
def describeList (items : List String) : String :=
  "[" ++ ", ".intercalate items ++ "]"

/-- The filters as they are shown in a debugging description. -/
def describeFilters (filters : Table LogLevel) : String :=
  let items := filters.toList.map fun filter => s!"{Text.quoted filter.1}: {filter.2.shown}"
  "\x7b" ++ ", ".intercalate items ++ "\x7d"

/-- An optional path as it is shown in a debugging description. -/
def describePath : Option String → String
  | some path => s!"Some({Text.quoted path})"
  | none => "None"

/-- The logging section as it is shown in a debugging description. -/
def describeConfig (c : LoggingConfig) : String :=
  s!"LoggingConfig \x7b level: {c.level.shown}, format: {c.format.shown}, " ++
    s!"output: {c.output.shown}, file_path: {describePath c.filePath}, " ++
    s!"thread_ids: {c.threadIds}, file_location: {c.fileLocation}, " ++
    s!"span_events: SpanEventConfig \x7b new: {c.spanEvents.new}, " ++
    s!"close: {c.spanEvents.close} \x7d, filters: {describeFilters c.filters} \x7d"

/-- The subscriber as it is shown in a debugging description. -/
def describe (s : Subscriber) : String :=
  s!"LoggingBuilder \x7b config: {describeConfig s.config}, " ++
    s!"directives: {describeList (s.directives.map Text.quoted)}, " ++
    s!"span_events: SpanEvents \x7b new: {s.spanEvents.new}, close: {s.spanEvents.close} \x7d, " ++
    s!"target: {s.target} \x7d"

end Subscriber

end Wiring
