import Wiring.FileTree
import Wiring.Settings.Codec
import Wiring.Settings.Environment
import Wiring.Settings.Toml.Document
import Wiring.Settings.Validation

/-!
# Settings · Loading

Gathering the settings of a process from all sources, the weakest first: the built-in defaults, base
settings given by the program, a settings file, environment variables, and single values set by the
program. The sources are layered as trees and decoded together; the result must be valid.
-/

namespace Wiring

/-! ## Errors -/

/-- Why there are no settings. -/
inductive SettingsError
  /-- The file asked for does not exist. -/
  | fileNotFound (path : String)
  /-- The file asked for is of an unknown format. -/
  | unsupportedFormat (extension : String)
  /-- The file is malformed. -/
  | malformedFile
  /-- The gathered tree holds no settings. -/
  | undecodable (cause : DecodeError)
  /-- The settings are not valid. -/
  | invalid (fault : SettingsFault)
deriving DecidableEq, Repr

/-- The wording of a settings error. -/
def SettingsError.message : SettingsError → String
  | fileNotFound path => s!"Settings file not found: {path}"
  | unsupportedFormat ext => s!"Unsupported or disabled settings file format: .{ext}"
  | malformedFile => "Failed to parse settings: malformed file"
  | undecodable cause => s!"Failed to parse settings: {cause.message}"
  | invalid fault => s!"Invalid settings: {fault.message}"

/-! ## Sources -/

/-- What a process finds where it runs. -/
structure Surroundings where
  /-- The files. -/
  tree : FileTree
  /-- The environment variables, in order. -/
  environment : List (String × String)
  /-- The directory in which the user keeps configurations. -/
  userDirectory : String

/-- Where settings are taken from. -/
structure SettingsSources where
  /-- Base settings, later ones on top. -/
  bases : List Settings
  /-- The directories in which a settings file is looked for; none means the usual ones. -/
  searchPaths : List String
  /-- A settings file that must exist, instead of a search. -/
  file : Option String
  /-- Whether environment variables count. -/
  useEnvironment : Bool
  /-- How the names of the variables that count begin. -/
  variableStart : String
  /-- Single values at paths of keys between points, later ones on top. -/
  values : List (String × Value)

namespace SettingsSources

/-- How variables begin if nothing else is said. -/
def defaultVariableStart : String := "SPI_"

/-- The usual search, environment variables, and nothing set by the program. -/
def default : SettingsSources := ⟨[], [], none, true, defaultVariableStart, []⟩

/-- The name of a settings file that is looked for. -/
def fileName : String := "spi.toml"

/-- The directory below the user's that is searched. -/
def userSearchPath (s : Surroundings) : String := Path.join s.userDirectory "spi"

/-- The working directory, as a search path. -/
def workingSearchPath : String := ""

/-! ## The settings file -/

/-- The tree of a settings file, which is looked for upwards from the working directory; a path that
leads to no file holds nothing. -/
def readFile (tree : FileTree) (path : String) : Except SettingsError Value :=
  match tree.fileUpwards? path with
  | none => .ok (.table [])
  | some bytes =>
    match (String.fromUTF8? bytes).bind Settings.Toml.parse? with
    | some value => .ok value
    | none => .error .malformedFile

/-- The tree of a settings file that was asked for by its path. -/
def readNamedFile (tree : FileTree) (path : String) : Except SettingsError Value :=
  match (Path.extension? path).getD "" with
  | "toml" => readFile tree path
  | ext => .error (.unsupportedFormat ext)

/-- The directories to search. -/
def effectivePaths (sources : SettingsSources) (s : Surroundings) : List String :=
  if sources.searchPaths.isEmpty then [workingSearchPath, userSearchPath s]
  else sources.searchPaths

/-- The first settings file in the directories to search. -/
def foundFile? (sources : SettingsSources) (s : Surroundings) : Option String :=
  ((sources.effectivePaths s).map fun directory => Path.join directory fileName).find? fun path =>
    (s.tree.file? path).isSome

/-- What is logged about a settings file. -/
def fileEntry (path : String) : LogEntry :=
  ⟨.info, "Loading settings file", [("path", path)]⟩

/-- The tree of the settings file, and what is logged about it. -/
def fileLayer (sources : SettingsSources) (s : Surroundings) :
    List LogEntry × Except SettingsError Value :=
  match sources.file with
  | some path =>
    if s.tree.contains path then ([fileEntry path], readNamedFile s.tree path)
    else ([], .error (.fileNotFound path))
  | none =>
    match sources.foundFile? s with
    | some path => ([fileEntry path], readFile s.tree path)
    | none => ([⟨.debug, "No settings file found, using defaults", []⟩], .ok (.table []))

/-! ## Layers -/

/-- The tree of a value set at a path; the tree of settings is a table. -/
def valueLayer (entry : String × Value) : Except SettingsError Value :=
  match Value.nest (Text.split (· == '.') entry.1) entry.2 with
  | .table fields => .ok (.table fields)
  | _ => .error (.undecodable .wrongKind)

/-- The tree of the environment variables, if they count. -/
def environmentLayer (sources : SettingsSources) (s : Surroundings) : Value :=
  if sources.useEnvironment then Settings.Environment.tree sources.variableStart s.environment
  else .table []

/-- The tree of the values set by the program, later ones on top; they make up one layer. -/
def valuesLayer (sources : SettingsSources) : Except SettingsError Value := do
  let values ← sources.values.mapM valueLayer
  return values.foldl Value.merge (.table [])

/-- All layers, the weakest first. The one of the settings file is given. -/
def layers (sources : SettingsSources) (s : Surroundings) (file : Value) :
    Except SettingsError (List Value) := do
  let values ← sources.valuesLayer
  return (Settings.default :: sources.bases).map Settings.encode
    ++ [file, sources.environmentLayer s, values]

/-- The settings that layered trees hold. -/
def extract (layers : List Value) : Except SettingsError Settings := do
  let settings ← (Settings.decode .ignored (layers.foldl Value.merge (.table []))).mapError
    .undecodable
  (Settings.validate settings).mapError .invalid
  return settings

/-! ## Loading -/

/-- What is logged when the environment is read. -/
def environmentEntries (sources : SettingsSources) : List LogEntry :=
  if sources.useEnvironment then
    [⟨.trace, "Loading environment variables", [("prefix", sources.variableStart)]⟩]
  else []

/-- What is logged about the settings at the end. -/
def loadedEntry (settings : Settings) : LogEntry :=
  ⟨.debug, "Settings loaded successfully",
    [("cache", toString settings.cache), ("exclusions", toString settings.fileExclusion.size),
      ("verbosity", settings.verbosity.name)]⟩

/-- Loads the settings: what is logged on the way, and the settings or why there are none. -/
def load (sources : SettingsSources) (s : Surroundings) :
    List LogEntry × Except SettingsError Settings :=
  let (fileLog, file) := sources.fileLayer s
  match file with
  | .error .malformedFile => (fileLog ++ sources.environmentEntries, .error .malformedFile)
  | .error e => (fileLog, .error e)
  | .ok file =>
    let log := fileLog ++ sources.environmentEntries
    match sources.layers s file >>= extract with
    | .error e => (log, .error e)
    | .ok settings => (log ++ [loadedEntry settings], .ok settings)

end SettingsSources

end Wiring
