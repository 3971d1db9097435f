import Wiring.Text.Blank

/-!
# Diagnostics · Severity and verbosity

How severe a note is and how much of what is noted is shown. A note is shown from the verbosity of
its severity on, which makes an error the one note that is always shown. A brief note sums up what
the notes of the highest verbosity list in full, and is left out there.
-/

namespace Wiring

/-! ## Verbosity -/

/-- How much is shown, in ascending order. -/
inductive Verbosity
  /-- Errors only. -/
  | error
  /-- Errors, warnings and progress. -/
  | info
  /-- Everything. -/
  | debug
deriving DecidableEq, Repr, Inhabited

namespace Verbosity

/-- The position in the ascending order. -/
def rank : Verbosity → Nat
  | error => 0
  | info => 1
  | debug => 2

/-- The name as it is configured. -/
def name : Verbosity → String
  | error => "error"
  | info => "info"
  | debug => "debug"

/-- The name as it is shown in a debugging description. -/
def shown : Verbosity → String
  | error => "Error"
  | info => "Info"
  | debug => "Debug"

/-- The verbosity with a name; blanks around it and capitals do not count. -/
def ofName? (text : String) : Option Verbosity :=
  [error, info, debug].find? fun v => v.name == Text.asciiLower (Text.trim text)

/-- What is said of a text that names no verbosity. -/
def unknownMessage (text : String) : String :=
  s!"unknown verbosity '{Text.asciiLower (Text.trim text)}', expected error/info/debug"

/-- Whether what is shown from `threshold` on is shown. -/
def reaches (v threshold : Verbosity) : Bool :=
  threshold.rank ≤ v.rank

end Verbosity

/-! ## Notes -/

/-- How much a note matters. -/
inductive Severity
  /-- Something failed. -/
  | error
  /-- Something is odd but harmless. -/
  | warning
  /-- Progress. -/
  | info
  /-- Detail. -/
  | debug
deriving DecidableEq, Repr

namespace Severity

/-- The least verbosity that shows notes of a severity. -/
def threshold : Severity → Verbosity
  | error => .error
  | warning => .info
  | info => .info
  | debug => .debug

/-- The name of a severity. -/
def name : Severity → String
  | error => "error"
  | warning => "warning"
  | info => "info"
  | debug => "debug"

end Severity

/-- One thing said while work is done. -/
structure Note where
  /-- How much it matters. -/
  severity : Severity
  /-- What is said. -/
  text : String
  /-- Whether it only sums up what detailed notes list in full. -/
  brief : Bool
deriving DecidableEq, Repr

/-- Whether a note is shown. -/
def Verbosity.admits (v : Verbosity) (note : Note) : Bool :=
  v.reaches note.severity.threshold && !(note.brief && v == .debug)

end Wiring
