import Wiring.Diagnostics.Report

/-!
# Diagnostics · Delivery

Where notes go. A `Diagnostics` handle belongs to one loader, shows notes from its verbosity on and
hands them to its sink: the process log or a sink that was built from the configuration. `deliver`
turns what happened into deliveries, one at most for each event; which of them are notes, and of
which notes, is said by `filter_isNote_deliver`.
-/

namespace Wiring

/-! ## The process log -/

/-- The levels of the process log, the most talkative first. -/
inductive LogLevel
  /-- Everything. -/
  | trace
  /-- Detail. -/
  | debug
  /-- Progress. -/
  | info
  /-- Oddities. -/
  | warn
  /-- Failures. -/
  | error
deriving DecidableEq, Repr, Inhabited

namespace LogLevel

/-- The name as it is configured. -/
def name : LogLevel → String
  | trace => "trace"
  | debug => "debug"
  | info => "info"
  | warn => "warn"
  | error => "error"

/-- The name in capitals, as log entries carry it. -/
def capitals : LogLevel → String
  | trace => "TRACE"
  | debug => "DEBUG"
  | info => "INFO"
  | warn => "WARN"
  | error => "ERROR"

/-- The name as it is shown in a debugging description. -/
def shown : LogLevel → String
  | trace => "Trace"
  | debug => "Debug"
  | info => "Info"
  | warn => "Warn"
  | error => "Error"

/-- All levels. -/
def all : List LogLevel := [trace, debug, info, warn, error]

end LogLevel

/-- One entry of the process log; the fields are sorted by name. -/
structure LogEntry where
  /-- The level. -/
  level : LogLevel
  /-- The message. -/
  message : String
  /-- Named values. -/
  fields : List (String × String)
deriving DecidableEq, Repr

/-- The log level of a note. -/
def Severity.logLevel : Severity → LogLevel
  | error => .error
  | warning => .warn
  | info => .info
  | debug => .debug

/-! ## Sinks -/

/-- Where notes are handed to. -/
inductive Sink
  /-- The process log. -/
  | log
  /-- A recorder that keeps them. -/
  | recorder
  /-- A sink built from the configuration, known by its label. -/
  | labelled (label : String)
deriving DecidableEq, Repr

/-- What arrives somewhere. -/
inductive Delivery
  /-- An entry in the process log. -/
  | logged (entry : LogEntry)
  /-- A note of a loader at a sink other than the log. -/
  | handed (sink : Sink) (loaderId : Nat) (note : Note)
deriving DecidableEq, Repr

/-! ## Handles -/

/-- A loader's way to say things. -/
structure Diagnostics where
  /-- The loader that speaks. -/
  loaderId : Nat
  /-- How much is shown. -/
  verbosity : Verbosity
  /-- Where it goes. -/
  sink : Sink
deriving DecidableEq, Repr

namespace Diagnostics

/-- Hands a note over. -/
def hand (d : Diagnostics) (note : Note) : Delivery :=
  match d.sink with
  | .log => .logged ⟨note.severity.logLevel, note.text, [("loader_id", toString d.loaderId)]⟩
  | sink => .handed sink d.loaderId note

/-- What arrives of one event. Findings go to the log, whatever the verbosity. -/
def deliverOne (d : Diagnostics) : Event → Option Delivery
  | .said note => if d.verbosity.admits note then some (d.hand note) else none
  | .found location =>
    some (.logged ⟨.trace, "Found resource", [("location", location.text)]⟩)

/-- What arrives of a list of events. -/
def deliver (d : Diagnostics) (events : List Event) : List Delivery :=
  events.filterMap d.deliverOne

/-- What arrives of one thing said. -/
def say (d : Diagnostics) (severity : Severity) (text : String) : List Delivery :=
  d.deliver [.said ⟨severity, text, false⟩]

/-- The handle as it is shown in a debugging description. -/
def describe (d : Diagnostics) : String :=
  s!"Diagnostics \x7b loader_id: {d.loaderId}, verbosity: {d.verbosity.shown}, .. \x7d"

end Diagnostics

/-! ## Laws -/

/-- Whether a delivery is a note of a handle. Findings are not; they are the only thing that is told
to the log at the most talkative level. -/
def Delivery.isNote : Delivery → Bool
  | logged entry => entry.level ≠ .trace
  | handed _ _ _ => true

namespace Diagnostics

variable {α : Type} (d : Diagnostics)

/-- What a handle hands over is a note. -/
theorem isNote_hand (note : Note) : (d.hand note).isNote = true := by
  unfold hand
  split
  · cases note.severity <;> rfl
  · rfl

/-- **The notes that a handle hands over** are exactly those that are shown at its verbosity. -/
theorem filter_isNote_deliver (report : Report α) :
    (d.deliver report.events).filter Delivery.isNote =
      (report.shown d.verbosity).map d.hand := by
  unfold deliver Report.shown Report.notes
  induction report.events with
  | nil => rfl
  | cons event events ih =>
    cases event with
    | found location => exact ih
    | said note =>
      cases hadmits : d.verbosity.admits note with
      | false => simpa [deliverOne, Event.note?, hadmits] using ih
      | true => simpa [deliverOne, Event.note?, hadmits, isNote_hand] using ih

end Diagnostics

end Wiring
