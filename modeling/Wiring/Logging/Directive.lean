import Wiring.Diagnostics.Delivery
import Wiring.Logging.Condition
import Wiring.Text.Slice

/-!
# Logging · Directives

A directive sets the level from which on entries are logged. It may name a target, a span and fields
of that span: `info`, `app=debug`, `app[span]=trace`. `Directive.parse?` reads one; a text that
names a target or a span and no level means everything.

The marks of a directive are looked for in the text without the blanks around it, but its parts are
cut out of the text as it was given, at the same positions. So blanks around a directive are part of
it, and those in front shift every part.
-/

namespace Wiring

/-! ## Level filters -/

/-- From which level on entries are logged. -/
inductive LevelFilter
  /-- Nothing is logged. -/
  | off
  /-- Everything from a level on. -/
  | upTo (level : LogLevel)
deriving DecidableEq, Repr

namespace LevelFilter

/-- How much a filter lets through, in ascending order. -/
def rank : LevelFilter → Nat
  | off => 0
  | upTo .error => 1
  | upTo .warn => 2
  | upTo .info => 3
  | upTo .debug => 4
  | upTo .trace => 5

/-- All filters, in ascending order. -/
def all : List LevelFilter :=
  [off, upTo .error, upTo .warn, upTo .info, upTo .debug, upTo .trace]

/-- The name of a filter. -/
def name : LevelFilter → String
  | off => "off"
  | upTo level => level.name

/-- The filter with a name, in capital or small letters, or with a rank; no text means errors. -/
def ofText? (cs : List Char) : Option LevelFilter :=
  if cs.isEmpty then some (upTo .error)
  else
    match Text.readNat? 5 cs with
    | some n => all[n]?
    | none => all.find? fun filter => filter.name == Text.asciiLower (.ofList cs)

end LevelFilter

/-! ## Directives -/

/-- One rule about what is logged. -/
structure Directive where
  /-- The target it is about; every target if there is none. -/
  target : Option String
  /-- The span it is about, if any. -/
  span : Option String
  /-- Conditions on the fields of the span. -/
  conditions : List Condition
  /-- From which level on. -/
  level : LevelFilter
deriving DecidableEq, Repr

namespace Directive

/-- The characters that a directive may begin with, other than a bracket. -/
def isStart (c : Char) : Bool :=
  c == '-' || c == ':' || c == '_' || Text.isLetterOrNumber c

/-- The level that some characters spell; no text means everything. -/
def levelOfText? (cs : List Char) : Option LevelFilter :=
  if cs.isEmpty then some (.upTo .trace) else LevelFilter.ofText? cs

/-- Reads the level behind an equals sign. It reaches to a comma at the end of the directive, or
else to the end of the text. -/
def readLevel? (source : List Char) (position : Nat) (cs : List Char) : Option LevelFilter :=
  match cs.dropWhile (· != ',') with
  | [] => (Text.dropBytes? position source).bind levelOfText?
  | [','] =>
    let stop := position + Text.byteSize (cs.takeWhile (· != ','))
    (Text.slice? source position stop).bind levelOfText?
  | _ => none

/-- Reads what follows the target and the span. -/
def readTail? (target span : Option String) (conditions : List Condition) (source : List Char)
    (position : Nat) : List Char → Option Directive
  | [] => some ⟨target, span, conditions, .upTo .trace⟩
  | '=' :: level =>
    (readLevel? source (position + 1) level).map fun level => ⟨target, span, conditions, level⟩
  | _ => none

/-- Reads conditions that stand one behind the other with one character between them. None may be
empty. -/
def readConditions? (source : List Char) (position : Nat) :
    List (List Char) → Option (List Condition)
  | [] => some []
  | piece :: rest => do
    if piece.isEmpty then none
    let stop := position + Text.byteSize piece
    let condition ← Condition.ofText? (← Text.slice? source position stop)
    return condition :: (← readConditions? source (stop + 1) rest)

/-- Reads a span and what follows it, after the opening bracket. -/
def readSpan? (target : Option String) (source : List Char) (position : Nat) (cs : List Char) :
    Option Directive := do
  let name := cs.takeWhile fun c => c != ']' && c != '\x7b'
  let stop := position + Text.byteSize name
  let span := String.ofList (← Text.slice? source position stop)
  match cs.dropWhile fun c => c != ']' && c != '\x7b' with
  | ']' :: rest => readTail? target (some span) [] source (stop + 1) rest
  | '\x7b' :: rest =>
    let span := if name.isEmpty then none else some span
    match Text.splitOnce '\x7d' rest with
    | some (inside, ']' :: rest) =>
      let conditions ← readConditions? source (stop + 1) (Text.splitAt (· == ',') inside)
      readTail? target span conditions source (stop + Text.byteSize inside + 3) rest
    | _ => none
  | _ => none

/-- A text that is a level or else a target. -/
def ofLevelOrTarget (cs : List Char) : Directive :=
  match LevelFilter.ofText? cs with
  | some level => ⟨none, none, [], level⟩
  | none => ⟨some (.ofList cs), none, [], .upTo .trace⟩

/-- Reads what follows a target, which reaches to the given position. -/
def readTarget? (source : List Char) (position : Nat) (cs : List Char) : Option Directive := do
  match cs with
  | [] | [','] => return ofLevelOrTarget source
  | '=' :: _ =>
    let target := String.ofList (← Text.slice? source 0 position)
    readTail? (some target) none [] source position cs
  | '[' :: rest =>
    let target := String.ofList (← Text.slice? source 0 position)
    readSpan? (some target) source (position + 1) rest
  | _ => none

/-- Whether a character ends a target. -/
def endsTarget (c : Char) : Bool :=
  c == '=' || c == '[' || c == ','

/-- Reads a directive. -/
def parse? (text : String) : Option Directive :=
  let source := text.toList
  let cs := Text.trimChars source
  match cs with
  | [] => none
  | '[' :: rest => readSpan? none source 1 rest
  | c :: _ =>
    if isStart c then
      readTarget? source (Text.byteSize (cs.takeWhile (!endsTarget ·)))
        (cs.dropWhile (!endsTarget ·))
    else none

end Directive

end Wiring
