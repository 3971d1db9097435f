import Wiring.Definition.Service
import Wiring.Text.Integer

/-!
# Definition · Plugins

Plugin definitions and the rules that disable them. A definition is the entry
`contract>priority=implementation`; `ofEntry` reads it and `toEntry` writes it.
-/

namespace Wiring

/-! ## Priorities -/

/-- The least priority. -/
def minPriority : Int := -2147483648

/-- The greatest priority. -/
def maxPriority : Int := 2147483647

/-- The priority that a text spells. -/
def readPriority? (text : String) : Option Int :=
  Text.readInt? minPriority maxPriority text.toList

/-! ## Plugin definitions -/

/-- One implementation among those of a plugin contract. -/
structure PluginDefinition where
  /-- The contract extended. -/
  contract : String
  /-- The place in the order, the smallest first. -/
  priority : Int
  /-- What implements the contract. -/
  implementation : Implementation
  /-- The config root below which the definition was found. -/
  root : String
  /-- The resource that holds the definition. -/
  source : Location
  /-- Whether no rule has disabled the definition. -/
  enabled : Bool
  /-- Where the last rule that disabled the definition stands. -/
  disabledBy : Option String
deriving DecidableEq, Repr

namespace PluginDefinition

/-- The part of the shown form that says why a definition is disabled. -/
def disabledText (d : PluginDefinition) : String :=
  match d.enabled, d.disabledBy with
  | false, some origin => s!", disabled by {origin}"
  | _, _ => ""

/-- The form in which a definition is shown. -/
def text (d : PluginDefinition) : String :=
  s!"Plugin\x7bpriority={d.priority}, impl={d.implementation}" ++
    s!"{d.disabledText}, resource={d.source}\x7d"

instance : ToString PluginDefinition := ⟨text⟩

/-- Reads an entry of a plugin resource. -/
def ofEntry (key value root : String) (source : Location) :
    Except SyntaxError PluginDefinition :=
  let trimmed := Text.trim key
  match keyParts key with
  | [contract, priority] =>
    match readPriority? (Text.trim priority) with
    | none => .error (.invalidPriority (Text.trim priority) trimmed source.text)
    | some priority => do
      let implementation ← Implementation.ofValue value trimmed source.text
      return ⟨Text.trim contract, priority, implementation, root, source, true, none⟩
  | _ => .error (.illegalKey trimmed .plugin source.text)

/-- The entry that holds a definition. -/
def toEntry (d : PluginDefinition) : String × String :=
  (s!"{d.contract}>{d.priority}", d.implementation.text)

/-- A definition disabled by what stands at `origin`. -/
def disable (d : PluginDefinition) (origin : String) : PluginDefinition :=
  { d with enabled := false, disabledBy := some origin }

end PluginDefinition

/-! ## Ignore rules -/

/-- A rule that disables the plugins it selects. -/
structure IgnoreRule where
  /-- The contract whose plugins are meant. -/
  contract : String
  /-- What is disabled. -/
  ignored : Implementation
  /-- The resource that holds the rule. -/
  source : Location
deriving DecidableEq, Repr

end Wiring
