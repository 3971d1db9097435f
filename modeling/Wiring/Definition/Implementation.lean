import Wiring.Error
import Wiring.Text.Blank
import Wiring.Text.Split

/-!
# Definition · Implementation references

A reference to an implementation: a registered name and, in parentheses, an argument for its
constructor. A reference without an argument selects every reference of the same name, one with an
argument selects only references with the same argument.
-/

namespace Wiring

/-- A registered name with an optional constructor argument. -/
structure Implementation where
  /-- The registered name. -/
  name : String
  /-- The text between the parentheses, if there are any. -/
  arg : Option String
deriving DecidableEq, Repr

namespace Implementation

/-- The written form: the name, and the argument in parentheses. -/
def text (implementation : Implementation) : String :=
  match implementation.arg with
  | some arg => s!"{implementation.name}({arg})"
  | none => implementation.name

instance : ToString Implementation := ⟨text⟩

/-- Reads a written reference. `key` and `origin` name the entry and its place in an error. -/
def parse (value key origin : String) : Except SyntaxError Implementation :=
  let written := Text.trimChars value.toList
  match Text.splitOnce '(' written with
  | none => .ok ⟨.ofList written, none⟩
  | some ([], _) => .error (.missingImplementation key origin)
  | some (name, rest) =>
    if rest.getLast? = some ')' then
      .ok ⟨.ofList (Text.trimChars name), some (.ofList rest.dropLast)⟩
    else .error (.unterminatedArgument key origin)

/-- Whether a reference selects another one. -/
def selects (selector other : Implementation) : Bool :=
  selector.name == other.name && (selector.arg.isNone || selector.arg == other.arg)

/-- Reads the value of an entry, which must not be blank. -/
def ofValue (value key resource : String) : Except SyntaxError Implementation :=
  if Text.isBlankText value then .error (.emptyValue key resource)
  else parse value key resource

end Implementation

end Wiring
