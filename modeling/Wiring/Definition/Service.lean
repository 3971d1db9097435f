import Wiring.Definition.Implementation
import Wiring.Definition.Level
import Wiring.Resource

/-!
# Definition · Services

Service definitions and the apply records that choose among them. A definition is the entry
`contract>id>level=implementation`; `ofEntry` reads it and `toEntry` writes it.
-/

namespace Wiring

/-! ## Keys -/

/-- The parts of a trimmed key between the signs `>`. -/
def keyParts (key : String) : List String :=
  Text.split (· == '>') (Text.trim key)

/-! ## Service definitions -/

/-- One implementation of a service contract. -/
structure ServiceDefinition where
  /-- The contract served. -/
  contract : String
  /-- The name of this definition among those of its contract. -/
  id : String
  /-- Its rank. -/
  level : Level
  /-- What implements the contract. -/
  implementation : Implementation
  /-- The config root below which the definition was found. -/
  root : String
  /-- The resource that holds the definition. -/
  source : Location
deriving DecidableEq, Repr

namespace ServiceDefinition

/-- The form in which a definition is shown. -/
def text (d : ServiceDefinition) : String :=
  s!"Service\x7bid={d.id}, level={d.level}, impl={d.implementation}, resource={d.source}\x7d"

instance : ToString ServiceDefinition := ⟨text⟩

/-- Reads an entry of a service resource. -/
def ofEntry (key value root : String) (source : Location) :
    Except SyntaxError ServiceDefinition :=
  let trimmed := Text.trim key
  match keyParts key with
  | [contract, id, level] =>
    match Level.ofName? (Text.trim level) with
    | none => .error (.undefinedLevel (Text.trim level) trimmed source.text)
    | some level => do
      let implementation ← Implementation.ofValue value trimmed source.text
      return ⟨Text.trim contract, Text.trim id, level, implementation, root, source⟩
  | _ => .error (.illegalKey trimmed .service source.text)

/-- The entry that holds a definition. -/
def toEntry (d : ServiceDefinition) : String × String :=
  (s!"{d.contract}>{d.id}>{d.level}", d.implementation.text)

end ServiceDefinition

/-! ## Apply records -/

/-- A record that names the definition to apply for a contract. -/
structure ApplyRecord where
  /-- The contract. -/
  contract : String
  /-- The chosen definition's id. -/
  chosenId : String
  /-- The resource that holds the record. -/
  source : Location
  /-- The first disagreement with a later record, kept where an override may still settle it. -/
  conflict : Option ConflictError
deriving DecidableEq, Repr

end Wiring
