import Wiring.Instantiation.Parameters

/-!
# Instantiation · Constructors

What can be built and how. An implementation is registered under a name with a constructor of one of
three shapes: it takes nothing, a text, or a set of parameters. A factory table keeps registered
implementations in the order of their registration; one name may be registered several times.
-/

namespace Wiring

/-- A built object: the contract it serves and what it says of itself. -/
structure Instance where
  /-- The contract served. -/
  contract : String
  /-- What the object says of itself. -/
  label : String
deriving DecidableEq, Repr

/-- What a constructor takes; each yields an object or a reason why there is none. -/
inductive Constructor
  /-- Takes nothing. -/
  | empty (build : Except String Instance)
  /-- Takes the argument of the reference, if it has one. -/
  | text (build : Option String → Except String Instance)
  /-- Takes the parameters that the argument names. -/
  | parameters (build : Parameters → Except String Instance)

/-- The name of a constructor's shape. -/
def Constructor.shape : Constructor → String
  | empty _ => "empty"
  | text _ => "text"
  | parameters _ => "parameters"

/-- The constructor as it is shown in a debugging description. -/
def Constructor.describe (c : Constructor) : String :=
  s!"Constructor::{c.shape}"

/-- A constructor under its registered name. -/
structure Registration where
  /-- The name that references use. -/
  name : String
  /-- The contract of what is built. -/
  contract : String
  /-- The constructor. -/
  constructor : Constructor

/-- Registered implementations. -/
structure FactoryTable where
  /-- The registrations, the oldest first. -/
  registrations : List Registration

namespace FactoryTable

/-- The table with some more registrations. -/
def register (table : FactoryTable) (more : List Registration) : FactoryTable :=
  ⟨table.registrations ++ more⟩

/-- The registrations under a name. -/
def lookup (table : FactoryTable) (name : String) : List Registration :=
  table.registrations.filter (·.name == name)

/-- The number of names that are registered. -/
def size (table : FactoryTable) : Nat :=
  (NameSet.ofNames (table.registrations.map (·.name))).size

end FactoryTable

end Wiring
