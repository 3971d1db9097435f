import Wiring.Properties.Basic
import Wiring.Resource
import Wiring.Table

/-!
# Instantiation · Parameters

The set of named values that a constructor may take. It is read from a property list and remembers
where that was found; in contrast to a property list it is ordered by key.
-/

namespace Wiring

/-- Named values for a constructor, and where they were read. -/
structure Parameters where
  /-- The values by key. -/
  values : Table String
  /-- The resource they were read from, if any. -/
  location : Option Location
deriving DecidableEq

namespace Parameters

/-- No values, read from nowhere. -/
def empty : Parameters := ⟨∅, none⟩

/-- The values of a property list found at a location. -/
def ofProperties (properties : Properties) (location : Location) : Parameters :=
  ⟨Table.ofPairs properties.entries, some location⟩

/-- The values of some pairs, read from nowhere. -/
def ofPairs (pairs : List (String × String)) : Parameters :=
  ⟨Table.ofPairs pairs, none⟩

/-- The value of a key. -/
def get? (p : Parameters) (key : String) : Option String :=
  p.values[key]?

/-- The value of a key, or another text where there is none. -/
def getD (p : Parameters) (key default : String) : String :=
  (p.get? key).getD default

/-- The number of values. -/
def size (p : Parameters) : Nat :=
  p.values.size

/-- Whether there is no value. -/
def isEmpty (p : Parameters) : Bool :=
  p.values.isEmpty

end Parameters

end Wiring
