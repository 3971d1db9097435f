import Wiring.Table

/-!
# Overrides

What the process settles from outside, ahead of every record: the service to apply, the plugins to
disable, and the contents to leave out. The first two are variables, one for each contract.
-/

namespace Wiring

/-- Decisions made outside the configuration. -/
structure Overrides where
  /-- The id of the service to apply, by contract. -/
  apply : Table String
  /-- The implementations to disable, separated by commas, by contract. -/
  ignore : Table String
  /-- The fingerprints of the contents to leave out. -/
  excluded : NameSet
deriving DecidableEq

namespace Overrides

/-- The overrides with the apply variable of a contract set. -/
def withApply (overrides : Overrides) (contract id : String) : Overrides :=
  { overrides with apply := overrides.apply.insert contract id }

/-- The overrides with the ignore variable of a contract set. -/
def withIgnore (overrides : Overrides) (contract items : String) : Overrides :=
  { overrides with ignore := overrides.ignore.insert contract items }

/-- The shown name of the variable that applies a service. -/
def applyVariable (contract : String) : String := s!"settings:apply.{contract}"

/-- The shown name of the variable that disables plugins. -/
def ignoreVariable (contract : String) : String := s!"settings:ignore.{contract}"

end Overrides

end Wiring
