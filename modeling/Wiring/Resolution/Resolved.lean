import Wiring.Records.Read
import Wiring.Resolution.Plugin
import Wiring.Resolution.Service

/-!
# Resolution · Resolved tables

Reading and resolving everything below one config root. Contracts are resolved in ascending order,
services first. An apply record without service definitions is odd but harmless; a contract that has
ignore rules and no plugin is left out of the result.
-/

namespace Wiring

/-- The decisions below one config root. -/
structure Resolved where
  /-- The config root, in normal form. -/
  root : String
  /-- The chosen service of each service contract. -/
  services : Table ServiceChoice
  /-- The plugins of each plugin contract. -/
  plugins : Table PluginOrder
deriving DecidableEq

namespace Resolved

/-! ## Services -/

/-- Adds the choice for one contract. -/
def addChoice (records : Records) (overrides : Overrides) (choices : Table ServiceChoice)
    (service : String × Table ServiceDefinition) : Report (Table ServiceChoice) := do
  let choice ← ServiceChoice.resolve service.1 service.2 records.applies[service.1]? overrides
  return choices.insert service.1 choice

/-- The apply records of contracts without a service definition. -/
def strayApplies (records : Records) : List ApplyRecord :=
  (records.applies.toList.filter fun entry => !records.services.contains entry.1).map Prod.snd

/-- Says that a record has nothing to apply. -/
def announceStray (record : ApplyRecord) : Report Unit :=
  .say .warning <| s!"Apply record for {record.contract} => {record.chosenId} " ++
    s!"has no service definitions, in {record.source}"

/-! ## Plugins -/

/-- The contracts that have plugin definitions or ignore rules, in ascending order. -/
def pluginContracts (records : Records) : List String :=
  (NameSet.ofNames (records.plugins.keys ++ records.ignores.keys)).toList

/-- Adds the order of one contract's plugins. -/
def addOrder (records : Records) (overrides : Overrides) (orders : Table PluginOrder)
    (contract : String) : Report (Table PluginOrder) := do
  let order ← PluginOrder.resolve contract (records.plugins.getD contract [])
    (records.ignores.getD contract []) overrides
  return if order.definitions.isEmpty then orders else orders.insert contract order

/-! ## All together -/

/-- Resolves records that were read below a root. -/
def ofRecords (root : String) (records : Records) (overrides : Overrides) :
    Report Resolved := do
  let services ← records.services.toList.foldlM (addChoice records overrides) ∅
  (strayApplies records).forM announceStray
  let plugins ← (pluginContracts records).foldlM (addOrder records overrides) ∅
  return ⟨root, services, plugins⟩

/-- Reads and resolves everything below a config root. -/
def load (view : View) (root : String) (overrides : Overrides) : Report Resolved := do
  let root := normalizeRoot root
  let records ← Records.readAll view overrides root
  ofRecords root records overrides

end Resolved

end Wiring
