import Wiring.Definition.Plugin
import Wiring.Enumerator
import Wiring.Overrides
import Wiring.Properties.Text

/-!
# Records · Basics

The records below a config root and the reading of one family of them: the resources of its file
over all modules, less the excluded ones, each read as a property list. All resources of a family
are read before any of their entries is looked at.
-/

namespace Wiring

/-! ## Records -/

/-- Everything found below one config root. -/
structure Records where
  /-- The service definitions by contract and id. -/
  services : Table (Table ServiceDefinition)
  /-- The apply record of each contract that has one. -/
  applies : Table ApplyRecord
  /-- The plugin definitions of each contract, in the order in which they were found. -/
  plugins : Table (List PluginDefinition)
  /-- The ignore rules of each contract, in the order in which they were found. -/
  ignores : Table (List IgnoreRule)
deriving DecidableEq

/-- A family of records: one file in each module. -/
inductive Family
  /-- Service definitions. -/
  | services
  /-- Apply records. -/
  | applies
  /-- Plugin definitions. -/
  | plugins
  /-- Ignore rules. -/
  | ignores
deriving DecidableEq, Repr

/-- The file of a family, relative to the config root. -/
def Family.file : Family → String
  | services => "service.properties"
  | applies => "service-apply.properties"
  | plugins => "plugin.properties"
  | ignores => "plugin-ignore.properties"

/-! ## Reading a family -/

/-- One entry and the resource it stands in. -/
structure Entry where
  /-- The key. -/
  key : String
  /-- The value. -/
  value : String
  /-- The resource. -/
  source : Location
deriving DecidableEq, Repr

/-- The entries of a resource, in order. -/
def entriesOf (source : Location) (properties : Properties) : List Entry :=
  properties.entries.map fun pair => ⟨pair.1, pair.2, source⟩

namespace Records

/-- Reads one resource; an excluded one has no entries. -/
def readResource (overrides : Overrides) (resource : Resource) : Report (List Entry) := do
  let fingerprint := resource.fingerprint
  if fingerprint ∈ overrides.excluded then
    .say .info s!"Excluded resource skipped: {resource.location}, fingerprint {fingerprint}"
    return []
  else
    .say .debug s!"Loading {resource.location}, fingerprint {fingerprint}"
    let properties ← .ofSyntax (Properties.ofBytes resource.bytes resource.location.text)
    if properties.isEmpty then
      .say .warning s!"Resource has no entries: {resource.location}"
    return entriesOf resource.location properties

/-- The entries of a family over all modules, in order. -/
def readFamily (view : View) (overrides : Overrides) (root : String) (family : Family) :
    Report (List Entry) := do
  let path := root ++ family.file
  let resources ← view.enumerate path (.enumeration path)
  let entries ← resources.mapM (readResource overrides)
  return entries.flatten

/-- The contract that the key of an apply or ignore record names. -/
def contractOfKey (key : String) (source : Location) : Except SyntaxError String :=
  let contract := Text.trim key
  if contract.isEmpty || contract.contains '>' then
    .error (.illegalKey key .contract source.text)
  else .ok contract

end Records

end Wiring
