import Wiring.Records.Plugins

/-!
# Resolution · Plugins

Disabling and ordering the plugins of a contract. The selectors of the ignore variable come first,
then the ignore rules in order; each disables every definition it selects, disabled or not, and the
last one is kept as the reason. What stays enabled is ordered by priority, ties in the order in
which the definitions were found.
-/

namespace Wiring

/-! ## Orders -/

/-- The enabled plugins of a contract in order, and all of them as they were found. -/
structure PluginOrder where
  /-- The contract. -/
  contract : String
  /-- The enabled definitions by ascending priority. -/
  ordered : List PluginDefinition
  /-- All definitions, in the order in which they were found. -/
  definitions : List PluginDefinition
deriving DecidableEq, Repr

/-- The definitions that are disabled. -/
def PluginOrder.disabled (order : PluginOrder) : List PluginDefinition :=
  order.definitions.filter (!·.enabled)

/-- How many plugins are listed one by one at the middle verbosity. -/
def listedPlugins : Nat := 10

namespace PluginOrder

/-! ## Selectors -/

/-- A reference that disables what it selects, and where it stands. -/
structure Selector where
  /-- What is disabled. -/
  ignored : Implementation
  /-- The variable or the resource that holds the reference. -/
  origin : String
deriving DecidableEq, Repr

/-- The selector of an ignore rule. -/
def Selector.ofRule (rule : IgnoreRule) : Selector :=
  ⟨rule.ignored, rule.source.text⟩

/-- The definition as a selector leaves it. -/
def Selector.applyTo (s : Selector) (d : PluginDefinition) : PluginDefinition :=
  if s.ignored.selects d.implementation then d.disable s.origin else d

/-- The definitions as a selector leaves them. A selector that selects nothing is odd. -/
def disable (contract : String) (definitions : List PluginDefinition) (s : Selector) :
    Report (List PluginDefinition) := do
  if !definitions.any fun d => s.ignored.selects d.implementation then
    .say .warning <| s!"Ignored plugin {s.ignored} matches no definition of {contract}, " ++
      s!"in {s.origin}"
  return definitions.map s.applyTo

/-- Reads one item of the ignore variable of a contract and applies it. -/
def disableItem (contract : String) (definitions : List PluginDefinition) (item : String) :
    Report (List PluginDefinition) := do
  let origin := Overrides.ignoreVariable contract
  let ignored ← .ofSyntax (Implementation.parse item contract origin)
  disable contract definitions ⟨ignored, origin⟩

/-- The items of the ignore variable of a contract. -/
def variableItems (contract : String) (overrides : Overrides) : List String :=
  match overrides.ignore[contract]? with
  | some items => commaItems items
  | none => []

/-! ## Resolution -/

/-- The enabled definitions by ascending priority, ties kept in order. -/
def sortEnabled (definitions : List PluginDefinition) : List PluginDefinition :=
  (definitions.filter (·.enabled)).mergeSort fun a b => a.priority ≤ b.priority

/-- Says what is enabled and what is disabled: all of it in detail, and a few in brief. -/
def announce (order : PluginOrder) : Report Unit := do
  order.ordered.forM fun d => .say .debug s!"Plugin enabled: {order.contract} => {d}"
  order.disabled.forM fun d => .say .debug s!"Plugin disabled: {order.contract} => {d}"
  (order.ordered.take listedPlugins).forM fun d =>
    .sumUp s!"Plugin enabled: {order.contract} => {d}"
  let rest := order.ordered.length - listedPlugins
  if 0 < rest then .sumUp s!"Plugin enabled: {order.contract} => ... {rest} more"

/-- Disables and orders the plugins of a contract. -/
def resolve (contract : String) (definitions : List PluginDefinition) (rules : List IgnoreRule)
    (overrides : Overrides) : Report PluginOrder := do
  let definitions ← (variableItems contract overrides).foldlM (disableItem contract) definitions
  let definitions ← (rules.map Selector.ofRule).foldlM (disable contract) definitions
  let order : PluginOrder := ⟨contract, sortEnabled definitions, definitions⟩
  announce order
  return order

end PluginOrder

end Wiring
