import Wiring.Records.Basic

/-!
# Records · Plugins

Reading plugin definitions and ignore rules. Definitions of one contract are kept in the order in
which they were found, whatever their priorities. The value of an ignore entry lists implementation
references between commas; blank items do not count.
-/

namespace Wiring

/-- The items between commas, trimmed, blank ones left out. -/
def commaItems (text : String) : List String :=
  ((Text.split (· == ',') text).map Text.trim).filter (!·.isEmpty)

namespace Records

/-! ## Plugin definitions -/

/-- Adds the definition that an entry holds. -/
def addPlugin (root : String) (plugins : Table (List PluginDefinition)) (entry : Entry) :
    Report (Table (List PluginDefinition)) := do
  let d ← .ofSyntax (PluginDefinition.ofEntry entry.key entry.value root entry.source)
  .say .debug s!"Plugin definition found: {d.contract} => {d}"
  return plugins.insert d.contract (plugins.getD d.contract [] ++ [d])

/-- Reads all plugin definitions. -/
def readPlugins (view : View) (overrides : Overrides) (root : String) :
    Report (Table (List PluginDefinition)) := do
  let entries ← readFamily view overrides root .plugins
  entries.foldlM (addPlugin root) ∅

/-! ## Ignore rules -/

/-- The contract of an ignore entry, whose value must not be blank. -/
def ignoreContract (entry : Entry) : Except SyntaxError String := do
  let contract ← contractOfKey entry.key entry.source
  if Text.isBlankText entry.value then .error (.emptyValue contract entry.source.text)
  return contract

/-- Reads one item of an ignore entry. -/
def readRule (contract : String) (source : Location) (item : String) : Report IgnoreRule := do
  let ignored ← .ofSyntax (Implementation.parse item contract source.text)
  .say .debug s!"Ignore rule found: {contract} => {ignored}, in {source}"
  return ⟨contract, ignored, source⟩

/-- Adds the rules that an entry holds. -/
def addIgnores (ignores : Table (List IgnoreRule)) (entry : Entry) :
    Report (Table (List IgnoreRule)) := do
  let contract ← .ofSyntax (ignoreContract entry)
  let rules ← (commaItems entry.value).mapM (readRule contract entry.source)
  return ignores.insert contract (ignores.getD contract [] ++ rules)

/-- Reads all ignore rules. -/
def readIgnores (view : View) (overrides : Overrides) (root : String) :
    Report (Table (List IgnoreRule)) := do
  let entries ← readFamily view overrides root .ignores
  entries.foldlM addIgnores ∅

end Records

end Wiring
