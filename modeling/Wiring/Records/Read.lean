import Wiring.Records.Plugins
import Wiring.Records.Services

/-!
# Records · All families

Reading the four families below one config root, one after the other. The first error ends the
reading.
-/

namespace Wiring.Records

/-- Reads all records below a config root in normal form. -/
def readAll (view : View) (overrides : Overrides) (root : String) : Report Records := do
  let services ← readServices view overrides root
  let applies ← readApplies view overrides root
  let plugins ← readPlugins view overrides root
  let ignores ← readIgnores view overrides root
  return ⟨services, applies, plugins, ignores⟩

end Wiring.Records
