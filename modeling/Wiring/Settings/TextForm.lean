import Wiring.Table
import Wiring.Text.Blank
import Wiring.Text.Split

/-!
# Settings · Text forms

The forms in which a set and a table fit into a single text: names between commas, and pairs
`key=value` between semicolons. Blanks around a name, a key or a value do not count, nor do blank
items; of two pairs with one key the later counts.
-/

namespace Wiring.Settings

/-- The trimmed names in a list, blank ones left out. -/
def readNames (items : List String) : NameSet :=
  NameSet.ofNames ((items.map Text.trim).filter (!·.isEmpty))

/-- The names between commas. -/
def readList (text : String) : NameSet :=
  readNames (Text.split (· == ',') text)

/-- The items between semicolons, trimmed, blank ones left out. -/
def pairItems (text : String) : List String :=
  ((Text.split (· == ';') text).map Text.trim).filter (!·.isEmpty)

/-- The key and the value of an item; an item without an equals sign is handed back. -/
def readPair (item : String) : Except String (String × String) :=
  match Text.splitOnce '=' item.toList with
  | some (key, value) =>
    .ok (.ofList (Text.trimChars key), .ofList (Text.trimChars value))
  | none => .error item

/-- The pairs between semicolons, or the first item that is none. -/
def readPairs (text : String) : Except String (Table String) :=
  ((pairItems text).mapM readPair).map Table.ofPairs

end Wiring.Settings
