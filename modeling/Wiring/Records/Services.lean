import Wiring.Records.Basic

/-!
# Records · Services

Reading service definitions and apply records. Two definitions of one contract with one id are a
conflict. Two apply records of one contract may agree; where they do not, that is a conflict, put
off for a contract whose apply variable is set.
-/

namespace Wiring.Records

/-! ## Service definitions -/

/-- The table of definitions with one more. -/
def insertService (services : Table (Table ServiceDefinition)) (d : ServiceDefinition) :
    Table (Table ServiceDefinition) :=
  services.insert d.contract ((services.getD d.contract ∅).insert d.id d)

/-- Adds the definition that an entry holds. -/
def addService (root : String) (services : Table (Table ServiceDefinition)) (entry : Entry) :
    Report (Table (Table ServiceDefinition)) := do
  let d ← .ofSyntax (ServiceDefinition.ofEntry entry.key entry.value root entry.source)
  .say .debug s!"Service definition found: {d.contract}>{d.id} => {d}"
  match (services.getD d.contract ∅)[d.id]? with
  | some first =>
    .fail (.conflict (.duplicateId d.contract d.id first.source.text d.source.text))
  | none => return insertService services d

/-- Reads all service definitions. -/
def readServices (view : View) (overrides : Overrides) (root : String) :
    Report (Table (Table ServiceDefinition)) := do
  let entries ← readFamily view overrides root .services
  entries.foldlM (addService root) ∅

/-! ## Apply records -/

/-- Reads one apply record. -/
def applyOfEntry (entry : Entry) : Except SyntaxError ApplyRecord := do
  let contract ← contractOfKey entry.key entry.source
  let chosenId := Text.trim entry.value
  if chosenId.isEmpty then .error (.emptyValue contract entry.source.text)
  return ⟨contract, chosenId, entry.source, none⟩

/-- Joins a record of a contract with the record that came first. -/
def joinApply (overrides : Overrides) (first second : ApplyRecord) : Report ApplyRecord := do
  if first.chosenId = second.chosenId then
    .say .warning <| s!"Duplicate apply record for {second.contract} => {second.chosenId}, " ++
      s!"in {first.source} and {second.source}"
    return first
  else
    let conflict := ConflictError.applyDisagreement second.contract first.chosenId
      first.source.text second.chosenId second.source.text
    if second.contract ∈ overrides.apply then
      .say .warning <| s!"{conflict.message}; deferred to override variable " ++
        Overrides.applyVariable second.contract
      return { first with conflict := first.conflict.or (some conflict) }
    else .fail (.conflict conflict)

/-- Adds the apply record that an entry holds. -/
def addApply (overrides : Overrides) (applies : Table ApplyRecord) (entry : Entry) :
    Report (Table ApplyRecord) := do
  let record ← .ofSyntax (applyOfEntry entry)
  .say .debug
    s!"Apply record found: {record.contract} => {record.chosenId}, in {record.source}"
  match applies[record.contract]? with
  | none => return applies.insert record.contract record
  | some first =>
    let joined ← joinApply overrides first record
    return applies.insert record.contract joined

/-- Reads all apply records. -/
def readApplies (view : View) (overrides : Overrides) (root : String) :
    Report (Table ApplyRecord) := do
  let entries ← readFamily view overrides root .applies
  entries.foldlM (addApply overrides) ∅

end Wiring.Records
