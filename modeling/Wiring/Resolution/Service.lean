import Wiring.Records.Services

/-!
# Resolution · Services

Choosing the one definition that serves a contract. The first of these that names a definition wins:
the apply variable of the contract, its apply record, the highest level if a single definition has
it. An apply record that carries a conflict is an error when its turn comes.
-/

namespace Wiring

/-! ## Choices -/

/-- Why a definition is applied. -/
inductive ApplyReason
  /-- The variable of that name says so. -/
  | override (name : String)
  /-- A record in the resource says so. -/
  | record (source : Location)
  /-- It alone has the highest level. -/
  | highest (level : Level)
deriving DecidableEq, Repr

/-- The reason as it is shown. -/
def ApplyReason.text : ApplyReason → String
  | override name => s!"applied by {name}"
  | record source => s!"applied by {source}"
  | highest level => s!"highest level {level}"

/-- The definition applied for a contract, and those it was chosen from. -/
structure ServiceChoice where
  /-- The contract. -/
  contract : String
  /-- The definition applied. -/
  applied : ServiceDefinition
  /-- Why it is applied. -/
  reason : ApplyReason
  /-- All definitions of the contract by id. -/
  definitions : Table ServiceDefinition
deriving DecidableEq

namespace ServiceChoice

/-! ## The three tiers -/

/-- What the apply variable of the contract says. -/
def byVariable (contract : String) (definitions : Table ServiceDefinition)
    (overrides : Overrides) : Report (Option (ServiceDefinition × ApplyReason)) := do
  match overrides.apply[contract]? with
  | none => return none
  | some id =>
    let origin := Overrides.applyVariable contract
    match definitions[Text.trim id]? with
    | some d => return some (d, .override origin)
    | none =>
      .say .warning <| s!"Service id '{id}' named by {origin} is undefined for {contract}, " ++
        "falling through"
      return none

/-- What the apply record of the contract says. -/
def byRecord (contract : String) (definitions : Table ServiceDefinition)
    (apply : Option ApplyRecord) : Report (Option (ServiceDefinition × ApplyReason)) := do
  match apply with
  | none => return none
  | some record =>
    match record.conflict, definitions[record.chosenId]? with
    | some conflict, _ => .fail (.conflict conflict)
    | none, some d => return some (d, .record record.source)
    | none, none =>
      .say .warning <| s!"Service id '{record.chosenId}' named in {record.source} " ++
        s!"is undefined for {contract}, falling through"
      return none

/-- The definitions of the highest level, by id. -/
def topmost (definitions : Table ServiceDefinition) : List ServiceDefinition :=
  let all := definitions.toList.map Prod.snd
  all.filter fun d => Level.highest? (all.map (·.level)) = some d.level

/-- What the levels say. -/
def byLevel (contract : String) (definitions : Table ServiceDefinition) :
    Except ConflictError (ServiceDefinition × ApplyReason) :=
  match topmost definitions with
  | [d] => .ok (d, .highest d.level)
  | several => .error (.ambiguousLevel contract (several.map ServiceDefinition.text))

/-- Chooses among the definitions of a contract. -/
def select (contract : String) (definitions : Table ServiceDefinition)
    (apply : Option ApplyRecord) (overrides : Overrides) :
    Report (ServiceDefinition × ApplyReason) := do
  match ← byVariable contract definitions overrides with
  | some choice => return choice
  | none =>
    match ← byRecord contract definitions apply with
    | some choice => return choice
    | none => .ofConflict (byLevel contract definitions)

/-! ## Resolution -/

/-- Says what was chosen, why, and among what. -/
def announce (choice : ServiceChoice) : Report Unit := do
  .say .info s!"Service applied: {choice.contract} => {choice.applied}"
  .say .debug s!"Service {choice.contract}: {choice.reason.text}"
  let others := (choice.definitions.toList.map Prod.snd).filter (·.id != choice.applied.id)
  others.forM fun d => .say .debug s!"Service candidate: {choice.contract} => {d}"

/-- Chooses the definition that serves a contract. -/
def resolve (contract : String) (definitions : Table ServiceDefinition)
    (apply : Option ApplyRecord) (overrides : Overrides) : Report ServiceChoice := do
  let (applied, reason) ← select contract definitions apply overrides
  let choice : ServiceChoice := ⟨contract, applied, reason, definitions⟩
  announce choice
  return choice

end ServiceChoice

end Wiring
