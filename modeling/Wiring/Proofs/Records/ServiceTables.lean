import Mathlib.Data.List.Nodup
import Wiring.Proofs.Records.Family
import Wiring.Proofs.Records.Readable
import Wiring.Proofs.Tables

/-!
# Records · The table of service definitions

What the reading of the service definitions yields. The state after any number of entries is the
table of the definitions read so far (`serviceTable`), and a definition is admitted when none of
those before it bears its name. So the reading succeeds exactly when every entry holds a definition
and no two definitions have one contract and one id (`outcome_readServices_eq_ok_iff`), and what
stands under a contract and an id is the definition of that name
(`serviceAt_serviceTable_eq_some_iff`).
-/

namespace Wiring

/-! ## Definitions under their names -/

/-- The name of a definition: its contract and its id. -/
def ServiceDefinition.name (d : ServiceDefinition) : String × String :=
  (d.contract, d.id)

/-- The definition that stands under a contract and an id. -/
def serviceAt (services : Table (Table ServiceDefinition)) (contract id : String) :
    Option ServiceDefinition :=
  (services.getD contract ∅)[id]?

/-- The table of definitions inserted one after the other. -/
def serviceTable (ds : List ServiceDefinition) : Table (Table ServiceDefinition) :=
  ds.foldl Records.insertService ∅

/-- The last definition is inserted last. -/
theorem serviceTable_append_singleton (ds : List ServiceDefinition) (d : ServiceDefinition) :
    serviceTable (ds ++ [d]) = Records.insertService (serviceTable ds) d := by
  simp [serviceTable]

/-- A definition that is inserted stands under its name, and changes nothing elsewhere. -/
theorem serviceAt_insertService (services : Table (Table ServiceDefinition))
    (d : ServiceDefinition) (contract id : String) :
    serviceAt (Records.insertService services d) contract id =
      if d.name = (contract, id) then some d else serviceAt services contract id := by
  rw [serviceAt, Records.insertService, Table.getD_insert]
  simp only [ServiceDefinition.name, Prod.mk.injEq]
  by_cases hcontract : contract = d.contract
  · subst hcontract
    rw [if_pos rfl, Table.getElem?_insert, serviceAt]
    simp only [true_and, eq_comm]
  · rw [if_neg hcontract, if_neg fun h => hcontract h.1.symm, serviceAt]

/-- The definition under a name is the one of that name that came last. -/
theorem serviceAt_serviceTable (ds : List ServiceDefinition) (contract id : String) :
    serviceAt (serviceTable ds) contract id = ds.reverse.find? (·.name = (contract, id)) := by
  induction ds using List.reverseRecOn with
  | nil => simp [serviceTable, serviceAt]
  | append_singleton ds d ih =>
    rw [serviceTable_append_singleton, serviceAt_insertService, ih, List.reverse_append,
      List.reverse_singleton, List.singleton_append, List.find?_cons]
    by_cases h : d.name = (contract, id) <;> simp [h]

/-- Nothing stands under a name exactly when no definition bears it. -/
theorem serviceAt_serviceTable_eq_none_iff {ds : List ServiceDefinition} {contract id : String} :
    serviceAt (serviceTable ds) contract id = none ↔
      (contract, id) ∉ ds.map ServiceDefinition.name := by
  simp [serviceAt_serviceTable]

/-- **Under distinct names**, what stands under a name is the definition that bears it. -/
theorem serviceAt_serviceTable_eq_some_iff {ds : List ServiceDefinition}
    (h : (ds.map ServiceDefinition.name).Nodup) {contract id : String} {d : ServiceDefinition} :
    serviceAt (serviceTable ds) contract id = some d ↔ d ∈ ds ∧ d.name = (contract, id) := by
  constructor
  · intro hd
    rw [serviceAt_serviceTable] at hd
    have hmem := List.mem_of_find?_eq_some hd
    exact ⟨List.mem_reverse.1 hmem, by simpa using List.find?_some hd⟩
  · rintro ⟨hmem, hname⟩
    cases hat : serviceAt (serviceTable ds) contract id with
    | none =>
      rw [serviceAt_serviceTable_eq_none_iff, ← hname] at hat
      exact absurd (List.mem_map_of_mem hmem) hat
    | some d' =>
      rw [serviceAt_serviceTable] at hat
      have hmem' := List.mem_reverse.1 (List.mem_of_find?_eq_some hat)
      have hname' : d'.name = (contract, id) := by simpa using List.find?_some hat
      rw [List.inj_on_of_nodup_map h hmem' hmem (hname'.trans hname.symm)]

/-- The contracts of the table are those of the definitions. -/
theorem mem_serviceTable {ds : List ServiceDefinition} {contract : String} :
    contract ∈ serviceTable ds ↔ ∃ d ∈ ds, d.contract = contract := by
  induction ds using List.reverseRecOn with
  | nil => simp [serviceTable]
  | append_singleton ds d ih =>
    rw [serviceTable_append_singleton, Records.insertService, Table.mem_insert, ih]
    simp only [List.mem_append, List.mem_singleton, or_and_right, exists_or, exists_eq_left]
    rw [or_comm, eq_comm]

/-! ## Admission -/

/-- Names are distinct exactly when each is new among those before it. -/
theorem nodup_map_iff_forall_split {α β : Type} {f : α → β} {xs : List α} :
    (xs.map f).Nodup ↔ ∀ before x after, xs = before ++ x :: after → f x ∉ before.map f := by
  constructor
  · rintro h before x after rfl hmem
    rw [List.map_append, List.nodup_append] at h
    exact h.2.2 _ hmem _ (by simp) rfl
  · intro h
    induction xs using List.reverseRecOn with
    | nil => exact List.nodup_nil
    | append_singleton xs x ih =>
      have hxs : (xs.map f).Nodup := by
        refine ih fun before y after hsplit => h before y (after ++ [x]) ?_
        rw [hsplit, List.append_assoc, List.cons_append]
      rw [List.map_append, List.map_singleton, List.nodup_append]
      refine ⟨hxs, by simp, fun a ha b hb => ?_⟩
      rw [List.mem_singleton.1 hb]
      rintro rfl
      exact h xs x [] rfl ha

namespace Records

/-- What becomes of a definition that is added to a table. -/
def admitService (services : Table (Table ServiceDefinition)) (d : ServiceDefinition) :
    Except Error (Table (Table ServiceDefinition)) :=
  match serviceAt services d.contract d.id with
  | some first =>
    .error (.conflict (.duplicateId d.contract d.id first.source.text d.source.text))
  | none => .ok (insertService services d)

/-- An entry is added by admitting the definition that it holds. -/
theorem outcome_addService (root : String) (services : Table (Table ServiceDefinition))
    (entry : Entry) :
    (addService root services entry).outcome =
      (entry.service root).mapError .malformed >>= admitService services := by
  rw [addService, Report.outcome_bind_eq, Report.outcome_ofSyntax, ← Entry.service]
  congr 1
  funext d
  rw [Report.outcome_say_bind, admitService, serviceAt]
  cases (services.getD d.contract ∅)[d.id]? <;> rfl

/-- **A definition is admitted** exactly when none of those before it bears its name. -/
theorem admitService_serviceTable_eq_ok_iff (before : List ServiceDefinition)
    (d : ServiceDefinition) (services : Table (Table ServiceDefinition)) :
    admitService (serviceTable before) d = .ok services ↔
      d.name ∉ before.map ServiceDefinition.name ∧ services = serviceTable (before ++ [d]) := by
  rw [admitService, serviceTable_append_singleton, ServiceDefinition.name,
    ← serviceAt_serviceTable_eq_none_iff]
  cases serviceAt (serviceTable before) d.contract d.id <;> simp [eq_comm]

/-- **Definitions are added** exactly when every entry holds one and no two of them bear one
name. -/
theorem outcome_addServices_eq_ok_iff {root : String} {entries : List Entry}
    {services : Table (Table ServiceDefinition)} :
    (entries.foldlM (addService root) ∅).outcome = .ok services ↔
      ∃ ds, List.Forall₂ (fun entry d => entry.service root = .ok d) entries ds ∧
        (ds.map ServiceDefinition.name).Nodup ∧ services = serviceTable ds := by
  simp only [Report.outcome_foldlM, outcome_addService]
  have hstart : (∅ : Table (Table ServiceDefinition)) = serviceTable [] := rfl
  rw [hstart, foldlM_eq_ok_iff admitService_serviceTable_eq_ok_iff]
  simp only [mapError_eq_ok_iff, nodup_map_iff_forall_split]

/-- Of the overrides only the excluded resources count for service definitions. -/
theorem readServices_congr {overrides overrides' : Overrides}
    (h : overrides.excluded = overrides'.excluded) (view : View) (root : String) :
    readServices view overrides root = readServices view overrides' root := by
  rw [readServices, readServices, readFamily_congr h]

/-- **Reading the service definitions succeeds** exactly when every entry holds a definition and no
two of them bear one name; the result is the table of the definitions. -/
theorem outcome_readServices_eq_ok_iff {view : View} {overrides : Overrides} {root : String}
    {services : Table (Table ServiceDefinition)} :
    (readServices view overrides root).outcome = .ok services ↔
      ∃ entries ds, HasEntries view overrides root .services entries ∧
        List.Forall₂ (fun entry d => entry.service root = .ok d) entries ds ∧
        (ds.map ServiceDefinition.name).Nodup ∧ services = serviceTable ds := by
  rw [readServices, Report.outcome_bind_eq_ok_iff]
  simp only [outcome_readFamily_eq_ok_iff, outcome_addServices_eq_ok_iff, exists_and_left]

end Records

end Wiring
