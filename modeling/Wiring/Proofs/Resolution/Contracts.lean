import Wiring.Proofs.Records.Failures
import Wiring.Proofs.Resolution.Selectors
import Wiring.Proofs.Tables
import Wiring.Resolution.Resolved

/-!
# Resolution · Contract by contract

The resolution of all contracts in terms of the resolution of each. Contracts are worked through one
after the other, and the first that cannot be resolved ends the whole; so the whole succeeds exactly
when each contract can be resolved, and what stands under a contract then is what the contract was
resolved to for itself. Main statements: `getElem?_addChoices_iff` for services,
`getElem?_addOrders_iff` for plugins, and `outcome_ofRecords_eq_ok_iff`, which puts them together.
Where the whole fails, it does so over one service contract or over an ignore variable
(`of_outcome_ofRecords_eq_error`).
-/

namespace Wiring.Resolved

variable {records : Records} {overrides : Overrides}

/-! ## Services -/

/-- The choice for one contract, beside its name. -/
def choiceFor (records : Records) (overrides : Overrides)
    (service : String × Table ServiceDefinition) : Except Error (String × ServiceChoice) :=
  (ServiceChoice.resolve service.1 service.2 records.applies[service.1]? overrides).outcome.map
    fun choice => (service.1, choice)

/-- The choice for a contract is what its definitions and its record are resolved to. -/
theorem choiceFor_eq_ok_iff {service : String × Table ServiceDefinition}
    {pair : String × ServiceChoice} :
    choiceFor records overrides service = .ok pair ↔ pair.1 = service.1 ∧
      (ServiceChoice.resolve service.1 service.2 records.applies[service.1]? overrides).outcome =
        .ok pair.2 := by
  unfold choiceFor
  obtain ⟨name, choice⟩ := pair
  cases (ServiceChoice.resolve service.1 service.2 records.applies[service.1]?
    overrides).outcome <;>
    simp [Except.map, eq_comm]

/-- A choice is added under its contract. -/
theorem outcome_addChoice (records : Records) (overrides : Overrides)
    (choices : Table ServiceChoice) (service : String × Table ServiceDefinition) :
    (addChoice records overrides choices service).outcome =
      choiceFor records overrides service >>= fun pair => .ok (choices.insert pair.1 pair.2) := by
  unfold addChoice choiceFor
  rw [Report.outcome_bind_eq]
  cases (ServiceChoice.resolve service.1 service.2 records.applies[service.1]?
    overrides).outcome <;>
    rfl

/-- The choices are there exactly when each contract yields its own. -/
theorem outcome_addChoices_eq_ok_iff {choices : Table ServiceChoice} :
    (records.services.toList.foldlM (addChoice records overrides) ∅).outcome = .ok choices ↔
      ∃ pairs, List.Forall₂ (fun service pair => choiceFor records overrides service = .ok pair)
        records.services.toList pairs ∧ choices = Table.ofPairs pairs := by
  simp only [Report.outcome_foldlM, outcome_addChoice]
  exact foldlM_total_eq_ok_iff

/-- **All service contracts are resolved** exactly when each of them can be. -/
theorem exists_outcome_addChoices_iff :
    (∃ choices, (records.services.toList.foldlM (addChoice records overrides) ∅).outcome =
        .ok choices) ↔
      ∀ (contract : String) definitions, records.services[contract]? = some definitions →
        ∃ choice, (ServiceChoice.resolve contract definitions records.applies[contract]?
          overrides).outcome = .ok choice := by
  simp only [outcome_addChoices_eq_ok_iff]
  constructor
  · rintro ⟨_, pairs, hpairs, -⟩ contract definitions hdefinitions
    have hmem : (contract, definitions) ∈ records.services.toList :=
      Std.ExtTreeMap.mem_toList_iff_getElem?_eq_some.2 hdefinitions
    obtain ⟨pair, hok⟩ := exists_forall₂_iff.1 ⟨pairs, hpairs⟩ _ hmem
    exact ⟨pair.2, (choiceFor_eq_ok_iff.1 hok).2⟩
  · intro h
    have hall : ∀ service ∈ records.services.toList,
        ∃ pair, choiceFor records overrides service = .ok pair := by
      rintro ⟨contract, definitions⟩ hmem
      obtain ⟨choice, hchoice⟩ :=
        h contract definitions (Std.ExtTreeMap.mem_toList_iff_getElem?_eq_some.1 hmem)
      exact ⟨(contract, choice), choiceFor_eq_ok_iff.2 ⟨rfl, hchoice⟩⟩
    obtain ⟨pairs, hpairs⟩ := exists_forall₂_iff.2 hall
    exact ⟨_, pairs, hpairs, rfl⟩

/-- **What stands under a service contract** is what its definitions are resolved to. -/
theorem getElem?_addChoices_iff {choices : Table ServiceChoice}
    (h : (records.services.toList.foldlM (addChoice records overrides) ∅).outcome = .ok choices)
    {contract : String} {choice : ServiceChoice} :
    choices[contract]? = some choice ↔
      ∃ definitions, records.services[contract]? = some definitions ∧
        (ServiceChoice.resolve contract definitions records.applies[contract]?
          overrides).outcome = .ok choice := by
  obtain ⟨pairs, hpairs, rfl⟩ := outcome_addChoices_eq_ok_iff.1 h
  have hmem (contract : String) (choice : ServiceChoice) : (contract, choice) ∈ pairs ↔
      ∃ definitions, records.services[contract]? = some definitions ∧
        (ServiceChoice.resolve contract definitions records.applies[contract]?
          overrides).outcome = .ok choice := by
    rw [mem_iff_of_forall₂ hpairs]
    constructor
    · rintro ⟨⟨name, definitions⟩, hservice, hok⟩
      obtain ⟨hname, hresolve⟩ := choiceFor_eq_ok_iff.1 hok
      obtain rfl : contract = name := hname
      exact ⟨definitions, Std.ExtTreeMap.mem_toList_iff_getElem?_eq_some.1 hservice, hresolve⟩
    · rintro ⟨definitions, hdefinitions, hresolve⟩
      exact ⟨(contract, definitions), Std.ExtTreeMap.mem_toList_iff_getElem?_eq_some.2 hdefinitions,
        choiceFor_eq_ok_iff.2 ⟨rfl, hresolve⟩⟩
  rw [Table.getElem?_ofPairs_eq_some_iff, hmem]
  intro name first second hfirst hsecond
  obtain ⟨definitions, hdefinitions, hok⟩ := (hmem name first).1 hfirst
  obtain ⟨definitions', hdefinitions', hok'⟩ := (hmem name second).1 hsecond
  obtain rfl := Option.some.inj (hdefinitions.symm.trans hdefinitions')
  exact Except.ok.inj (hok.symm.trans hok')

/-- The contracts with a choice are those with definitions. -/
theorem mem_addChoices_iff {choices : Table ServiceChoice}
    (h : (records.services.toList.foldlM (addChoice records overrides) ∅).outcome = .ok choices)
    {contract : String} : contract ∈ choices ↔ contract ∈ records.services := by
  rw [Std.ExtTreeMap.mem_iff_isSome_getElem?, Std.ExtTreeMap.mem_iff_isSome_getElem?,
    Option.isSome_iff_exists, Option.isSome_iff_exists]
  constructor
  · rintro ⟨choice, hchoice⟩
    obtain ⟨definitions, hdefinitions, -⟩ := (getElem?_addChoices_iff h).1 hchoice
    exact ⟨definitions, hdefinitions⟩
  · rintro ⟨definitions, hdefinitions⟩
    obtain ⟨choice, hok⟩ := exists_outcome_addChoices_iff.1 ⟨choices, h⟩ contract definitions
      hdefinitions
    exact ⟨choice, (getElem?_addChoices_iff h).2 ⟨definitions, hdefinitions, hok⟩⟩

/-- A contract that cannot be resolved ends the resolution of all. -/
theorem exists_of_outcome_addChoices_eq_error {e : Error}
    (h : (records.services.toList.foldlM (addChoice records overrides) ∅).outcome = .error e) :
    ∃ (contract : String) (definitions : Table ServiceDefinition),
      records.services[contract]? = some definitions ∧
        (ServiceChoice.resolve contract definitions records.applies[contract]?
          overrides).outcome = .error e := by
  rw [Report.outcome_foldlM] at h
  obtain ⟨choices, ⟨contract, definitions⟩, hservice, hstep⟩ := exists_of_foldlM_eq_error h
  refine ⟨contract, definitions, Std.ExtTreeMap.mem_toList_iff_getElem?_eq_some.1 hservice, ?_⟩
  rcases Report.outcome_bind_eq_error_iff.1 hstep with hresolve | ⟨choice, -, hinsert⟩
  · exact hresolve
  · cases hinsert

/-! ## Plugins -/

/-- Plugin contracts are those that have definitions or ignore rules. -/
theorem mem_pluginContracts {contract : String} :
    contract ∈ pluginContracts records ↔
      contract ∈ records.plugins ∨ contract ∈ records.ignores := by
  rw [pluginContracts, Std.ExtTreeSet.mem_toList, NameSet.mem_ofNames, List.mem_append,
    Std.ExtTreeMap.mem_keys, Std.ExtTreeMap.mem_keys]

/-- No plugin contract is resolved twice. -/
theorem nodup_pluginContracts (records : Records) : (pluginContracts records).Nodup := by
  have hdistinct := (NameSet.ofNames (records.plugins.keys ++ records.ignores.keys)).distinct_toList
  exact hdistinct.imp fun hne heq => hne (Std.compare_eq_iff_eq.2 heq)

/-- The order of one contract's plugins, beside its name. -/
def orderFor (records : Records) (overrides : Overrides) (contract : String) :
    Except Error (String × PluginOrder) :=
  (PluginOrder.resolve contract (records.plugins.getD contract [])
    (records.ignores.getD contract []) overrides).outcome.map fun order => (contract, order)

/-- The table with one more order, unless the contract has no definition. -/
def insertOrder (orders : Table PluginOrder) (pair : String × PluginOrder) : Table PluginOrder :=
  if pair.2.definitions.isEmpty then orders else orders.insert pair.1 pair.2

/-- The order for a contract is what its definitions and its rules are resolved to. -/
theorem orderFor_eq_ok_iff {contract : String} {pair : String × PluginOrder} :
    orderFor records overrides contract = .ok pair ↔ pair.1 = contract ∧
      (PluginOrder.resolve contract (records.plugins.getD contract [])
        (records.ignores.getD contract []) overrides).outcome = .ok pair.2 := by
  unfold orderFor
  obtain ⟨name, order⟩ := pair
  cases (PluginOrder.resolve contract (records.plugins.getD contract [])
    (records.ignores.getD contract []) overrides).outcome <;> simp [Except.map, eq_comm]

/-- An order is added under its contract, unless there is no definition. -/
theorem outcome_addOrder (orders : Table PluginOrder) (contract : String) :
    (addOrder records overrides orders contract).outcome =
      orderFor records overrides contract >>= fun pair => .ok (insertOrder orders pair) := by
  unfold addOrder orderFor
  rw [Report.outcome_bind_eq]
  cases (PluginOrder.resolve contract (records.plugins.getD contract [])
    (records.ignores.getD contract []) overrides).outcome <;> rfl

/-- Orders inserted one after the other stand under their contracts, empty ones apart. -/
theorem foldl_insertOrder (pairs : List (String × PluginOrder)) :
    pairs.foldl insertOrder ∅ =
      Table.ofPairs (pairs.filter fun pair => !pair.2.definitions.isEmpty) := by
  unfold Table.ofPairs
  rw [List.foldl_filter]
  congr 1
  funext orders pair
  unfold insertOrder
  cases pair.2.definitions.isEmpty <;> rfl

/-- The orders are there exactly when each contract yields its own. -/
theorem outcome_addOrders_eq_ok_iff {contracts : List String} {orders : Table PluginOrder} :
    (contracts.foldlM (addOrder records overrides) ∅).outcome = .ok orders ↔
      ∃ pairs, List.Forall₂ (fun contract pair => orderFor records overrides contract = .ok pair)
        contracts pairs ∧
        orders = Table.ofPairs (pairs.filter fun pair => !pair.2.definitions.isEmpty) := by
  simp only [Report.outcome_foldlM, outcome_addOrder, ← foldl_insertOrder]
  exact foldlM_total_eq_ok_iff

/-- **All plugin contracts are resolved** exactly when each of them can be. -/
theorem exists_outcome_addOrders_iff {contracts : List String} :
    (∃ orders, (contracts.foldlM (addOrder records overrides) ∅).outcome = .ok orders) ↔
      ∀ contract ∈ contracts, ∃ order, (PluginOrder.resolve contract
        (records.plugins.getD contract []) (records.ignores.getD contract []) overrides).outcome =
          .ok order := by
  simp only [outcome_addOrders_eq_ok_iff]
  constructor
  · rintro ⟨_, pairs, hpairs, -⟩ contract hcontract
    obtain ⟨pair, hok⟩ := exists_forall₂_iff.1 ⟨pairs, hpairs⟩ contract hcontract
    exact ⟨pair.2, (orderFor_eq_ok_iff.1 hok).2⟩
  · intro h
    have hall : ∀ contract ∈ contracts, ∃ pair, orderFor records overrides contract = .ok pair := by
      intro contract hcontract
      obtain ⟨order, hok⟩ := h contract hcontract
      exact ⟨(contract, order), orderFor_eq_ok_iff.2 ⟨rfl, hok⟩⟩
    obtain ⟨pairs, hpairs⟩ := exists_forall₂_iff.2 hall
    exact ⟨_, pairs, hpairs, rfl⟩

/-- **What stands under a plugin contract** is what its definitions and rules are resolved to, if
there is any definition. -/
theorem getElem?_addOrders_iff {contracts : List String} {orders : Table PluginOrder}
    (h : (contracts.foldlM (addOrder records overrides) ∅).outcome = .ok orders)
    {contract : String} {order : PluginOrder} :
    orders[contract]? = some order ↔ contract ∈ contracts ∧ order.definitions ≠ [] ∧
      (PluginOrder.resolve contract (records.plugins.getD contract [])
        (records.ignores.getD contract []) overrides).outcome = .ok order := by
  obtain ⟨pairs, hpairs, rfl⟩ := outcome_addOrders_eq_ok_iff.1 h
  have hmem (contract : String) (order : PluginOrder) :
      (contract, order) ∈ pairs.filter (fun pair => !pair.2.definitions.isEmpty) ↔
        contract ∈ contracts ∧ order.definitions ≠ [] ∧
          (PluginOrder.resolve contract (records.plugins.getD contract [])
            (records.ignores.getD contract []) overrides).outcome = .ok order := by
    rw [List.mem_filter, mem_iff_of_forall₂ hpairs]
    constructor
    · rintro ⟨⟨name, hname, hok⟩, hnonempty⟩
      obtain ⟨heq, hresolve⟩ := orderFor_eq_ok_iff.1 hok
      obtain rfl : contract = name := heq
      exact ⟨hname, by simpa using hnonempty, hresolve⟩
    · rintro ⟨hcontract, hnonempty, hresolve⟩
      exact ⟨⟨contract, hcontract, orderFor_eq_ok_iff.2 ⟨rfl, hresolve⟩⟩, by simpa using hnonempty⟩
  rw [Table.getElem?_ofPairs_eq_some_iff, hmem]
  intro name first second hfirst hsecond
  obtain ⟨-, -, hok⟩ := (hmem name first).1 hfirst
  obtain ⟨-, -, hok'⟩ := (hmem name second).1 hsecond
  exact Except.ok.inj (hok.symm.trans hok')

/-- Among all plugin contracts none is missed that has a definition. -/
theorem getElem?_orders_iff {orders : Table PluginOrder}
    (h : ((pluginContracts records).foldlM (addOrder records overrides) ∅).outcome = .ok orders)
    {contract : String} {order : PluginOrder} :
    orders[contract]? = some order ↔ order.definitions ≠ [] ∧
      (PluginOrder.resolve contract (records.plugins.getD contract [])
        (records.ignores.getD contract []) overrides).outcome = .ok order := by
  rw [getElem?_addOrders_iff h]
  refine and_iff_right_of_imp ?_
  rintro ⟨hnonempty, hok⟩
  obtain ⟨selectors, -, rfl⟩ := PluginOrder.outcome_resolve_eq_ok_iff.1 hok
  refine mem_pluginContracts.2 (.inl ?_)
  by_contra hmem
  rw [Std.ExtTreeMap.getD_eq_fallback hmem] at hnonempty
  exact hnonempty rfl

/-! ## All together -/

/-- **The parts of a resolution** that succeeds. -/
theorem outcome_ofRecords_eq_ok_iff {root : String} {resolved : Resolved} :
    (ofRecords root records overrides).outcome = .ok resolved ↔ resolved.root = root ∧
      (records.services.toList.foldlM (addChoice records overrides) ∅).outcome =
        .ok resolved.services ∧
      ((pluginContracts records).foldlM (addOrder records overrides) ∅).outcome =
        .ok resolved.plugins := by
  have hstray : ((strayApplies records).forM announceStray).outcome = .ok () :=
    Report.outcome_forM_ok (fun _ => rfl) _
  unfold ofRecords
  simp only [Report.outcome_bind_eq_ok_iff, hstray, Report.outcome_pure, Except.ok.injEq]
  constructor
  · rintro ⟨services, hservices, -, -, plugins, hplugins, rfl⟩
    exact ⟨rfl, hservices, hplugins⟩
  · rintro ⟨rfl, hservices, hplugins⟩
    exact ⟨_, hservices, (), trivial, _, hplugins, rfl⟩

/-! ## Failures -/

/-- Only a malformed ignore variable can make the resolution of plugins fail. -/
theorem failsOnlyWith_addOrder (records : Records) (overrides : Overrides)
    (orders : Table PluginOrder) (contract : String) :
    (addOrder records overrides orders contract).FailsOnlyWith Error.OfText := by
  intro e he
  rcases Report.outcome_bind_eq_error_iff.1 he with hresolve | ⟨order, -, hinsert⟩
  · rw [PluginOrder.outcome_resolve] at hresolve
    cases hselectors : PluginOrder.variableSelectors contract overrides with
    | ok selectors =>
      rw [hselectors] at hresolve
      cases hresolve
    | error cause =>
      rw [hselectors] at hresolve
      obtain rfl := Except.error.inj hresolve
      exact .malformed cause
  · cases hinsert

/-- **Records that were read fail to resolve** over a service contract, or over malformed text. -/
theorem of_outcome_ofRecords_eq_error {root : String} {e : Error}
    (h : (ofRecords root records overrides).outcome = .error e) :
    (records.services.toList.foldlM (addChoice records overrides) ∅).outcome = .error e ∨
      e.OfText := by
  rcases Report.outcome_bind_eq_error_iff.1 h with hchoices | ⟨choices, -, h⟩
  · exact .inl hchoices
  · refine .inr ?_
    have hstray := Report.outcome_forM_ok (f := announceStray) (fun _ => rfl) (strayApplies records)
    refine (Report.failsOnlyWith_of_ok hstray).bind (fun _ => ?_) e h
    refine (Report.failsOnlyWith_foldlM (failsOnlyWith_addOrder records overrides) _ _).bind
      fun orders => ?_
    exact Report.failsOnlyWith_of_ok rfl

end Wiring.Resolved
