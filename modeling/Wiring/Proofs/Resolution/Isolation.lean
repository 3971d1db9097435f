import Wiring.Proofs.Interleaved
import Wiring.Proofs.Records.Reordered
import Wiring.Proofs.Resolution.Contracts

/-!
# Resolution · Contracts apart from each other

What one contract owes to resources that are about others. `View.Extends` says that a view lists
some resources more than another one, at any positions among them, and `Entry.IsAbout` which
contract an entry is about. Records of all contracts are mixed in the same resources and read into
the same tables, but of the items that are read those of one contract are the same in both views
(`Interleaved.filter_eq`), and a contract is resolved from its own alone. Main statement: where both
views resolve, what is decided for a contract that no entry of the additional resources is about is
the same in both (`load_isolates`). Nothing is said where one of them fails: one malformed entry
makes the reading of all contracts fail.
-/

namespace Wiring

/-! ## What an entry is about -/

/-- Whether an entry of a family is about a contract, as its key tells. -/
def Entry.IsAbout (entry : Entry) (family : Family) (contract : String) : Prop :=
  match family with
  | .services => (serviceName? entry.key).map Prod.fst = some contract
  | .plugins => (pluginName? entry.key).map Prod.fst = some contract
  | .applies | .ignores => Text.trim entry.key = contract

instance (entry : Entry) (family : Family) (contract : String) :
    Decidable (entry.IsAbout family contract) := by
  cases family <;> exact inferInstanceAs (Decidable (_ = _))

/-! ## More resources -/

/-- Whether a view lists of each family below a root what another view lists, and some resources
besides, at any positions. -/
def View.Extends (root : String) (extra : Family → List Resource) (view view' : View) : Prop :=
  ∀ family resources, view.find (root ++ Family.file family) = .ok resources →
    ∃ resources', view'.find (root ++ Family.file family) = .ok resources' ∧
      Interleaved resources (extra family) resources'

/-- A table in memory with more entries lists more resources. -/
theorem Enumerator.embedded_extends {entries more entries' : List Embedded}
    (h : Interleaved entries more entries') (root contextId : String) (tree : FileTree) :
    View.Extends root
      (fun family => (more.filter (·.path == root ++ family.file)).map Embedded.resource)
      ((embedded contextId entries).view tree) ((embedded contextId entries').view tree) := by
  intro family resources hfind
  obtain rfl := Except.ok.inj hfind
  exact ⟨_, rfl, (h.filter _).map _⟩

/-- An item yields one result at most. -/
theorem rightUnique_eq_ok {α β ε : Type} (f : α → Except ε β) :
    Relator.RightUnique fun x y => f x = .ok y := by
  intro x y y' hy hy'
  exact Except.ok.inj (hy.symm.trans hy')

/-- **The entries of a family** stand among those of more resources, in order, and each of the
others stands in one of the additional resources. -/
theorem HasEntries.exists_interleaved {root : String} {extra : Family → List Resource}
    {view view' : View} {overrides : Overrides} {family : Family} {entries entries' : List Entry}
    (hviews : View.Extends root extra view view')
    (h : HasEntries view overrides root family entries)
    (h' : HasEntries view' overrides root family entries') :
    ∃ more, Interleaved entries more entries' ∧ ∀ entry ∈ more,
      ∃ resource ∈ keptResources overrides (extra family),
        ∃ list, resource.decode = .ok list ∧ entry ∈ list := by
  obtain ⟨resources, lists, hfind, hlists, rfl⟩ := h
  obtain ⟨resources', lists', hfind', hlists', rfl⟩ := h'
  obtain ⟨found, hfound, hresources⟩ := hviews family resources hfind
  obtain rfl : resources' = found := Except.ok.inj (hfind'.symm.trans hfound)
  have hkept : Interleaved (keptResources overrides resources)
      (keptResources overrides (extra family)) (keptResources overrides resources') :=
    hresources.filter _
  obtain ⟨added, hadded, hinter⟩ :=
    hkept.exists_interleaved (rightUnique_eq_ok Resource.decode) hlists hlists'
  refine ⟨added.flatten, hinter.flatten, fun entry hentry => ?_⟩
  obtain ⟨list, hlist, hmem⟩ := List.mem_flatten.1 hentry
  obtain ⟨resource, hresource, hdecode⟩ := (mem_iff_of_forall₂ hadded).1 hlist
  exact ⟨resource, hresource, list, hdecode, hmem⟩

/-! ## The records of one contract -/

/-- Whether two lots of records hold the same about a contract. -/
structure Records.SameAbout (contract : String) (records records' : Records) : Prop where
  /-- The service definitions are the same. -/
  services : records.services[contract]? = records'.services[contract]?
  /-- The apply record is the same, its place and its conflict included. -/
  applies : records.applies[contract]? = records'.applies[contract]?
  /-- The plugin definitions are the same, in the same order. -/
  plugins : records.plugins.getD contract [] = records'.plugins.getD contract []
  /-- The ignore rules are the same, in the same order. -/
  ignores : records.ignores.getD contract [] = records'.ignores.getD contract []

namespace Records

variable {root contract : String} {entries more entries' : Family → List Entry}
  {records records' : Records}

/-- Service definitions of a contract are the same where only entries about others are added. -/
theorem IsMergeOf.services_same (h : IsMergeOf root entries records)
    (h' : IsMergeOf root entries' records')
    (hinter : Interleaved (entries .services) (more .services) (entries' .services))
    (hmore : ∀ entry ∈ more .services, ¬entry.IsAbout .services contract) :
    records.services[contract]? = records'.services[contract]? := by
  obtain ⟨ds, hds, -, hat, hmem⟩ := h.services
  obtain ⟨ds', hds', -, hat', hmem'⟩ := h'.services
  obtain ⟨added, hadded, hinterDs⟩ :=
    hinter.exists_interleaved (rightUnique_eq_ok (Entry.service root)) hds hds'
  have hothers : ∀ d ∈ added, decide (d.contract = contract) = false := by
    intro d hd
    obtain ⟨entry, hentry, hok⟩ := (mem_iff_of_forall₂ hadded).1 hd
    refine decide_eq_false fun hcontract => hmore entry hentry ?_
    rw [Entry.IsAbout, Entry.serviceName?_of_service hok, Option.map_some, hcontract]
  have hsame (d : ServiceDefinition) :
      d ∈ ds ∧ d.contract = contract ↔ d ∈ ds' ∧ d.contract = contract := by
    have hfilter := hinterDs.filter_eq hothers
    have hd : d ∈ ds'.filter (·.contract = contract) ↔ d ∈ ds.filter (·.contract = contract) := by
      rw [hfilter]
    simpa only [List.mem_filter, decide_eq_true_eq] using hd.symm
  refine getElem?_services_congr ?_ fun id => Option.ext fun d => ?_
  · rw [hmem, hmem']
    exact exists_congr hsame
  · rw [hat, hat', ← and_assoc, ← and_assoc, hsame]

/-- The apply record of a contract is the same where only entries about others are added. -/
theorem IsMergeOf.applies_same (h : IsMergeOf root entries records)
    (h' : IsMergeOf root entries' records')
    (hinter : Interleaved (entries .applies) (more .applies) (entries' .applies))
    (hmore : ∀ entry ∈ more .applies, ¬entry.IsAbout .applies contract) :
    records.applies[contract]? = records'.applies[contract]? := by
  have hothers : ∀ record ∈ (more .applies).map Entry.applyRecord,
      decide (record.contract = contract) = false := by
    intro record hrecord
    obtain ⟨entry, hentry, rfl⟩ := List.mem_map.1 hrecord
    exact decide_eq_false (hmore entry hentry)
  rw [h.applies, h'.applies, (hinter.map Entry.applyRecord).filter_eq hothers]

/-- Plugin definitions of a contract are the same where only entries about others are added. -/
theorem IsMergeOf.plugins_same (h : IsMergeOf root entries records)
    (h' : IsMergeOf root entries' records')
    (hinter : Interleaved (entries .plugins) (more .plugins) (entries' .plugins))
    (hmore : ∀ entry ∈ more .plugins, ¬entry.IsAbout .plugins contract) :
    records.plugins.getD contract [] = records'.plugins.getD contract [] := by
  obtain ⟨ds, hds, hat, -⟩ := h.plugins
  obtain ⟨ds', hds', hat', -⟩ := h'.plugins
  obtain ⟨added, hadded, hinterDs⟩ :=
    hinter.exists_interleaved (rightUnique_eq_ok (Entry.plugin root)) hds hds'
  have hothers : ∀ d ∈ added, decide (d.contract = contract) = false := by
    intro d hd
    obtain ⟨entry, hentry, hok⟩ := (mem_iff_of_forall₂ hadded).1 hd
    refine decide_eq_false fun hcontract => hmore entry hentry ?_
    rw [Entry.IsAbout, Entry.pluginName?_of_plugin hok, Option.map_some, hcontract]
  rw [hat, hat', hinterDs.filter_eq hothers]

/-- Ignore rules of a contract are the same where only entries about others are added. -/
theorem IsMergeOf.ignores_same (h : IsMergeOf root entries records)
    (h' : IsMergeOf root entries' records')
    (hinter : Interleaved (entries .ignores) (more .ignores) (entries' .ignores))
    (hmore : ∀ entry ∈ more .ignores, ¬entry.IsAbout .ignores contract) :
    records.ignores.getD contract [] = records'.ignores.getD contract [] := by
  obtain ⟨lists, hlists, hat⟩ := h.ignores
  obtain ⟨lists', hlists', hat'⟩ := h'.ignores
  have hunique : Relator.RightUnique fun (entry : Entry) (rules : List IgnoreRule) =>
      List.Forall₂ (fun item rule => entry.rule item = .ok rule) (commaItems entry.value) rules :=
    fun entry _ _ hrules hrules' => (rightUnique_eq_ok entry.rule).forall₂ hrules hrules'
  obtain ⟨added, hadded, hinterRules⟩ := hinter.exists_interleaved hunique hlists hlists'
  have hothers : ∀ rule ∈ added.flatten, decide (rule.contract = contract) = false := by
    intro rule hrule
    obtain ⟨rules, hrules, hmem⟩ := List.mem_flatten.1 hrule
    obtain ⟨entry, hentry, hread⟩ := exists_of_mem_forall₂ hadded hrules
    obtain ⟨item, -, hitem⟩ := (mem_iff_of_forall₂ hread).1 hmem
    exact decide_eq_false fun hcontract => hmore entry hentry
      ((Entry.contract_of_rule hitem).symm.trans hcontract)
  rw [hat, hat', hinterRules.flatten.filter_eq hothers]

/-- **Entries about other contracts** change nothing about a contract. -/
theorem IsMergeOf.sameAbout (h : IsMergeOf root entries records)
    (h' : IsMergeOf root entries' records')
    (hinter : ∀ family, Interleaved (entries family) (more family) (entries' family))
    (hmore : ∀ family, ∀ entry ∈ more family, ¬entry.IsAbout family contract) :
    SameAbout contract records records' where
  services := h.services_same h' (hinter .services) (hmore .services)
  applies := h.applies_same h' (hinter .applies) (hmore .applies)
  plugins := h.plugins_same h' (hinter .plugins) (hmore .plugins)
  ignores := h.ignores_same h' (hinter .ignores) (hmore .ignores)

end Records

/-! ## The decisions for one contract -/

namespace Resolved

open Enumerator (Embedded viewOf)

variable {contract : String} {records records' : Records} {overrides : Overrides}

/-- A service is chosen from what is read about its contract. -/
theorem getElem?_addChoices_congr (hsame : records.SameAbout contract records')
    {choices choices' : Table ServiceChoice}
    (h : (records.services.toList.foldlM (addChoice records overrides) ∅).outcome = .ok choices)
    (h' : (records'.services.toList.foldlM (addChoice records' overrides) ∅).outcome =
      .ok choices') : choices[contract]? = choices'[contract]? := by
  refine Option.ext fun choice => ?_
  rw [getElem?_addChoices_iff h, getElem?_addChoices_iff h', hsame.services, hsame.applies]

/-- Plugins are ordered from what is read about their contract. -/
theorem getElem?_addOrders_congr (hsame : records.SameAbout contract records')
    {orders orders' : Table PluginOrder}
    (h : ((pluginContracts records).foldlM (addOrder records overrides) ∅).outcome = .ok orders)
    (h' : ((pluginContracts records').foldlM (addOrder records' overrides) ∅).outcome =
      .ok orders') : orders[contract]? = orders'[contract]? := by
  refine Option.ext fun order => ?_
  rw [getElem?_orders_iff h, getElem?_orders_iff h', hsame.plugins, hsame.ignores]

/-- **Contracts are isolated from each other.** Where resources are added to those that a view
lists, at any positions, and both views resolve, the decisions for a contract that no entry of the
additional resources is about are the same: the choice of its service with its reason and its
definitions, and its plugins in their order, each enabled or disabled as before. An additional
resource that is excluded has no say, whatever its entries. -/
theorem load_isolates (view view' : View) (root contract : String) (overrides : Overrides)
    (extra : Family → List Resource) (hviews : View.Extends (normalizeRoot root) extra view view')
    (hextra : ∀ family, ∀ resource ∈ keptResources overrides (extra family), ∀ entries,
      resource.decode = .ok entries → ∀ entry ∈ entries, ¬entry.IsAbout family contract)
    (resolved resolved' : Resolved) (h : (load view root overrides).outcome = .ok resolved)
    (h' : (load view' root overrides).outcome = .ok resolved') :
    resolved.services[contract]? = resolved'.services[contract]? ∧
      resolved.plugins[contract]? = resolved'.plugins[contract]? := by
  obtain ⟨records, hread, hresolved⟩ := Report.outcome_bind_eq_ok_iff.1 h
  obtain ⟨records', hread', hresolved'⟩ := Report.outcome_bind_eq_ok_iff.1 h'
  obtain ⟨entries, hentries, -, hmerge⟩ := Records.exists_isMergeOf hread
  obtain ⟨entries', hentries', -, hmerge'⟩ := Records.exists_isMergeOf hread'
  choose more hinter hmore using fun family =>
    (hentries family).exists_interleaved hviews (hentries' family)
  have hothers : ∀ family, ∀ entry ∈ more family, ¬entry.IsAbout family contract := by
    intro family entry hentry
    obtain ⟨resource, hresource, list, hdecode, hmem⟩ := hmore family entry hentry
    exact hextra family resource hresource list hdecode entry hmem
  have hsame := hmerge.sameAbout hmerge' hinter hothers
  obtain ⟨-, hchoices, horders⟩ := outcome_ofRecords_eq_ok_iff.1 hresolved
  obtain ⟨-, hchoices', horders'⟩ := outcome_ofRecords_eq_ok_iff.1 hresolved'
  exact ⟨getElem?_addChoices_congr hsame hchoices hchoices',
    getElem?_addOrders_congr hsame horders horders'⟩

/-- The resources of a module `a`, which has a service and plugins of the contract `c`. -/
def aboutC : List Embedded :=
  [⟨"a", "META-INF/spi/service.properties", "c>x>library=X".toUTF8⟩,
    ⟨"a", "META-INF/spi/plugin.properties", "c>2=P\nc>1=Q".toUTF8⟩]

/-- The resources of a module `b`, which has a service and a plugin of the contract `d`. -/
def aboutD : List Embedded :=
  [⟨"b", "META-INF/spi/service.properties", "d>x>platform=Y".toUTF8⟩,
    ⟨"b", "META-INF/spi/plugin.properties", "d>1=P".toUTF8⟩]

/-- The resources of both modules, those of `b` in front. -/
def aboutBoth : List Embedded := aboutD ++ aboutC

/-- The plugin `P` of the contract `c` is disabled from outside. -/
def withoutP : Overrides := ⟨∅, .ofPairs [("c", "P")], ∅⟩

/-- Which of the contracts `c` and `d` have a service and plugins, where there is a result. -/
def contractsOf (outcome : Except Error Resolved) : Option (List (Bool × Bool)) :=
  outcome.toOption.map fun resolved =>
    ["c", "d"].map fun c => (resolved.services.contains c, resolved.plugins.contains c)

/-- A module about `d` in front of one about `c` leaves everything about `c` as it is. -/
theorem load_isolates_aboutC :
    View.Extends (normalizeRoot "")
      (fun family => (aboutD.filter (·.path == normalizeRoot "" ++ family.file)).map
        Embedded.resource) (viewOf aboutC) (viewOf aboutBoth) ∧
    contractsOf (load (viewOf aboutC) "" withoutP).outcome =
      some [(true, true), (false, false)] ∧
    contractsOf (load (viewOf aboutBoth) "" withoutP).outcome =
      some [(true, true), (true, true)] ∧
    ∃ resolved resolved', (load (viewOf aboutC) "" withoutP).outcome = .ok resolved ∧
      (load (viewOf aboutBoth) "" withoutP).outcome = .ok resolved' ∧
      resolved.services["c"]? = resolved'.services["c"]? ∧
      resolved.plugins["c"]? = resolved'.plugins["c"]? := by
  have hinter : Interleaved aboutC aboutD aboutBoth :=
    (Interleaved.nil_left aboutD).append (.refl aboutC)
  have hviews := Enumerator.embedded_extends hinter (normalizeRoot "") "test" ⟨[], ∅, ∅⟩
  have hfound : contractsOf (load (viewOf aboutC) "" withoutP).outcome =
      some [(true, true), (false, false)] := by decide +kernel
  have hfound' : contractsOf (load (viewOf aboutBoth) "" withoutP).outcome =
      some [(true, true), (true, true)] := by decide +kernel
  refine ⟨hviews, hfound, hfound', ?_⟩
  have hothers : ∀ family : Family, ∀ resource ∈ keptResources withoutP
      ((aboutD.filter (·.path == normalizeRoot "" ++ family.file)).map Embedded.resource),
      ∀ entries ∈ resource.decode.toOption, ∀ entry ∈ entries, ¬entry.IsAbout family "c" := by
    intro family
    cases family <;> decide +kernel
  cases hone : (load (viewOf aboutC) "" withoutP).outcome with
  | error e =>
    rw [hone] at hfound
    cases hfound
  | ok resolved =>
    cases htwo : (load (viewOf aboutBoth) "" withoutP).outcome with
    | error e =>
      rw [htwo] at hfound'
      cases hfound'
    | ok resolved' =>
      refine ⟨resolved, resolved', rfl, rfl, ?_⟩
      refine load_isolates _ _ "" "c" withoutP _ hviews ?_ resolved resolved' hone htwo
      intro family resource hresource entries hdecode
      exact hothers family resource hresource entries (by rw [hdecode]; rfl)

end Resolved

end Wiring
