import Mathlib.Data.List.Perm.Basic
import Wiring.Proofs.Records.Merging

/-!
# Records · Resources in another order

What becomes of the records when the resources of a family come in another order. `Shuffles` says
that two views list the same resources below a root, and `Records.SameUpToOrder` what their records
have in common: the service definitions are the same table, the apply records of a contract agree or
disagree alike, and plugin definitions and ignore rules are the same lists in another order. Main
statement: where one view can be read the other can, and the records are the same in this sense
(`exists_sameUpToOrder`).
-/

namespace Wiring

/-! ## Views and entries -/

/-- Whether two views list the same resources of each family below a root, in whatever order. -/
def View.Shuffles (root : String) (view view' : View) : Prop :=
  ∀ family : Family, ∃ resources resources', view.find (root ++ family.file) = .ok resources ∧
    view'.find (root ++ family.file) = .ok resources' ∧ resources.Perm resources'

/-- If a view shuffles another, that one shuffles it. -/
theorem View.Shuffles.symm {root : String} {view view' : View} (h : Shuffles root view view') :
    Shuffles root view' view := by
  intro family
  obtain ⟨resources, resources', hfind, hfind', hperm⟩ := h family
  exact ⟨resources', resources, hfind', hfind, hperm.symm⟩

/-- Tables in memory with the same entries list the same resources. -/
theorem Enumerator.embedded_shuffles {entries entries' : List Embedded}
    (h : entries.Perm entries') (root contextId : String) (tree : FileTree) :
    View.Shuffles root ((embedded contextId entries).view tree)
      ((embedded contextId entries').view tree) := by
  intro family
  exact ⟨_, _, rfl, rfl, (h.filter _).map Embedded.resource⟩

/-- Reading items in another order yields the results in another order. -/
theorem exists_perm_forall₂ {α β : Type} {R : α → β → Prop} {xs xs' : List α} {ys : List β}
    (hperm : xs.Perm xs') (h : List.Forall₂ R xs ys) :
    ∃ ys', List.Forall₂ R xs' ys' ∧ ys.Perm ys' := by
  obtain ⟨ys', h', hys⟩ := List.perm_comp_forall₂ hperm.symm h
  exact ⟨ys', h', hys.symm⟩

/-- The entries of a family are the same in another order. -/
theorem HasEntries.exists_perm {root : String} {view view' : View} {overrides : Overrides}
    {family : Family} {entries : List Entry} (hviews : View.Shuffles root view view')
    (h : HasEntries view overrides root family entries) :
    ∃ entries', HasEntries view' overrides root family entries' ∧ entries.Perm entries' := by
  obtain ⟨resources, lists, hfind, hlists, rfl⟩ := h
  obtain ⟨found, resources', hfound, hfind', hperm⟩ := hviews family
  obtain rfl : resources = found := Except.ok.inj (hfind.symm.trans hfound)
  have hkept : (keptResources overrides resources).Perm (keptResources overrides resources') :=
    hperm.filter _
  obtain ⟨lists', hlists', hflat⟩ := exists_perm_forall₂ hkept hlists
  exact ⟨lists'.flatten, ⟨resources', lists', hfind', hlists', rfl⟩, hflat.flatten⟩

/-! ## Tables -/

/-- What stands under a contract is told by whether it is listed and by its definitions. -/
theorem getElem?_services_congr {services services' : Table (Table ServiceDefinition)}
    {contract : String} (hmem : contract ∈ services ↔ contract ∈ services')
    (hat : ∀ id, serviceAt services contract id = serviceAt services' contract id) :
    services[contract]? = services'[contract]? := by
  simp only [serviceAt, Std.ExtTreeMap.getD_eq_getD_getElem?] at hat
  rw [Std.ExtTreeMap.mem_iff_isSome_getElem?, Std.ExtTreeMap.mem_iff_isSome_getElem?] at hmem
  cases hone : services[contract]? with
  | none =>
    cases htwo : services'[contract]? with
    | none => rfl
    | some definitions => simp [hone, htwo] at hmem
  | some definitions =>
    cases htwo : services'[contract]? with
    | none => simp [hone, htwo] at hmem
    | some definitions' =>
      rw [hone, htwo] at hat
      exact congrArg some (Std.ExtTreeMap.ext_getElem? hat)

/-- Tables of service definitions with the same contracts and the same definitions are one. -/
theorem services_ext {services services' : Table (Table ServiceDefinition)}
    (hmem : ∀ contract, contract ∈ services ↔ contract ∈ services')
    (hat : ∀ contract id, serviceAt services contract id = serviceAt services' contract id) :
    services = services' :=
  Std.ExtTreeMap.ext_getElem? fun contract => getElem?_services_congr (hmem contract) (hat contract)

/-- **Under distinct names** the table of definitions does not depend on their order. -/
theorem serviceTable_eq_of_perm {ds ds' : List ServiceDefinition} (hperm : ds.Perm ds')
    (h : (ds.map ServiceDefinition.name).Nodup) : serviceTable ds = serviceTable ds' := by
  have h' : (ds'.map ServiceDefinition.name).Nodup :=
    ((hperm.map ServiceDefinition.name).nodup_iff).1 h
  refine services_ext (fun contract => ?_) fun contract id => ?_
  · simp only [mem_serviceTable, hperm.mem_iff]
  · refine Option.ext fun d => ?_
    rw [serviceAt_serviceTable_eq_some_iff h, serviceAt_serviceTable_eq_some_iff h', hperm.mem_iff]

/-- Whether two tables hold the same lists under the same names, each in whatever order. -/
def Table.SameUpToOrder {α : Type} (table table' : Table (List α)) : Prop :=
  ∀ name, (name ∈ table ↔ name ∈ table') ∧ (table.getD name []).Perm (table'.getD name [])

/-- Lists collected in another order are the same up to order. -/
theorem groupTable_sameUpToOrder {α : Type} {chunks chunks' : List (String × List α)}
    (h : chunks.Perm chunks') : (groupTable chunks).SameUpToOrder (groupTable chunks') := by
  intro name
  constructor
  · rw [mem_groupTable, mem_groupTable]
    exact (h.map Prod.fst).mem_iff
  · rw [getD_groupTable, getD_groupTable]
    exact (h.filter _).flatMap_right Prod.snd

/-! ## Apply records -/

/-- Whether two records of a contract have the same effect: both carry a conflict, or neither does
and they name the same id. Where they stand does not matter. -/
def ApplyRecord.SameEffect (record record' : ApplyRecord) : Prop :=
  (record.conflict = none ↔ record'.conflict = none) ∧
    (record.conflict = none → record.chosenId = record'.chosenId)

/-- **Merging apply records in another order** has the same effect, though the merged record may
stand elsewhere and report another disagreement. -/
theorem mergeApplies_rel_of_perm {records records' : List ApplyRecord}
    (h : records.Perm records') :
    Option.Rel ApplyRecord.SameEffect (mergeApplies records) (mergeApplies records') := by
  cases records with
  | nil =>
    obtain rfl := h.nil_eq
    exact .none
  | cons first later =>
    have hfirst : first ∈ records' := h.mem_iff.1 List.mem_cons_self
    have hown : first ∈ first :: later := List.mem_cons_self
    obtain ⟨merged, hmerged⟩ := exists_mergeApplies hown
    obtain ⟨merged', hmerged'⟩ := exists_mergeApplies hfirst
    rw [hmerged, hmerged']
    have hconflict : merged.conflict = none ↔ merged'.conflict = none := by
      rw [conflict_eq_none_iff_of_mergeApplies hmerged,
        conflict_eq_none_iff_of_mergeApplies hmerged']
      simp only [h.mem_iff]
    refine .some ⟨hconflict, fun hagreed => ?_⟩
    -- the record that came first in one order is among the records in the other
    rw [← chosenId_eq_of_mergeApplies hmerged hagreed List.mem_cons_self,
      chosenId_eq_of_mergeApplies hmerged' (hconflict.1 hagreed) hfirst]

/-- Apply records that agree do so in any order. -/
theorem ApplyRecord.Agree.of_perm {overrides : Overrides} {records records' : List ApplyRecord}
    (hperm : records.Perm records') (h : Agree overrides records) : Agree overrides records' := by
  intro first hfirst second hsecond
  exact h first (hperm.mem_iff.2 hfirst) second (hperm.mem_iff.2 hsecond)

/-! ## Family by family -/

/-- What the records of two views of the same resources have in common. -/
structure Records.SameUpToOrder (records records' : Records) : Prop where
  /-- The service definitions are the same. -/
  services : records.services = records'.services
  /-- The same contracts have apply records, and these have the same effect. -/
  applies : ∀ contract : String,
    Option.Rel ApplyRecord.SameEffect records.applies[contract]? records'.applies[contract]?
  /-- The plugin definitions of a contract are the same in another order. -/
  plugins : records.plugins.SameUpToOrder records'.plugins
  /-- The ignore rules of a contract are the same in another order. -/
  ignores : records.ignores.SameUpToOrder records'.ignores

namespace Records

variable {root : String} {view view' : View} {overrides : Overrides}

/-- **The service definitions** do not depend on the order of the resources. -/
theorem outcome_readServices_of_shuffles (hviews : View.Shuffles root view view')
    {services : Table (Table ServiceDefinition)}
    (h : (readServices view overrides root).outcome = .ok services) :
    (readServices view' overrides root).outcome = .ok services := by
  obtain ⟨entries, ds, hentries, hds, hnodup, rfl⟩ := outcome_readServices_eq_ok_iff.1 h
  obtain ⟨entries', hentries', hperm⟩ := hentries.exists_perm hviews
  obtain ⟨ds', hds', hpermds⟩ := exists_perm_forall₂ hperm hds
  have hnodup' : (ds'.map ServiceDefinition.name).Nodup :=
    ((hpermds.map ServiceDefinition.name).nodup_iff).1 hnodup
  exact outcome_readServices_eq_ok_iff.2
    ⟨entries', ds', hentries', hds', hnodup', serviceTable_eq_of_perm hpermds hnodup⟩

/-- **The apply records** of a contract have the same effect in any order of the resources. -/
theorem exists_outcome_readApplies_of_shuffles (hviews : View.Shuffles root view view')
    {applies : Table ApplyRecord}
    (h : (readApplies view overrides root).outcome = .ok applies) :
    ∃ applies', (readApplies view' overrides root).outcome = .ok applies' ∧
      ∀ contract : String,
        Option.Rel ApplyRecord.SameEffect applies[contract]? applies'[contract]? := by
  obtain ⟨entries, as, hentries, has, hagree, rfl⟩ := outcome_readApplies_eq_ok_iff.1 h
  obtain ⟨entries', hentries', hperm⟩ := hentries.exists_perm hviews
  obtain ⟨as', has', hpermas⟩ := exists_perm_forall₂ hperm has
  refine ⟨_, outcome_readApplies_eq_ok_iff.2
    ⟨entries', as', hentries', has', hagree.of_perm hpermas, rfl⟩, fun contract => ?_⟩
  -- as it is read, no record carries a conflict
  have hfresh : ∀ record ∈ as, record.conflict = none := by
    intro record hrecord
    obtain ⟨entry, -, hentry⟩ := (mem_iff_of_forall₂ has).1 hrecord
    rw [(applyOfEntry_eq_ok_iff.1 hentry).2]
  have hfresh' : ∀ record ∈ as', record.conflict = none := fun record hrecord =>
    hfresh record (hpermas.mem_iff.2 hrecord)
  rw [getElem?_applyTable hfresh, getElem?_applyTable hfresh']
  exact mergeApplies_rel_of_perm (hpermas.filter _)

/-- Plugin definitions are read in any order of the resources, the same up to order. -/
theorem exists_outcome_readPlugins_of_shuffles (hviews : View.Shuffles root view view')
    {plugins : Table (List PluginDefinition)}
    (h : (readPlugins view overrides root).outcome = .ok plugins) :
    ∃ plugins', (readPlugins view' overrides root).outcome = .ok plugins' ∧
      plugins.SameUpToOrder plugins' := by
  obtain ⟨entries, ds, hentries, hds, rfl⟩ := outcome_readPlugins_eq_ok_iff.1 h
  obtain ⟨entries', hentries', hperm⟩ := hentries.exists_perm hviews
  obtain ⟨ds', hds', hpermds⟩ := exists_perm_forall₂ hperm hds
  exact ⟨pluginTable ds', outcome_readPlugins_eq_ok_iff.2 ⟨entries', ds', hentries', hds', rfl⟩,
    groupTable_sameUpToOrder (hpermds.map _)⟩

/-- Ignore rules are read in any order of the resources, the same up to order. -/
theorem exists_outcome_readIgnores_of_shuffles (hviews : View.Shuffles root view view')
    {ignores : Table (List IgnoreRule)}
    (h : (readIgnores view overrides root).outcome = .ok ignores) :
    ∃ ignores', (readIgnores view' overrides root).outcome = .ok ignores' ∧
      ignores.SameUpToOrder ignores' := by
  obtain ⟨entries, chunks, hentries, hchunks, rfl⟩ := outcome_readIgnores_eq_ok_iff.1 h
  obtain ⟨entries', hentries', hperm⟩ := hentries.exists_perm hviews
  obtain ⟨chunks', hchunks', hpermchunks⟩ := exists_perm_forall₂ hperm hchunks
  exact ⟨groupTable chunks', outcome_readIgnores_eq_ok_iff.2
    ⟨entries', chunks', hentries', hchunks', rfl⟩, groupTable_sameUpToOrder hpermchunks⟩

/-! ## Main statement -/

/-- **Records do not depend on the order of the resources**, up to the order of what they list. -/
theorem exists_sameUpToOrder (hviews : View.Shuffles root view view') {records : Records}
    (h : (readAll view overrides root).outcome = .ok records) :
    ∃ records', (readAll view' overrides root).outcome = .ok records' ∧
      records.SameUpToOrder records' := by
  obtain ⟨hservices, happlies, hplugins, hignores⟩ := outcome_readAll_eq_ok_iff.1 h
  have hservices' := outcome_readServices_of_shuffles hviews hservices
  obtain ⟨applies', happlies', hsameApplies⟩ :=
    exists_outcome_readApplies_of_shuffles hviews happlies
  obtain ⟨plugins', hplugins', hsamePlugins⟩ :=
    exists_outcome_readPlugins_of_shuffles hviews hplugins
  obtain ⟨ignores', hignores', hsameIgnores⟩ :=
    exists_outcome_readIgnores_of_shuffles hviews hignores
  refine ⟨⟨records.services, applies', plugins', ignores'⟩,
    outcome_readAll_eq_ok_iff.2 ⟨hservices', happlies', hplugins', hignores'⟩, ?_⟩
  exact ⟨rfl, hsameApplies, hsamePlugins, hsameIgnores⟩

end Records

end Wiring
