import Wiring.Proofs.Records.Merging

/-!
# Records · Where records stem from

Every record among those that were read stems from an entry of a resource that is listed for its
family and not excluded. `StandsIn` says where an entry stands, `Records.Kept` says so of all
records. Main statement: what is read is kept (`kept_of_readAll`).
-/

namespace Wiring

/-- Whether an entry stands in a resource that a view lists for a family below a root. -/
structure StandsIn (view : View) (root : String) (family : Family) (entry : Entry)
    (resource : Resource) : Prop where
  /-- The resource is listed. -/
  listed : ∃ resources, view.find (root ++ family.file) = .ok resources ∧ resource ∈ resources
  /-- The entry is one of its entries. -/
  holds : ∃ list, resource.decode = .ok list ∧ entry ∈ list

/-- Whether an entry stands in a resource that is not excluded. -/
def IsKept (view : View) (overrides : Overrides) (root : String) (family : Family)
    (entry : Entry) : Prop :=
  ∃ resource, StandsIn view root family entry resource ∧
    resource.fingerprint ∉ overrides.excluded

variable {view : View} {overrides : Overrides} {root : String}

/-- The entries of a family are kept. -/
theorem HasEntries.isKept {family : Family} {entries : List Entry}
    (h : HasEntries view overrides root family entries) {entry : Entry} (hentry : entry ∈ entries) :
    IsKept view overrides root family entry := by
  obtain ⟨resources, lists, hfind, hlists, rfl⟩ := h
  obtain ⟨list, hlist, hentry⟩ := List.mem_flatten.1 hentry
  obtain ⟨resource, hresource, hdecode⟩ := (mem_iff_of_forall₂ hlists).1 hlist
  obtain ⟨hlisted, hkept⟩ := List.mem_filter.1 hresource
  exact ⟨resource, ⟨⟨resources, hfind, hlisted⟩, list, hdecode, hentry⟩, of_decide_eq_true hkept⟩

namespace Records

/-- Whether all records stem from entries that are kept. An apply record stems from the first one of
its contract. -/
structure Kept (view : View) (overrides : Overrides) (root : String) (records : Records) :
    Prop where
  /-- The service definitions. -/
  services : ∀ contract id d, serviceAt records.services contract id = some d →
    ∃ entry, IsKept view overrides root .services entry ∧ entry.service root = .ok d
  /-- The apply records. -/
  applies : ∀ (contract : String) (record : ApplyRecord),
    records.applies[contract]? = some record →
      ∃ entry, IsKept view overrides root .applies entry ∧
        entry.applyRecord = { record with conflict := none }
  /-- The plugin definitions. -/
  plugins : ∀ contract, ∀ d ∈ records.plugins.getD contract [],
    ∃ entry, IsKept view overrides root .plugins entry ∧ entry.plugin root = .ok d
  /-- The ignore rules. -/
  ignores : ∀ contract, ∀ rule ∈ records.ignores.getD contract [],
    ∃ entry, IsKept view overrides root .ignores entry ∧
      ∃ item ∈ commaItems entry.value, entry.rule item = .ok rule

/-- **What is read stems from resources that are not excluded.** -/
theorem kept_of_readAll {records : Records}
    (h : (readAll view overrides root).outcome = .ok records) :
    records.Kept view overrides root := by
  obtain ⟨entries, hentries, -, hmerge⟩ := exists_isMergeOf h
  refine ⟨?_, ?_, ?_, ?_⟩
  · intro contract id d hd
    obtain ⟨ds, hds, -, hat, -⟩ := hmerge.services
    obtain ⟨entry, hentry, hservice⟩ := (mem_iff_of_forall₂ hds).1 ((hat contract id d).1 hd).1
    exact ⟨entry, (hentries .services).isKept hentry, hservice⟩
  · intro contract record hrecord
    rw [hmerge.applies] at hrecord
    obtain ⟨first, hfirst, hmerged⟩ := exists_mem_of_mergeApplies hrecord
    obtain ⟨entry, hentry, rfl⟩ := List.mem_map.1 (List.mem_filter.1 hfirst).1
    exact ⟨entry, (hentries .applies).isKept hentry, by rw [hmerged]; rfl⟩
  · intro contract d hd
    obtain ⟨ds, hds, hlists, -⟩ := hmerge.plugins
    rw [hlists] at hd
    obtain ⟨entry, hentry, hplugin⟩ := (mem_iff_of_forall₂ hds).1 (List.mem_filter.1 hd).1
    exact ⟨entry, (hentries .plugins).isKept hentry, hplugin⟩
  · intro contract rule hrule
    obtain ⟨lists, hlists, hgroups⟩ := hmerge.ignores
    rw [hgroups] at hrule
    obtain ⟨rules, hrules, hrule⟩ := List.mem_flatten.1 (List.mem_filter.1 hrule).1
    obtain ⟨entry, hentry, hread⟩ := exists_of_mem_forall₂ hlists hrules
    obtain ⟨item, hitem, hone⟩ := (mem_iff_of_forall₂ hread).1 hrule
    exact ⟨entry, (hentries .ignores).isKept hentry, item, hitem, hone⟩

end Records

end Wiring
