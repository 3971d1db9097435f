import Wiring.Loader
import Wiring.Proofs.Records.Merging
import Wiring.Proofs.Resolution.Contracts
import Wiring.Proofs.Resolution.Selectors
import Wiring.Proofs.Resolution.Soundness

/-!
# Resolution · What is declared

The declarations that come out of a resolution: those of all service definitions and of all plugins,
chosen or not, enabled or not. Main statement: each of them bears the root that was resolved and
names as its source a resource that the view lists for one of the families (`exists_resource`).
-/

namespace Wiring

/-- An entry stands in a resource of its family. -/
theorem HasEntries.exists_resource {view : View} {overrides : Overrides} {root : String}
    {family : Family} {entries : List Entry} (h : HasEntries view overrides root family entries)
    {entry : Entry} (hentry : entry ∈ entries) :
    ∃ resources, view.find (root ++ family.file) = .ok resources ∧
      ∃ resource ∈ resources, entry.source = resource.location := by
  obtain ⟨resources, lists, hfind, hlists, rfl⟩ := h
  refine ⟨resources, hfind, ?_⟩
  obtain ⟨list, hlist, hentry⟩ := List.mem_flatten.1 hentry
  obtain ⟨resource, hkept, hdecode⟩ := (mem_iff_of_forall₂ hlists).1 hlist
  exact ⟨resource, (List.mem_filter.1 hkept).1, Resource.source_of_decode hdecode entry hentry⟩

namespace Resolved

/-- Whether a declaration is that of a service definition or of a plugin among the decisions. -/
inductive Declares (resolved : Resolved) : Declaration → Prop
  /-- It is that of a service definition. -/
  | service (contract id : String) (choice : ServiceChoice) (d : ServiceDefinition)
      (hchoice : resolved.services[contract]? = some choice)
      (hd : choice.definitions[id]? = some d) : Declares resolved d.declaration
  /-- It is that of a plugin. -/
  | plugin (contract : String) (order : PluginOrder) (d : PluginDefinition)
      (horder : resolved.plugins[contract]? = some order)
      (hd : d ∈ order.definitions) : Declares resolved d.declaration

/-- **A declaration bears the root that was resolved**, and its source is a resource that the view
lists for some family below the root. -/
theorem Declares.exists_resource {view : View} {root : String} {overrides : Overrides}
    {resolved : Resolved} (hload : (load view root overrides).outcome = .ok resolved)
    {declaration : Declaration} (h : resolved.Declares declaration) :
    declaration.root = normalizeRoot root ∧ ∃ family : Family, ∃ resources,
      view.find (normalizeRoot root ++ family.file) = .ok resources ∧
        ∃ resource ∈ resources, declaration.source = resource.location := by
  obtain ⟨records, hread, hresolved⟩ := Report.outcome_bind_eq_ok_iff.1 hload
  obtain ⟨entries, hentries, -, hmerge⟩ := Records.exists_isMergeOf hread
  obtain ⟨-, hchoices, horders⟩ := outcome_ofRecords_eq_ok_iff.1 hresolved
  cases h with
  | service contract id choice d hchoice hd =>
    obtain ⟨definitions, hdefinitions, hok⟩ := (getElem?_addChoices_iff hchoices).1 hchoice
    obtain ⟨-, rfl, -⟩ := ServiceChoice.outcome_resolve_eq_ok_iff.1 hok
    obtain ⟨⟨⟨entry, hentry, hservice⟩, -⟩, -⟩ := (hmerge.getElem?_definitions hdefinitions).1 hd
    obtain ⟨_, _, _, _, _, -, -, -, rfl⟩ := Entry.service_eq_ok_iff.1 hservice
    exact ⟨rfl, .services, (hentries .services).exists_resource hentry⟩
  | plugin contract order d horder hd =>
    obtain ⟨-, -, hok⟩ := (getElem?_addOrders_iff horders).1 horder
    obtain ⟨selectors, -, rfl⟩ := PluginOrder.outcome_resolve_eq_ok_iff.1 hok
    obtain ⟨found, hfound, rfl⟩ := List.mem_map.1 hd
    obtain ⟨ds, hds, hlists, -⟩ := hmerge.plugins
    rw [hlists] at hfound
    obtain ⟨entry, hentry, hplugin⟩ := (mem_iff_of_forall₂ hds).1 (List.mem_filter.1 hfound).1
    obtain ⟨_, _, _, -, -, hfields⟩ := Entry.plugin_eq_ok_iff.1 hplugin
    -- selectors leave alone where a definition was found
    have hkept := PluginOrder.asFound_applyAll (selectors ++
      (records.ignores.getD contract []).map PluginOrder.Selector.ofRule) found
    rw [hfields] at hkept ⊢
    obtain ⟨resources, hfind, resource, hresource, hsource⟩ :=
      (hentries .plugins).exists_resource hentry
    refine ⟨congrArg PluginDefinition.root hkept, .plugins, resources, hfind, resource, hresource,
      ?_⟩
    exact (congrArg PluginDefinition.source hkept).trans hsource

end Resolved

end Wiring
