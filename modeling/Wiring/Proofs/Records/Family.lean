import Wiring.Proofs.Outcome
import Wiring.Records.Basic

/-!
# Records · The entries of a family

What the reading of one family depends on. `HasEntries` says, without any report, what the entries
of a family are: the resources at its path can be listed, each of them that is not excluded can be
decoded, and their entries follow one another. Main statement: reading the family yields exactly
these entries (`outcome_readFamily_eq_ok_iff`), so an excluded resource plays no part, not even when
it cannot be decoded.
-/

namespace Wiring

/-- One thing for each family. -/
def Family.each {α : Type} (services applies plugins ignores : α) : Family → α
  | .services => services
  | .applies => applies
  | .plugins => plugins
  | .ignores => ignores

/-- The view of a table in memory where there are no files. -/
def Enumerator.viewOf (entries : List Embedded) : View :=
  (embedded "test" entries).view ⟨[], ∅, ∅⟩

/-! ## Resources and their entries -/

/-- The resources whose fingerprint is not excluded, in order. -/
def keptResources (overrides : Overrides) (resources : List Resource) : List Resource :=
  resources.filter fun resource => resource.fingerprint ∉ overrides.excluded

/-- The entries of a resource, if it can be decoded. -/
def Resource.decode (resource : Resource) : Except SyntaxError (List Entry) :=
  (Properties.ofBytes resource.bytes resource.location.text).map (entriesOf resource.location)

/-- The entries of a resource stand in it. -/
theorem Resource.source_of_decode {resource : Resource} {list : List Entry}
    (h : resource.decode = .ok list) : ∀ entry ∈ list, entry.source = resource.location := by
  unfold decode at h
  cases hproperties : Properties.ofBytes resource.bytes resource.location.text with
  | error e =>
    rw [hproperties] at h
    cases h
  | ok properties =>
    rw [hproperties] at h
    obtain rfl := Except.ok.inj h
    intro entry hentry
    obtain ⟨pair, -, rfl⟩ := List.mem_map.1 hentry
    rfl

/-- `entries` are the entries of a family: its resources can be listed, those that are not excluded
can be decoded, and their entries follow one another in the order of the resources. -/
def HasEntries (view : View) (overrides : Overrides) (root : String) (family : Family)
    (entries : List Entry) : Prop :=
  ∃ resources lists, view.find (root ++ family.file) = .ok resources ∧
    List.Forall₂ (fun resource list => resource.decode = .ok list)
      (keptResources overrides resources) lists ∧
    entries = lists.flatten

/-- A family has one list of entries at most. -/
theorem HasEntries.unique {view : View} {overrides : Overrides} {root : String} {family : Family}
    {first second : List Entry} (hfirst : HasEntries view overrides root family first)
    (hsecond : HasEntries view overrides root family second) : first = second := by
  obtain ⟨resources, lists, hfind, hlists, rfl⟩ := hfirst
  obtain ⟨resources', lists', hfind', hlists', rfl⟩ := hsecond
  obtain rfl : resources = resources' := Except.ok.inj (hfind.symm.trans hfind')
  have hsame := (mapM_eq_ok_iff.2 hlists).symm.trans (mapM_eq_ok_iff.2 hlists')
  rw [Except.ok.inj hsame]

/-- The entries of a family whose only resource can be decoded and is not excluded. -/
theorem HasEntries.of_singleton {view : View} {overrides : Overrides} {root : String}
    {family : Family} {resource : Resource} {entries : List Entry}
    (hfind : view.find (root ++ family.file) = .ok [resource])
    (hkept : resource.fingerprint ∉ overrides.excluded) (hdecode : resource.decode = .ok entries) :
    HasEntries view overrides root family entries := by
  refine ⟨[resource], [entries], hfind, ?_, List.flatten_singleton.symm⟩
  have hone : keptResources overrides [resource] = [resource] := by simp [keptResources, hkept]
  rw [hone]
  exact .cons hdecode .nil

namespace Records

/-! ## Reading -/

/-- Reading a family looks at the overrides for excluded fingerprints only. -/
theorem readFamily_congr {overrides overrides' : Overrides}
    (h : overrides.excluded = overrides'.excluded) (view : View) (root : String)
    (family : Family) :
    readFamily view overrides root family = readFamily view overrides' root family := by
  have hresource : readResource overrides = readResource overrides' := by
    funext resource
    rw [readResource, readResource, h]
  rw [readFamily, readFamily, hresource]

/-- An excluded resource has no entries, any other one those that it decodes to. -/
theorem outcome_readResource (overrides : Overrides) (resource : Resource) :
    (readResource overrides resource).outcome =
      if resource.fingerprint ∈ overrides.excluded then .ok []
      else resource.decode.mapError .malformed := by
  rw [readResource]
  by_cases h : resource.fingerprint ∈ overrides.excluded
  · simp only [h, if_true]
    rfl
  · simp only [h, if_false, Report.outcome_bind_eq, Report.outcome_ofSyntax, Resource.decode]
    cases Properties.ofBytes resource.bytes resource.location.text with
    | error e => rfl
    | ok properties =>
      -- an empty resource is only remarked upon
      show (if properties.isEmpty = true then _ else _ : Report (List Entry)).outcome = _
      split <;> rfl

/-- Reading resources one after the other yields the entries of those that are not excluded. -/
theorem outcome_mapM_readResource (overrides : Overrides) (resources : List Resource) :
    (resources.mapM (readResource overrides)).outcome.map List.flatten =
      (((keptResources overrides resources).mapM Resource.decode).map List.flatten).mapError
        .malformed := by
  have hstep : (fun resource => (readResource overrides resource).outcome) = fun resource =>
      if resource.fingerprint ∉ overrides.excluded then resource.decode.mapError .malformed
      else .ok [] := by
    funext resource
    rw [outcome_readResource, ite_not]
  have hswap (result : Except SyntaxError (List (List Entry))) :
      (result.map List.flatten).mapError Error.malformed =
        (result.mapError Error.malformed).map List.flatten := by
    cases result <;> rfl
  rw [Report.outcome_mapM, hstep, map_flatten_mapM_filter, hswap, mapM_mapError]
  rfl

/-- Resources are listed as the view finds them, and a failure is reported in given words. -/
theorem outcome_enumerate (view : View) (path : String) (failure : String → Error) :
    (view.enumerate path failure).outcome = (view.find path).mapError failure := by
  rw [View.enumerate]
  cases view.find path <;> rfl

/-- **The outcome of reading a family**: that of listing its resources and then of decoding those
that are not excluded. -/
theorem outcome_readFamily (view : View) (overrides : Overrides) (root : String)
    (family : Family) :
    (readFamily view overrides root family).outcome =
      (view.find (root ++ family.file)).mapError (.enumeration (root ++ family.file)) >>=
        fun resources =>
          (((keptResources overrides resources).mapM Resource.decode).map List.flatten).mapError
            .malformed := by
  have hreport : readFamily view overrides root family =
      view.enumerate (root ++ family.file) (.enumeration (root ++ family.file)) >>=
        fun resources => resources.mapM (readResource overrides) >>=
          fun lists => Pure.pure lists.flatten := rfl
  rw [hreport, Report.outcome_bind_eq, outcome_enumerate]
  congr 1
  funext resources
  rw [Report.outcome_bind_eq, ← outcome_mapM_readResource]
  rfl

/-- **Reading a family yields exactly its entries.** -/
theorem outcome_readFamily_eq_ok_iff {view : View} {overrides : Overrides} {root : String}
    {family : Family} {entries : List Entry} :
    (readFamily view overrides root family).outcome = .ok entries ↔
      HasEntries view overrides root family entries := by
  rw [outcome_readFamily, bind_eq_ok_iff, HasEntries]
  constructor
  · rintro ⟨resources, hfind, hentries⟩
    cases hlists : (keptResources overrides resources).mapM Resource.decode with
    | error e => simp [hlists, Except.map, Except.mapError] at hentries
    | ok lists =>
      refine ⟨resources, lists, ?_, mapM_eq_ok_iff.1 hlists, ?_⟩
      · cases hview : view.find (root ++ family.file) <;> simp_all [Except.mapError]
      · simpa [hlists, Except.map, Except.mapError, eq_comm] using hentries
  · rintro ⟨resources, lists, hfind, hlists, rfl⟩
    refine ⟨resources, by rw [hfind]; rfl, ?_⟩
    rw [mapM_eq_ok_iff.2 hlists]
    rfl

/-- **Reading a family fails** when its resources cannot be listed, or when one of those that are
not excluded cannot be decoded. -/
theorem outcome_readFamily_eq_error_iff {view : View} {overrides : Overrides} {root : String}
    {family : Family} {e : Error} :
    (readFamily view overrides root family).outcome = .error e ↔
      (∃ cause, view.find (root ++ family.file) = .error cause ∧
        e = .enumeration (root ++ family.file) cause) ∨
      ∃ resources cause, view.find (root ++ family.file) = .ok resources ∧
        (keptResources overrides resources).mapM Resource.decode = .error cause ∧
        e = .malformed cause := by
  rw [outcome_readFamily]
  cases hfind : view.find (root ++ family.file) with
  | error cause =>
    simp [Except.mapError, Bind.bind, Except.bind, eq_comm]
  | ok resources =>
    cases hdecode : (keptResources overrides resources).mapM Resource.decode <;>
      simp [Except.mapError, Except.map, Bind.bind, Except.bind, hdecode, eq_comm]

end Records

end Wiring
