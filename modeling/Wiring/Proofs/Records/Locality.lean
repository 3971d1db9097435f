import Wiring.Proofs.Properties.Failures
import Wiring.Proofs.Records.ApplyTables
import Wiring.Proofs.Records.PluginTables
import Wiring.Proofs.Records.ServiceTables
import Wiring.Records.Read

/-!
# Records · Errors and the resources they name

Whether an error of reading blames the right resources. `Error.named` are the locations that an
error names, and `View.restrict` is a view with all other resources left out. A reading is local
(`ReadsLocally`) when what can be read can be read of some of the resources alone, and when an error
is found again where only the resources are left that it names. Each family is read locally: an
entry was admitted or refused over entries that came before, and the entry it was refused over
stands at a named location. Local readings follow one another (`ReadsLocally.seq`). Main statement:
where reading a table in memory fails, the entries at the named locations alone fail with the same
error (`readAll_filter_named`). It holds for every view (`readsLocally_readAll`). Nothing is said
about a smallest set of entries: a named resource is kept with all that it holds.
-/

namespace Wiring

/-! ## Named locations -/

/-- The locations that an error of reading names. -/
def Error.named : Error → List String
  | .malformed cause => [cause.resource]
  | .conflict (.duplicateId _ _ first second) => [first, second]
  | .conflict (.applyDisagreement _ _ first _ second) => [first, second]
  | _ => []

/-- The view that lists only the resources at some locations. -/
def View.restrict (view : View) (locations : List String) : View :=
  { view with
    find := fun path =>
      (view.find path).map fun resources =>
        resources.filter fun resource => resource.location.text ∈ locations }

/-- In a view of some locations, those resources are found that stand there. -/
theorem View.find_restrict (view : View) (locations : List String) (path : String) :
    (view.restrict locations).find path =
      (view.find path).map fun resources =>
        resources.filter fun resource => resource.location.text ∈ locations := rfl

/-- Leaving entries out of a table in memory restricts its view. -/
theorem Enumerator.view_embedded_filter (contextId : String) (entries : List Embedded)
    (tree : FileTree) (locations : List String) :
    (embedded contextId (entries.filter fun entry =>
        entry.resource.location.text ∈ locations)).view tree =
      ((embedded contextId entries).view tree).restrict locations := by
  have hswap (path : String) : ((entries.filter fun entry =>
        entry.resource.location.text ∈ locations).filter (·.path == path)).map Embedded.resource =
      ((entries.filter (·.path == path)).map Embedded.resource).filter fun resource =>
        resource.location.text ∈ locations := by
    rw [List.filter_map, List.filter_filter, List.filter_filter]
    congr 1
    exact List.filter_congr fun entry _ => Bool.and_comm _ _
  unfold embedded View.restrict
  simp only [hswap]
  rfl

/-! ## Decoding -/

/-- A resource that cannot be decoded is named by the error. -/
theorem Resource.resource_of_decode {resource : Resource} {cause : SyntaxError}
    (h : resource.decode = .error cause) : cause.resource = resource.location.text := by
  unfold decode at h
  cases hproperties : Properties.ofBytes resource.bytes resource.location.text with
  | error e =>
    rw [hproperties] at h
    obtain rfl := Except.error.inj h
    exact Properties.resource_of_ofBytes_eq_error hproperties
  | ok properties =>
    rw [hproperties] at h
    cases h

/-- Exclusion does not depend on where a resource stands. -/
theorem keptResources_filter (overrides : Overrides) (resources : List Resource)
    (p : Resource → Bool) : keptResources overrides (resources.filter p) =
      (keptResources overrides resources).filter p := by
  unfold keptResources
  rw [List.filter_filter, List.filter_filter]
  exact List.filter_congr fun resource _ => Bool.and_comm _ _

/-- The entries of the resources at some locations are those entries that stand there. -/
theorem exists_decode_filter (locations : List String) {resources : List Resource}
    {lists : List (List Entry)}
    (h : List.Forall₂ (fun resource list => resource.decode = .ok list) resources lists) :
    ∃ lists', List.Forall₂ (fun resource list => resource.decode = .ok list)
        (resources.filter fun resource => resource.location.text ∈ locations) lists' ∧
      lists'.flatten = lists.flatten.filter fun entry => entry.source.text ∈ locations := by
  induction h with
  | nil => exact ⟨[], .nil, rfl⟩
  | @cons resource list resources lists hlist _ ih =>
    obtain ⟨lists', hlists', hflat⟩ := ih
    have hsource := Resource.source_of_decode hlist
    rw [List.flatten_cons, List.filter_append, ← hflat]
    by_cases hkept : resource.location.text ∈ locations
    · have hall : (list.filter fun entry => entry.source.text ∈ locations) = list := by
        rw [List.filter_eq_self]
        intro entry hentry
        simpa [hsource entry hentry] using hkept
      rw [List.filter_cons_of_pos (by simpa using hkept), hall]
      exact ⟨list :: lists', .cons hlist hlists', rfl⟩
    · have hnone : (list.filter fun entry => entry.source.text ∈ locations) = [] := by
        rw [List.filter_eq_nil_iff]
        intro entry hentry
        simpa [hsource entry hentry] using hkept
      rw [List.filter_cons_of_neg (by simpa using hkept), hnone]
      exact ⟨lists', hlists', rfl⟩

/-- **The entries of a family at some locations** are the entries of the restricted view. -/
theorem HasEntries.restrict {view : View} {overrides : Overrides} {root : String}
    {family : Family} {entries : List Entry} (locations : List String)
    (h : HasEntries view overrides root family entries) :
    HasEntries (view.restrict locations) overrides root family
      (entries.filter fun entry => entry.source.text ∈ locations) := by
  obtain ⟨resources, lists, hfind, hlists, rfl⟩ := h
  obtain ⟨lists', hlists', hflat⟩ := exists_decode_filter locations hlists
  refine ⟨resources.filter fun resource => resource.location.text ∈ locations, lists', ?_, ?_,
    hflat.symm⟩
  · rw [View.find_restrict, hfind]
    rfl
  · rw [keptResources_filter]
    exact hlists'

/-! ## Errors of an entry -/

namespace Implementation

/-- A reference that cannot be read is reported where it is said to stand. -/
theorem resource_of_parse {value key origin : String} {cause : SyntaxError}
    (h : parse value key origin = .error cause) : cause.resource = origin := by
  unfold parse at h
  dsimp only at h
  split at h
  · cases h
  · obtain rfl := Except.error.inj h
    rfl
  · split at h
    · cases h
    · obtain rfl := Except.error.inj h
      rfl

/-- A value that holds no reference is reported in its resource. -/
theorem resource_of_ofValue {value key resource : String} {cause : SyntaxError}
    (h : ofValue value key resource = .error cause) : cause.resource = resource := by
  unfold ofValue at h
  split at h
  · obtain rfl := Except.error.inj h
    rfl
  · exact resource_of_parse h

end Implementation

namespace Entry

variable {root : String} {entry : Entry} {cause : SyntaxError}

/-- A service entry that cannot be read is reported in its resource. -/
theorem resource_of_service (h : entry.service root = .error cause) :
    cause.resource = entry.source.text := by
  unfold service ServiceDefinition.ofEntry at h
  dsimp only at h
  split at h
  · split at h
    · obtain rfl := Except.error.inj h
      rfl
    · rcases bind_eq_error_iff.1 h with hvalue | ⟨_, -, hdone⟩
      · exact Implementation.resource_of_ofValue hvalue
      · cases hdone
  · obtain rfl := Except.error.inj h
    rfl

/-- A plugin entry that cannot be read is reported in its resource. -/
theorem resource_of_plugin (h : entry.plugin root = .error cause) :
    cause.resource = entry.source.text := by
  unfold plugin PluginDefinition.ofEntry at h
  dsimp only at h
  split at h
  · split at h
    · obtain rfl := Except.error.inj h
      rfl
    · rcases bind_eq_error_iff.1 h with hvalue | ⟨_, -, hdone⟩
      · exact Implementation.resource_of_ofValue hvalue
      · cases hdone
  · obtain rfl := Except.error.inj h
    rfl

/-- A key that is no contract is reported in its resource. -/
theorem resource_of_contractOfKey {key : String} {source : Location}
    (h : Records.contractOfKey key source = .error cause) : cause.resource = source.text := by
  unfold Records.contractOfKey at h
  dsimp only at h
  split at h
  · obtain rfl := Except.error.inj h
    rfl
  · cases h

/-- An apply entry that cannot be read is reported in its resource. -/
theorem resource_of_applyOfEntry (h : Records.applyOfEntry entry = .error cause) :
    cause.resource = entry.source.text := by
  rcases bind_eq_error_iff.1 h with hkey | ⟨contract, -, hvalue⟩
  · exact resource_of_contractOfKey hkey
  · dsimp only at hvalue
    split at hvalue
    · obtain rfl := Except.error.inj hvalue
      rfl
    · cases hvalue

/-- An ignore entry without a contract or a value is reported in its resource. -/
theorem resource_of_ignoreContract (h : Records.ignoreContract entry = .error cause) :
    cause.resource = entry.source.text := by
  rcases bind_eq_error_iff.1 h with hkey | ⟨contract, -, hvalue⟩
  · exact resource_of_contractOfKey hkey
  · split at hvalue
    · obtain rfl := Except.error.inj hvalue
      rfl
    · cases hvalue

/-- An ignore entry whose rules cannot be read is reported in its resource. -/
theorem resource_of_rules (h : entry.rules = .error cause) :
    cause.resource = entry.source.text := by
  rcases bind_eq_error_iff.1 h with hcontract | ⟨contract, -, hrules⟩
  · exact resource_of_ignoreContract hcontract
  · rcases bind_eq_error_iff.1 hrules with hitems | ⟨rules, -, hdone⟩
    · obtain ⟨item, -, hitem⟩ := exists_of_mapM_eq_error hitems
      exact Implementation.resource_of_parse (map_eq_error_iff.1 hitem)
    · cases hdone

end Entry

/-! ## Reading some of the resources -/

/-- Whether a reading looks at each resource for itself, as far as errors go. -/
structure ReadsLocally {α : Type} (read : View → Report α) : Prop where
  /-- What can be read can be read of some of the resources alone. -/
  readable : ∀ view locations, (∃ a, (read view).outcome = .ok a) →
    ∃ a, (read (view.restrict locations)).outcome = .ok a
  /-- An error is found again in the resources that it names. -/
  blames : ∀ view e, (read view).outcome = .error e →
    (read (view.restrict e.named)).outcome = .error e

/-- **Two readings one after the other** look at each resource for itself if both do: the second one
is reached because the first one succeeds, which it does of the named resources alone as well. -/
theorem ReadsLocally.seq {α β γ : Type} {read : View → Report α} {read' : View → Report β}
    (h : ReadsLocally read) (h' : ReadsLocally read') (combine : α → β → γ) :
    ReadsLocally fun view =>
      read view >>= fun a => read' view >>= fun b => Pure.pure (combine a b) where
  readable := by
    rintro view locations ⟨c, hc⟩
    obtain ⟨a, ha, hc⟩ := Report.outcome_bind_eq_ok_iff.1 hc
    obtain ⟨b, hb, -⟩ := Report.outcome_bind_eq_ok_iff.1 hc
    obtain ⟨a', ha'⟩ := h.readable view locations ⟨a, ha⟩
    obtain ⟨b', hb'⟩ := h'.readable view locations ⟨b, hb⟩
    refine ⟨combine a' b', Report.outcome_bind_eq_ok_iff.2 ⟨a', ha', ?_⟩⟩
    exact Report.outcome_bind_eq_ok_iff.2 ⟨b', hb', rfl⟩
  blames := by
    intro view e he
    refine Report.outcome_bind_eq_error_iff.2 ?_
    rcases Report.outcome_bind_eq_error_iff.1 he with hfirst | ⟨a, ha, he⟩
    · exact .inl (h.blames view e hfirst)
    · obtain ⟨a', ha'⟩ := h.readable view e.named ⟨a, ha⟩
      refine .inr ⟨a', ha', Report.outcome_bind_eq_error_iff.2 (.inl ?_)⟩
      rcases Report.outcome_bind_eq_error_iff.1 he with hsecond | ⟨b, -, hdone⟩
      · exact h'.blames view e hsecond
      · cases hdone

namespace Records

open Enumerator (Embedded viewOf)

/-- A family that cannot be read fails alike where only the named resources are left. -/
theorem outcome_readFamily_restrict_named {view : View} {overrides : Overrides} {root : String}
    {family : Family} {e : Error}
    (h : (readFamily view overrides root family).outcome = .error e) :
    (readFamily (view.restrict e.named) overrides root family).outcome = .error e := by
  rw [outcome_readFamily_eq_error_iff] at h ⊢
  rcases h with ⟨cause, hfind, rfl⟩ | ⟨resources, cause, hfind, hdecode, rfl⟩
  · exact .inl ⟨cause, by rw [View.find_restrict, hfind]; rfl, rfl⟩
  · refine .inr ⟨_, cause, by rw [View.find_restrict, hfind]; rfl, ?_, rfl⟩
    rw [keptResources_filter]
    refine mapM_filter_eq_error (fun resource _ hresource => ?_) hdecode
    simp [Error.named, Resource.resource_of_decode hresource]

/-- **A family is read locally** when the adding of its entries does not mind entries of other
locations: what was added can be added without them, and an entry that fails is kept and fails alike
behind those that are kept. -/
theorem readsLocally_of_foldlM {σ : Type} {overrides : Overrides} {root : String} {family : Family}
    {add : σ → Entry → Report σ} {start : σ}
    (hkept : ∀ (locations : List String) (entries : List Entry) s,
      (entries.foldlM add start).outcome = .ok s →
      ∃ s', ((entries.filter fun entry => entry.source.text ∈ locations).foldlM add
        start).outcome = .ok s')
    (hfails : ∀ (before : List Entry) entry s e, (before.foldlM add start).outcome = .ok s →
      (add s entry).outcome = .error e → entry.source.text ∈ e.named ∧
        ∃ s', ((before.filter fun entry => entry.source.text ∈ e.named).foldlM add
          start).outcome = .ok s' ∧ (add s' entry).outcome = .error e) :
    ReadsLocally fun view =>
      readFamily view overrides root family >>= fun entries => entries.foldlM add start where
  readable := by
    rintro view locations ⟨s, h⟩
    obtain ⟨entries, hentries, hfold⟩ := Report.outcome_bind_eq_ok_iff.1 h
    obtain ⟨s', hfold'⟩ := hkept locations entries s hfold
    have hrestricted := (outcome_readFamily_eq_ok_iff.1 hentries).restrict locations
    exact ⟨s', Report.outcome_bind_eq_ok_iff.2
      ⟨_, outcome_readFamily_eq_ok_iff.2 hrestricted, hfold'⟩⟩
  blames := by
    intro view e h
    refine Report.outcome_bind_eq_error_iff.2 ?_
    rcases Report.outcome_bind_eq_error_iff.1 h with hfamily | ⟨entries, hentries, hfold⟩
    · exact .inl (outcome_readFamily_restrict_named hfamily)
    · have hrestricted := (outcome_readFamily_eq_ok_iff.1 hentries).restrict e.named
      refine .inr ⟨_, outcome_readFamily_eq_ok_iff.2 hrestricted, ?_⟩
      rw [Report.outcome_foldlM] at hfold ⊢
      refine foldlM_filter_eq_error (fun before entry s hbefore hentry => ?_) hfold
      rw [← Report.outcome_foldlM] at hbefore
      obtain ⟨hnamed, s', hbefore', hentry'⟩ := hfails before entry s e hbefore hentry
      rw [Report.outcome_foldlM] at hbefore'
      exact ⟨by simpa using hnamed, s', hbefore', hentry'⟩

/-! ## Service definitions -/

/-- The definitions of the entries at some locations. -/
theorem forall₂_service_filter {root : String} {entries : List Entry} {ds : List ServiceDefinition}
    (locations : List String)
    (h : List.Forall₂ (fun entry d => entry.service root = .ok d) entries ds) :
    List.Forall₂ (fun entry d => entry.service root = .ok d)
      (entries.filter fun entry => entry.source.text ∈ locations)
      (ds.filter fun d => d.source.text ∈ locations) := by
  refine List.rel_filter (fun {entry d} hd => ?_) h
  obtain ⟨_, _, _, _, _, -, -, -, rfl⟩ := Entry.service_eq_ok_iff.1 hd
  exact Iff.rfl

/-- A definition is refused exactly where one of its name is there, and both are named. -/
theorem admitService_eq_error_iff {services : Table (Table ServiceDefinition)}
    {d : ServiceDefinition} {e : Error} :
    admitService services d = .error e ↔ ∃ first, serviceAt services d.contract d.id = some first ∧
      e = .conflict (.duplicateId d.contract d.id first.source.text d.source.text) := by
  unfold admitService
  cases serviceAt services d.contract d.id <;> simp [eq_comm]

/-- Service definitions are read locally. -/
theorem readsLocally_readServices (overrides : Overrides) (root : String) :
    ReadsLocally fun view => readServices view overrides root := by
  refine readsLocally_of_foldlM (fun locations entries services h => ?_)
    (fun before entry services e hbefore hentry => ?_)
  · obtain ⟨ds, hds, hnames, -⟩ := outcome_addServices_eq_ok_iff.1 h
    exact ⟨_, outcome_addServices_eq_ok_iff.2 ⟨_, forall₂_service_filter locations hds,
      hnames.sublist (List.filter_sublist.map _), rfl⟩⟩
  · obtain ⟨ds, hds, hnames, rfl⟩ := outcome_addServices_eq_ok_iff.1 hbefore
    have hnames' : ((ds.filter fun d => d.source.text ∈ e.named).map
        ServiceDefinition.name).Nodup := hnames.sublist (List.filter_sublist.map _)
    rw [outcome_addService, bind_eq_error_iff] at hentry
    suffices hsuffices : entry.source.text ∈ e.named ∧
        (addService root (serviceTable (ds.filter fun d => d.source.text ∈ e.named))
          entry).outcome = .error e from
      ⟨hsuffices.1, _, outcome_addServices_eq_ok_iff.2 ⟨_, forall₂_service_filter e.named hds,
        hnames', rfl⟩, hsuffices.2⟩
    rw [outcome_addService, bind_eq_error_iff]
    rcases hentry with hsyntax | ⟨d, hd, hadmit⟩
    · obtain ⟨cause, hcause, rfl⟩ := mapError_eq_error_iff.1 hsyntax
      exact ⟨by simp [Error.named, Entry.resource_of_service hcause], .inl hsyntax⟩
    · obtain ⟨first, hfirst, rfl⟩ := admitService_eq_error_iff.1 hadmit
      obtain ⟨_, _, _, _, _, -, -, -, rfl⟩ := Entry.service_eq_ok_iff.1 (mapError_eq_ok_iff.1 hd)
      refine ⟨by simp [Error.named], .inr ⟨_, hd, admitService_eq_error_iff.2 ⟨first, ?_, rfl⟩⟩⟩
      -- the definition it was refused over stands at the first named location
      obtain ⟨hmem, hname⟩ := (serviceAt_serviceTable_eq_some_iff hnames).1 hfirst
      refine (serviceAt_serviceTable_eq_some_iff hnames').2 ⟨?_, hname⟩
      exact List.mem_filter.2 ⟨hmem, by simp [Error.named]⟩

/-! ## Apply records -/

/-- The records of the entries at some locations. -/
theorem forall₂_applyOfEntry_filter {entries : List Entry} {records : List ApplyRecord}
    (locations : List String)
    (h : List.Forall₂ (fun entry record => applyOfEntry entry = .ok record) entries records) :
    List.Forall₂ (fun entry record => applyOfEntry entry = .ok record)
      (entries.filter fun entry => entry.source.text ∈ locations)
      (records.filter fun record => record.source.text ∈ locations) := by
  refine List.rel_filter (fun {entry record} hrecord => ?_) h
  obtain ⟨-, rfl⟩ := applyOfEntry_eq_ok_iff.1 hrecord
  exact Iff.rfl

/-- The first hit among some items is the first hit among those that are kept, if it is kept. -/
theorem find?_filter_of_kept {α : Type} {p q : α → Bool} {xs : List α} {x : α}
    (h : xs.find? q = some x) (hkept : p x = true) : (xs.filter p).find? q = some x := by
  obtain ⟨hx, before, after, rfl, hbefore⟩ := List.find?_eq_some_iff_append.1 h
  refine List.find?_eq_some_iff_append.2 ⟨hx, before.filter p, after.filter p, ?_, ?_⟩
  · rw [List.filter_append, List.filter_cons_of_pos hkept]
  · exact fun y hy => hbefore y (List.mem_filter.1 hy).1

/-- Some of the records agree if all of them do. -/
theorem agree_filter {overrides : Overrides} {records : List ApplyRecord}
    (h : ApplyRecord.Agree overrides records) (p : ApplyRecord → Bool) :
    ApplyRecord.Agree overrides (records.filter p) := fun first hfirst second hsecond =>
  h first (List.mem_filter.1 hfirst).1 second (List.mem_filter.1 hsecond).1

/-- **A record is refused** over the first one of its contract. -/
theorem admitApply_applyTable_eq_error_iff {overrides : Overrides} {records : List ApplyRecord}
    (h : ∀ record ∈ records, record.conflict = none) {record : ApplyRecord} {e : Error} :
    admitApply overrides (applyTable records) record = .error e ↔
      ∃ first, records.find? (·.contract = record.contract) = some first ∧
        first.chosenId ≠ record.chosenId ∧ record.contract ∉ overrides.apply ∧
        e = .conflict (first.disagreement record) := by
  rw [admitApply, getElem?_applyTable h, ← List.head?_filter]
  cases records.filter (·.contract = record.contract) with
  | nil => simp [mergeApplies]
  | cons first later =>
    simp only [mergeApplies, List.head?_cons, Option.some.injEq, exists_eq_left']
    by_cases hfits : first.chosenId = record.chosenId ∨ record.contract ∈ overrides.apply
    · simp only [hfits, if_true, reduceCtorEq, false_iff]
      tauto
    · simp only [hfits, if_false, Except.error.injEq]
      rw [not_or] at hfits
      simp only [hfits, ne_eq, not_false_eq_true, true_and, eq_comm]
      rfl

/-- Apply records are read locally. -/
theorem readsLocally_readApplies (overrides : Overrides) (root : String) :
    ReadsLocally fun view => readApplies view overrides root := by
  refine readsLocally_of_foldlM (fun locations entries applies h => ?_)
    (fun before entry applies e hbefore hentry => ?_)
  · obtain ⟨records, hrecords, hagree, -⟩ := outcome_addApplies_eq_ok_iff.1 h
    exact ⟨_, outcome_addApplies_eq_ok_iff.2 ⟨_, forall₂_applyOfEntry_filter locations hrecords,
      agree_filter hagree _, rfl⟩⟩
  · obtain ⟨records, hrecords, hagree, rfl⟩ := outcome_addApplies_eq_ok_iff.1 hbefore
    rw [outcome_addApply, bind_eq_error_iff] at hentry
    suffices hsuffices : entry.source.text ∈ e.named ∧
        (addApply overrides (applyTable (records.filter fun record =>
          record.source.text ∈ e.named)) entry).outcome = .error e from
      ⟨hsuffices.1, _, outcome_addApplies_eq_ok_iff.2 ⟨_,
        forall₂_applyOfEntry_filter e.named hrecords, agree_filter hagree _, rfl⟩, hsuffices.2⟩
    rw [outcome_addApply, bind_eq_error_iff]
    rcases hentry with hsyntax | ⟨record, hrecord, hadmit⟩
    · obtain ⟨cause, hcause, rfl⟩ := mapError_eq_error_iff.1 hsyntax
      exact ⟨by simp [Error.named, Entry.resource_of_applyOfEntry hcause], .inl hsyntax⟩
    · have hnone : ∀ record ∈ records, record.conflict = none := by
        intro record hmem
        obtain ⟨entry, -, hentry⟩ := (mem_iff_of_forall₂ hrecords).1 hmem
        obtain ⟨-, rfl⟩ := applyOfEntry_eq_ok_iff.1 hentry
        rfl
      obtain ⟨first, hfirst, hid, hset, rfl⟩ := (admitApply_applyTable_eq_error_iff hnone).1 hadmit
      obtain ⟨-, rfl⟩ := applyOfEntry_eq_ok_iff.1 (mapError_eq_ok_iff.1 hrecord)
      refine ⟨by simp [Error.named, ApplyRecord.disagreement], .inr ⟨_, hrecord, ?_⟩⟩
      refine (admitApply_applyTable_eq_error_iff fun record hmem =>
        hnone record (List.mem_filter.1 hmem).1).2 ⟨first, ?_, hid, hset, rfl⟩
      -- the record it was refused over stands at the first named location
      exact find?_filter_of_kept hfirst (by simp [Error.named, ApplyRecord.disagreement])

/-! ## Plugin definitions and ignore rules -/

/-- **A family whose entries are only read** is read locally: no entry minds what came before. -/
theorem readsLocally_of_read {σ δ : Type} {overrides : Overrides} {root : String} {family : Family}
    {add : σ → Entry → Report σ} {start : σ} {read : Entry → Except SyntaxError δ}
    {insert : σ → δ → σ}
    (hadd : ∀ s entry, (add s entry).outcome =
      (read entry).mapError .malformed >>= fun d => .ok (insert s d))
    (hsource : ∀ entry cause, read entry = .error cause → cause.resource = entry.source.text) :
    ReadsLocally fun view =>
      readFamily view overrides root family >>= fun entries => entries.foldlM add start := by
  -- entries that can be read can be read without some of them
  have hkept (locations : List String) (entries : List Entry) (s : σ)
      (h : (entries.foldlM add start).outcome = .ok s) :
      ∃ s', ((entries.filter fun entry => entry.source.text ∈ locations).foldlM add
        start).outcome = .ok s' := by
    simp only [Report.outcome_foldlM, hadd, foldlM_total_eq_ok_iff] at h ⊢
    obtain ⟨ds, hds, -⟩ := h
    have hread := exists_forall₂_iff.1 ⟨ds, hds⟩
    obtain ⟨ds', hds'⟩ := exists_forall₂_iff.2 fun entry hentry =>
      hread entry (List.mem_filter.1 hentry).1
    exact ⟨_, ds', hds', rfl⟩
  refine readsLocally_of_foldlM hkept (fun before entry s e hbefore hentry => ?_)
  obtain ⟨s', hbefore'⟩ := hkept e.named before s hbefore
  rw [hadd, bind_eq_error_iff] at hentry
  rcases hentry with hsyntax | ⟨d, -, hdone⟩
  · obtain ⟨cause, hcause, rfl⟩ := mapError_eq_error_iff.1 hsyntax
    refine ⟨by simp [Error.named, hsource entry cause hcause], s', hbefore', ?_⟩
    rw [hadd, hcause]
    rfl
  · cases hdone

/-- Plugin definitions are read locally. -/
theorem readsLocally_readPlugins (overrides : Overrides) (root : String) :
    ReadsLocally fun view => readPlugins view overrides root :=
  readsLocally_of_read (outcome_addPlugin root) fun _ _ h => Entry.resource_of_plugin h

/-- Ignore rules are read locally. -/
theorem readsLocally_readIgnores (overrides : Overrides) (root : String) :
    ReadsLocally fun view => readIgnores view overrides root :=
  readsLocally_of_read outcome_addIgnores fun _ _ h => Entry.resource_of_rules h

/-! ## All families -/

/-- **All families are read locally**, one after the other. -/
theorem readsLocally_readAll (overrides : Overrides) (root : String) :
    ReadsLocally fun view => readAll view overrides root := by
  have hseq := (readsLocally_readServices overrides root).seq
    ((readsLocally_readApplies overrides root).seq
      ((readsLocally_readPlugins overrides root).seq
        (readsLocally_readIgnores overrides root) Prod.mk) Prod.mk)
    fun services rest => (⟨services, rest.1, rest.2.1, rest.2.2⟩ : Records)
  simpa only [readAll, bind_assoc, pure_bind] using hseq

/-- **Errors blame the right resources**: where reading a table in memory fails, the entries at the
locations that the error names alone fail with the same error. -/
theorem readAll_filter_named (contextId : String) (tree : FileTree) (entries : List Embedded)
    (overrides : Overrides) (root : String) (e : Error)
    (h : (readAll ((Enumerator.embedded contextId entries).view tree) overrides root).outcome =
      .error e) :
    (readAll ((Enumerator.embedded contextId (entries.filter fun entry =>
      entry.resource.location.text ∈ e.named)).view tree) overrides root).outcome = .error e := by
  rw [Enumerator.view_embedded_filter]
  exact (readsLocally_readAll overrides root).blames _ e h

/-- Three modules of which the first and the last define a service of one name. -/
def doublyDefined : List Embedded :=
  [⟨"a", "service.properties", "c>x>library=p".toUTF8⟩,
    ⟨"b", "service.properties", "c>y>library=p".toUTF8⟩,
    ⟨"d", "service.properties", "c>x>default=q".toUTF8⟩]

/-- The error that the two definitions of one name make. -/
def twiceX : Error :=
  .conflict (.duplicateId "c" "x" "embedded:a/service.properties" "embedded:d/service.properties")

/-- The module between the two of one name is not to blame. -/
theorem readAll_doublyDefined :
    (readAll (viewOf doublyDefined) ⟨∅, ∅, ∅⟩ "").outcome = .error twiceX ∧
      (doublyDefined.filter fun entry => entry.resource.location.text ∈ twiceX.named).map
        Embedded.owner = ["a", "d"] ∧
      (readAll (viewOf (doublyDefined.filter fun entry =>
        entry.resource.location.text ∈ twiceX.named)) ⟨∅, ∅, ∅⟩ "").outcome = .error twiceX := by
  have hfails : (readAll (viewOf doublyDefined) ⟨∅, ∅, ∅⟩ "").outcome = .error twiceX := by
    decide +kernel
  refine ⟨hfails, by decide +kernel, ?_⟩
  unfold viewOf at hfails ⊢
  exact readAll_filter_named "test" ⟨[], ∅, ∅⟩ doublyDefined ⟨∅, ∅, ∅⟩ "" twiceX hfails

end Records

end Wiring
