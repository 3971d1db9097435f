import Wiring.Proofs.Records.ApplyTables
import Wiring.Proofs.Records.PluginTables
import Wiring.Proofs.Records.ServiceTables

/-!
# Records · All families merged

What the reading of everything below a config root yields, said of the entries alone. Nothing is
fixed about how many resources there are or how the entries are spread over them: `Mergeable` lists
all that can be asked of the entries of the four families, and `IsMergeOf` says what the records
hold of them. Main statement: the reading succeeds exactly when the entries are there and can be
merged, and then the records are their merge (`readAll_merges`). No entry is lost, doubled or moved,
and an excluded resource plays no part. Of apply entries that disagree the first one stands, with a
conflict (`IsMergeOf.conflict_eq_none_iff`); that happens only where the apply variable of the
contract is set (`mem_apply_of_conflict`).
-/

namespace Wiring

/-! ## Apply records as they are written -/

/-- The apply record that an entry spells. -/
def Entry.applyRecord (entry : Entry) : ApplyRecord :=
  ⟨Text.trim entry.key, Text.trim entry.value, entry.source, none⟩

/-- Where every entry holds an apply record, these are the ones that the entries spell. -/
theorem Records.forall₂_applyOfEntry_iff {entries : List Entry} {records : List ApplyRecord} :
    List.Forall₂ (fun entry record => applyOfEntry entry = .ok record) entries records ↔
      (∀ entry ∈ entries, entry.IsApplyEntry) ∧ records = entries.map Entry.applyRecord := by
  simp only [applyOfEntry_eq_ok_iff]
  constructor
  · intro h
    induction h with
    | nil => simp
    | cons hentry _ ih =>
      obtain ⟨hshape, rfl⟩ := hentry
      obtain ⟨hall, rfl⟩ := ih
      exact ⟨List.forall_mem_cons.2 ⟨hshape, hall⟩, rfl⟩
  · rintro ⟨hall, rfl⟩
    induction entries with
    | nil => exact .nil
    | cons entry entries ih =>
      obtain ⟨hshape, hrest⟩ := List.forall_mem_cons.1 hall
      exact .cons ⟨hshape, rfl⟩ (ih hrest)

namespace Records

/-! ## What is asked and what is found -/

/-- Whether the entries of the families can be merged: each has the shape of its family, no two
service entries name one contract and one id, and the apply entries of a contract whose apply
variable is not set name one id. -/
structure Mergeable (overrides : Overrides) (entries : Family → List Entry) : Prop where
  /-- Each service entry holds a definition. -/
  services : ∀ entry ∈ entries .services, entry.IsServiceEntry
  /-- Each apply entry holds a record. -/
  applies : ∀ entry ∈ entries .applies, entry.IsApplyEntry
  /-- Each plugin entry holds a definition. -/
  plugins : ∀ entry ∈ entries .plugins, entry.IsPluginEntry
  /-- Each ignore entry holds rules. -/
  ignores : ∀ entry ∈ entries .ignores, entry.IsIgnoreEntry
  /-- No two service entries bear one name. -/
  distinct : ((entries .services).map fun entry => serviceName? entry.key).Nodup
  /-- Apply entries of one contract agree, unless its variable is set. -/
  agree : ∀ first ∈ entries .applies, ∀ second ∈ entries .applies,
    Text.trim first.key = Text.trim second.key → Text.trim first.key ∉ overrides.apply →
      Text.trim first.value = Text.trim second.value

/-- What records hold that are the merge of the entries of the families. -/
structure IsMergeOf (root : String) (entries : Family → List Entry) (records : Records) :
    Prop where
  /-- Each service entry holds a definition, and what stands under a contract and an id is the
  definition of that name. No contract is listed without one. -/
  services : ∃ ds, List.Forall₂ (fun entry d => entry.service root = .ok d)
      (entries .services) ds ∧
    (ds.map ServiceDefinition.name).Nodup ∧
    (∀ contract id d, serviceAt records.services contract id = some d ↔
      d ∈ ds ∧ d.contract = contract ∧ d.id = id) ∧
    ∀ contract, contract ∈ records.services ↔ ∃ d ∈ ds, d.contract = contract
  /-- Under a contract stands its first apply record, with its first disagreement with a later
  one. -/
  applies : ∀ contract, records.applies[contract]? =
    mergeApplies (((entries .applies).map Entry.applyRecord).filter (·.contract = contract))
  /-- Each plugin entry holds a definition, and under a contract stand its definitions in order. -/
  plugins : ∃ ds, List.Forall₂ (fun entry d => entry.plugin root = .ok d) (entries .plugins) ds ∧
    (∀ contract, records.plugins.getD contract [] = ds.filter (·.contract = contract)) ∧
    ∀ contract, contract ∈ records.plugins ↔ ∃ d ∈ ds, d.contract = contract
  /-- Each item of an ignore entry holds a rule, and under a contract stand its rules in order. -/
  ignores : ∃ lists, List.Forall₂ (fun entry rules =>
      List.Forall₂ (fun item rule => entry.rule item = .ok rule) (commaItems entry.value) rules)
      (entries .ignores) lists ∧
    ∀ contract, records.ignores.getD contract [] =
      lists.flatten.filter (·.contract = contract)

/-! ## Family by family -/

/-- Definitions that entries hold bear the names that the keys give. -/
theorem map_serviceName?_of_forall₂ {root : String} {entries : List Entry}
    {ds : List ServiceDefinition}
    (h : List.Forall₂ (fun entry d => entry.service root = .ok d) entries ds) :
    entries.map (fun entry => serviceName? entry.key) =
      (ds.map ServiceDefinition.name).map some := by
  induction h with
  | nil => rfl
  | cons hentry _ ih =>
    rw [List.map_cons, List.map_cons, List.map_cons, ih, Entry.serviceName?_of_service hentry]
    rfl

/-- No name comes twice among the entries exactly if none does among the definitions. -/
theorem nodup_serviceName?_iff {root : String} {entries : List Entry}
    {ds : List ServiceDefinition}
    (h : List.Forall₂ (fun entry d => entry.service root = .ok d) entries ds) :
    (entries.map fun entry => serviceName? entry.key).Nodup ↔
      (ds.map ServiceDefinition.name).Nodup := by
  rw [map_serviceName?_of_forall₂ h, List.nodup_map_iff fun _ _ => Option.some.inj]

/-- The records that entries spell agree exactly if the entries do. -/
theorem agree_map_applyRecord_iff {overrides : Overrides} {entries : List Entry} :
    ApplyRecord.Agree overrides (entries.map Entry.applyRecord) ↔
      ∀ first ∈ entries, ∀ second ∈ entries,
        Text.trim first.key = Text.trim second.key → Text.trim first.key ∉ overrides.apply →
          Text.trim first.value = Text.trim second.value := by
  simp only [ApplyRecord.Agree, List.forall_mem_map, Entry.applyRecord]

/-- What the rules of entries are: for each entry its contract and one rule for each item. -/
theorem forall₂_rules {entries : List Entry} {chunks : List (String × List IgnoreRule)}
    (h : List.Forall₂ (fun entry chunk => entry.rules = .ok chunk) entries chunks) :
    List.Forall₂ (fun entry rules => List.Forall₂ (fun item rule => entry.rule item = .ok rule)
      (commaItems entry.value) rules) entries (chunks.map Prod.snd) := by
  induction h with
  | nil => exact .nil
  | cons hentry _ ih =>
    obtain ⟨-, -, -, hrules⟩ := Entry.rules_eq_ok_iff.1 hentry
    exact .cons hrules ih

/-- The rules of an entry bear its contract. -/
theorem contract_of_mem_rules {entry : Entry} {chunk : String × List IgnoreRule}
    (h : entry.rules = .ok chunk) {rule : IgnoreRule} (hrule : rule ∈ chunk.2) :
    rule.contract = chunk.1 := by
  obtain ⟨contract, rules⟩ := chunk
  obtain ⟨-, -, rfl, hrules⟩ := Entry.rules_eq_ok_iff.1 h
  obtain ⟨item, -, hitem⟩ := (mem_iff_of_forall₂ hrules).1 hrule
  exact Entry.contract_of_rule hitem

/-- Reading all families is reading each of them. -/
theorem outcome_readAll_eq_ok_iff {view : View} {overrides : Overrides} {root : String}
    {records : Records} :
    (readAll view overrides root).outcome = .ok records ↔
      (readServices view overrides root).outcome = .ok records.services ∧
      (readApplies view overrides root).outcome = .ok records.applies ∧
      (readPlugins view overrides root).outcome = .ok records.plugins ∧
      (readIgnores view overrides root).outcome = .ok records.ignores := by
  rw [readAll]
  simp only [Report.outcome_bind_eq_ok_iff, Report.outcome_pure, Except.ok.injEq]
  constructor
  · rintro ⟨services, hservices, applies, happlies, plugins, hplugins, ignores, hignores, rfl⟩
    exact ⟨hservices, happlies, hplugins, hignores⟩
  · rintro ⟨hservices, happlies, hplugins, hignores⟩
    exact ⟨_, hservices, _, happlies, _, hplugins, _, hignores, rfl⟩

/-- Under a contract stands a record without a conflict exactly where all apply entries of the
contract name one id. -/
theorem IsMergeOf.conflict_eq_none_iff {root : String} {entries : Family → List Entry}
    {records : Records} (h : IsMergeOf root entries records) {contract : String}
    {record : ApplyRecord} (hrecord : records.applies[contract]? = some record) :
    record.conflict = none ↔
      ∀ first ∈ entries .applies, ∀ second ∈ entries .applies, Text.trim first.key = contract →
        Text.trim second.key = contract → Text.trim first.value = Text.trim second.value := by
  rw [h.applies] at hrecord
  rw [conflict_eq_none_iff_of_mergeApplies hrecord]
  simp only [List.mem_filter, decide_eq_true_eq, and_imp, List.forall_mem_map, Entry.applyRecord]
  constructor
  · intro hall first hfirst second hsecond hfirstKey hsecondKey
    exact hall first hfirst hfirstKey second hsecond hsecondKey
  · intro hall first hfirst hfirstKey second hsecond hsecondKey
    exact hall first hfirst second hsecond hfirstKey hsecondKey

/-! ## Main statement -/

/-- Entries that can be merged yield records. -/
theorem exists_outcome_readAll {view : View} {overrides : Overrides} {root : String}
    {entries : Family → List Entry}
    (hentries : ∀ family, HasEntries view overrides root family (entries family))
    (h : Mergeable overrides entries) :
    ∃ records, (readAll view overrides root).outcome = .ok records := by
  have hservice : ∀ entry ∈ entries .services, ∃ d, entry.service root = .ok d :=
    fun entry hentry => Entry.exists_service_iff.2 (h.services entry hentry)
  have hplugin : ∀ entry ∈ entries .plugins, ∃ d, entry.plugin root = .ok d :=
    fun entry hentry => Entry.exists_plugin_iff.2 (h.plugins entry hentry)
  have hrules : ∀ entry ∈ entries .ignores, ∃ chunk, entry.rules = .ok chunk :=
    fun entry hentry => Entry.exists_rules_iff.2 (h.ignores entry hentry)
  obtain ⟨ds, hds⟩ := exists_forall₂_iff.2 hservice
  obtain ⟨plugins, hplugins⟩ := exists_forall₂_iff.2 hplugin
  obtain ⟨chunks, hchunks⟩ := exists_forall₂_iff.2 hrules
  refine ⟨⟨serviceTable ds, applyTable ((entries .applies).map Entry.applyRecord),
    pluginTable plugins, groupTable chunks⟩, outcome_readAll_eq_ok_iff.2 ⟨?_, ?_, ?_, ?_⟩⟩
  · exact outcome_readServices_eq_ok_iff.2
      ⟨_, ds, hentries .services, hds, (nodup_serviceName?_iff hds).1 h.distinct, rfl⟩
  · exact outcome_readApplies_eq_ok_iff.2
      ⟨_, _, hentries .applies, forall₂_applyOfEntry_iff.2 ⟨h.applies, rfl⟩,
        agree_map_applyRecord_iff.2 h.agree, rfl⟩
  · exact outcome_readPlugins_eq_ok_iff.2 ⟨_, plugins, hentries .plugins, hplugins, rfl⟩
  · exact outcome_readIgnores_eq_ok_iff.2 ⟨_, chunks, hentries .ignores, hchunks, rfl⟩

/-- Records that are read are the merge of entries that can be merged. -/
theorem exists_isMergeOf {view : View} {overrides : Overrides} {root : String}
    {records : Records} (h : (readAll view overrides root).outcome = .ok records) :
    ∃ entries : Family → List Entry,
      (∀ family, HasEntries view overrides root family (entries family)) ∧
        Mergeable overrides entries ∧ IsMergeOf root entries records := by
  obtain ⟨hservices, happlies, hplugins, hignores⟩ := outcome_readAll_eq_ok_iff.1 h
  obtain ⟨Es, ds, hEs, hds, hnodup, hstable⟩ := outcome_readServices_eq_ok_iff.1 hservices
  obtain ⟨Ea, as, hEa, has, hagree, hatable⟩ := outcome_readApplies_eq_ok_iff.1 happlies
  obtain ⟨Ep, ps, hEp, hps, hptable⟩ := outcome_readPlugins_eq_ok_iff.1 hplugins
  obtain ⟨Ei, chunks, hEi, hchunks, hitable⟩ := outcome_readIgnores_eq_ok_iff.1 hignores
  obtain ⟨happly, rfl⟩ := forall₂_applyOfEntry_iff.1 has
  refine ⟨Family.each Es Ea Ep Ei, ?_, ?_, ?_⟩
  · rintro (_ | _ | _ | _)
    · exact hEs
    · exact hEa
    · exact hEp
    · exact hEi
  · exact {
      services := fun entry hentry =>
        Entry.exists_service_iff.1 (exists_forall₂_iff.1 ⟨ds, hds⟩ entry hentry)
      applies := happly
      plugins := fun entry hentry =>
        Entry.exists_plugin_iff.1 (exists_forall₂_iff.1 ⟨ps, hps⟩ entry hentry)
      ignores := fun entry hentry =>
        Entry.exists_rules_iff.1 (exists_forall₂_iff.1 ⟨chunks, hchunks⟩ entry hentry)
      distinct := (nodup_serviceName?_iff hds).2 hnodup
      agree := agree_map_applyRecord_iff.1 hagree }
  · refine ⟨⟨ds, hds, hnodup, ?_, ?_⟩, ?_, ⟨ps, hps, ?_, ?_⟩, ⟨_, forall₂_rules hchunks, ?_⟩⟩
    · intro contract id d
      rw [hstable, serviceAt_serviceTable_eq_some_iff hnodup, ServiceDefinition.name,
        Prod.mk.injEq]
    · intro contract
      rw [hstable, mem_serviceTable]
    · intro contract
      show records.applies[contract]? =
        mergeApplies ((Ea.map Entry.applyRecord).filter (·.contract = contract))
      rw [hatable, getElem?_applyTable]
      intro record hrecord
      obtain ⟨entry, -, rfl⟩ := List.mem_map.1 hrecord
      rfl
    · intro contract
      rw [hptable, getD_pluginTable]
    · intro contract
      rw [hptable, mem_pluginTable]
    · intro contract
      rw [hitable, getD_groupTable_rules, List.flatMap_def]
      intro chunk hchunk rule hrule
      obtain ⟨entry, -, hentry⟩ := (mem_iff_of_forall₂ hchunks).1 hchunk
      exact contract_of_mem_rules hentry hrule

/-- **A conflict is kept only where it does not count**: a record with one stands only under a
contract whose apply variable is set. -/
theorem mem_apply_of_conflict {view : View} {overrides : Overrides} {root : String}
    {records : Records} (h : (readAll view overrides root).outcome = .ok records)
    {contract : String} {record : ApplyRecord} (hrecord : records.applies[contract]? = some record)
    (hconflict : record.conflict ≠ none) : contract ∈ overrides.apply := by
  obtain ⟨entries, -, hmergeable, hmerge⟩ := exists_isMergeOf h
  by_contra hset
  refine hconflict ((hmerge.conflict_eq_none_iff hrecord).2 ?_)
  rintro first hfirst second hsecond rfl hsame
  exact hmergeable.agree first hfirst second hsecond hsame.symm hset

/-- **The records are exactly what the entries hold.** Reading everything below a root succeeds
exactly when the entries of all families are there and can be merged; the records are then their
merge. -/
theorem readAll_merges (view : View) (overrides : Overrides) (root : String) :
    ((∃ records, (readAll view overrides root).outcome = .ok records) ↔
      ∃ entries : Family → List Entry,
        (∀ family, HasEntries view overrides root family (entries family)) ∧
          Mergeable overrides entries) ∧
    ∀ records, (readAll view overrides root).outcome = .ok records →
      ∀ entries : Family → List Entry,
        (∀ family, HasEntries view overrides root family (entries family)) →
          IsMergeOf root entries records := by
  refine ⟨⟨?_, ?_⟩, ?_⟩
  · rintro ⟨records, h⟩
    obtain ⟨entries, hentries, hmergeable, -⟩ := exists_isMergeOf h
    exact ⟨entries, hentries, hmergeable⟩
  · rintro ⟨entries, hentries, hmergeable⟩
    exact exists_outcome_readAll hentries hmergeable
  · intro records h entries hentries
    obtain ⟨entries', hentries', -, hmerge⟩ := exists_isMergeOf h
    -- a family has one list of entries at most
    obtain rfl : entries = entries' :=
      funext fun family => (hentries family).unique (hentries' family)
    exact hmerge

end Records

end Wiring
