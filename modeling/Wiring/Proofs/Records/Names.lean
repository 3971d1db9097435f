import Wiring.Proofs.Definition.RoundTrip
import Wiring.Proofs.Records.Merging

/-!
# Records · Names and references that are read

What every name and every reference among the records looks like. Apply and ignore entries spell a
contract as their whole key and are refused where it is blank; service and plugin entries spell it
as a part of their key, and nothing asks whether the part is blank. So all names are trimmed and
free of the sign between parts (`IsKeyPart`), all references can be written and read back
(`Implementation.Proper`), and the contracts of apply and ignore records are not empty. Main
statement: the other names are all nonempty exactly when no service entry leaves its contract or its
id blank and no plugin entry its contract (`readAll_names`).
-/

namespace Wiring

/-! ## Names -/

/-- Whether a part of a key names something: it is not empty. -/
structure IsName (name : String) : Prop extends IsKeyPart name where
  /-- The name is not empty. -/
  nonempty : name ≠ ""

/-- A part of a key is a name exactly if it is not empty. -/
theorem IsKeyPart.isName_iff {part : String} (h : IsKeyPart part) : IsName part ↔ part ≠ "" :=
  ⟨IsName.nonempty, fun hne => ⟨h, hne⟩⟩

/-- A key that is a contract and nothing else names it. -/
theorem IsContractKey.isName {key : String} (h : IsContractKey key) : IsName (Text.trim key) :=
  ⟨⟨by simp, h.2⟩, h.1⟩

namespace Entry

/-- Whether a service entry leaves neither its contract nor its id blank. -/
def NamesService (entry : Entry) : Prop :=
  ∀ contract id, serviceName? entry.key = some (contract, id) → contract ≠ "" ∧ id ≠ ""

/-- Whether a plugin entry does not leave its contract blank. -/
def NamesPlugin (entry : Entry) : Prop :=
  ∀ contract priority, pluginName? entry.key = some (contract, priority) → contract ≠ ""

variable {root : String} {entry : Entry}

/-- A service entry names what it defines exactly if contract and id are names. -/
theorem namesService_iff {d : ServiceDefinition} (h : entry.service root = .ok d) :
    entry.NamesService ↔ IsName d.contract ∧ IsName d.id := by
  have hproper := ServiceDefinition.proper_of_ofEntry h
  rw [NamesService, serviceName?_of_service h, hproper.contract.isName_iff, hproper.id.isName_iff]
  simp

/-- A plugin entry names what it defines exactly if the contract is a name. -/
theorem namesPlugin_iff {d : PluginDefinition} (h : entry.plugin root = .ok d) :
    entry.NamesPlugin ↔ IsName d.contract := by
  have hproper := PluginDefinition.proper_of_ofEntry h
  rw [NamesPlugin, pluginName?_of_plugin h, hproper.contract.isName_iff]
  simp

/-- The reference of a rule can have been read. -/
theorem proper_of_rule {item : String} {rule : IgnoreRule} (hitem : item ∈ commaItems entry.value)
    (h : entry.rule item = .ok rule) : rule.ignored.Proper := by
  obtain ⟨ignored, hparse, rfl⟩ := rule_eq_ok_iff.1 h
  exact Implementation.proper_of_parse (trimChars_ne_nil_of_mem_commaItems hitem) hparse

end Entry

/-! ## What is asked of records -/

namespace Records

/-- Whether all names among the records have a property: the contracts of the four families and the
ids of the service definitions. -/
structure NamesSatisfy (P : String → Prop) (records : Records) : Prop where
  /-- The contracts of the service definitions. -/
  services : ∀ contract ∈ records.services, P contract
  /-- The ids of the service definitions. -/
  ids : ∀ contract id d, serviceAt records.services contract id = some d → P id
  /-- The contracts of the apply records. -/
  applies : ∀ contract ∈ records.applies, P contract
  /-- The contracts of the plugin definitions. -/
  plugins : ∀ contract ∈ records.plugins, P contract
  /-- The contracts of the ignore rules. -/
  ignores : ∀ contract ∈ records.ignores, P contract

/-- Whether all references to implementations among the records have a property. -/
structure ReferencesSatisfy (P : Implementation → Prop) (records : Records) : Prop where
  /-- The implementations of the service definitions. -/
  services : ∀ contract id d, serviceAt records.services contract id = some d →
    P d.implementation
  /-- The implementations of the plugin definitions. -/
  plugins : ∀ contract, ∀ d ∈ records.plugins.getD contract [], P d.implementation
  /-- What the ignore rules disable. -/
  ignores : ∀ contract, ∀ rule ∈ records.ignores.getD contract [], P rule.ignored

/-! ## Family by family -/

variable {P : String → Prop} {root : String} {entries : List Entry}

/-- The names in a table of service definitions are those of the definitions. -/
theorem forall_names_serviceTable_iff {ds : List ServiceDefinition}
    (h : (ds.map ServiceDefinition.name).Nodup) :
    ((∀ contract ∈ serviceTable ds, P contract) ∧
        ∀ contract id d, serviceAt (serviceTable ds) contract id = some d → P id) ↔
      ∀ d ∈ ds, P d.contract ∧ P d.id := by
  simp only [mem_serviceTable, serviceAt_serviceTable_eq_some_iff h, ServiceDefinition.name,
    Prod.mk.injEq]
  constructor
  · rintro ⟨hcontracts, hids⟩ d hd
    exact ⟨hcontracts _ ⟨d, hd, rfl⟩, hids _ _ d ⟨hd, rfl, rfl⟩⟩
  · intro hall
    refine ⟨?_, ?_⟩
    · rintro contract ⟨d, hd, rfl⟩
      exact (hall d hd).1
    · rintro contract id d ⟨hd, rfl, rfl⟩
      exact (hall d hd).2

/-- The contracts in a table of plugin definitions are those of the definitions. -/
theorem forall_mem_pluginTable_iff {ds : List PluginDefinition} :
    (∀ contract ∈ pluginTable ds, P contract) ↔ ∀ d ∈ ds, P d.contract := by
  simp only [mem_pluginTable]
  constructor
  · exact fun hall d hd => hall _ ⟨d, hd, rfl⟩
  · rintro hall contract ⟨d, hd, rfl⟩
    exact hall d hd

/-- Something holds of all definitions exactly when it holds of all entries that hold them. -/
theorem forall_mem_iff_of_forall₂ {α β : Type} {f : α → Except SyntaxError β} {xs : List α}
    {ys : List β} (h : List.Forall₂ (fun x y => f x = .ok y) xs ys) {p : α → Prop} {q : β → Prop}
    (hpq : ∀ x y, f x = .ok y → (p x ↔ q y)) : (∀ x ∈ xs, p x) ↔ ∀ y ∈ ys, q y := by
  induction h with
  | nil => simp
  | cons hxy _ ih => simp only [List.forall_mem_cons, hpq _ _ hxy, ih]

/-- The contract of every apply record is a name. -/
theorem isName_of_mem_applyTable
    (h : ∀ entry ∈ entries, entry.IsApplyEntry) {contract : String}
    (hmem : contract ∈ applyTable (entries.map Entry.applyRecord)) : IsName contract := by
  rw [Std.ExtTreeMap.mem_iff_isSome_getElem?, Option.isSome_iff_exists] at hmem
  obtain ⟨merged, hmerged⟩ := hmem
  have hid := map_chosenId_applyTable (entries.map Entry.applyRecord) contract
  rw [hmerged, Option.map_some, eq_comm, Option.map_eq_some_iff] at hid
  obtain ⟨record, hrecord, -⟩ := hid
  -- the first record of the contract is that of an entry whose whole key it is
  obtain ⟨hmem, hcontract⟩ := List.mem_filter.1 (List.mem_of_mem_head? hrecord)
  obtain ⟨entry, hentry, rfl⟩ := List.mem_map.1 hmem
  rw [← of_decide_eq_true hcontract]
  exact (h entry hentry).1.isName

/-- The contract of every group of ignore rules is a name, and every rule can have been read. -/
theorem names_of_rules {chunks : List (String × List IgnoreRule)}
    (h : List.Forall₂ (fun entry chunk => entry.rules = .ok chunk) entries chunks) :
    (∀ contract ∈ groupTable chunks, IsName contract) ∧
      ∀ contract, ∀ rule ∈ (groupTable chunks).getD contract [], rule.ignored.Proper := by
  have hchunk : ∀ chunk ∈ chunks, IsName chunk.1 ∧ ∀ rule ∈ chunk.2, rule.ignored.Proper := by
    rintro ⟨contract, rules⟩ hchunk
    obtain ⟨entry, -, hentry⟩ := (mem_iff_of_forall₂ h).1 hchunk
    obtain ⟨hkey, -, rfl, hrules⟩ := Entry.rules_eq_ok_iff.1 hentry
    refine ⟨hkey.isName, fun rule hrule => ?_⟩
    obtain ⟨item, hitem, hread⟩ := (mem_iff_of_forall₂ hrules).1 hrule
    exact Entry.proper_of_rule hitem hread
  refine ⟨?_, ?_⟩
  · intro contract hcontract
    obtain ⟨chunk, hmem, rfl⟩ := List.mem_map.1 ((mem_groupTable _ _).1 hcontract)
    exact (hchunk chunk hmem).1
  · intro contract rule hrule
    rw [getD_groupTable] at hrule
    obtain ⟨chunk, hmem, hrule⟩ := List.mem_flatMap.1 hrule
    exact (hchunk chunk (List.mem_filter.1 hmem).1).2 rule hrule

/-- What is asked of all names is asked of those of the definitions, where the contracts of the
apply and the ignore records are names. -/
theorem namesSatisfy_iff {ds : List ServiceDefinition} {ps : List PluginDefinition}
    {applies : Table ApplyRecord} {ignores : Table (List IgnoreRule)}
    (hnodup : (ds.map ServiceDefinition.name).Nodup) (hname : ∀ name, IsName name → P name)
    (happlies : ∀ contract ∈ applies, IsName contract)
    (hignores : ∀ contract ∈ ignores, IsName contract) :
    NamesSatisfy P ⟨serviceTable ds, applies, pluginTable ps, ignores⟩ ↔
      (∀ d ∈ ds, P d.contract ∧ P d.id) ∧ ∀ d ∈ ps, P d.contract := by
  rw [← forall_names_serviceTable_iff hnodup, ← forall_mem_pluginTable_iff]
  constructor
  · exact fun hall => ⟨⟨hall.services, hall.ids⟩, hall.plugins⟩
  · rintro ⟨⟨hcontracts, hids⟩, hplugins⟩
    exact ⟨hcontracts, hids, fun contract hmem => hname _ (happlies contract hmem), hplugins,
      fun contract hmem => hname _ (hignores contract hmem)⟩

/-! ## Main statement -/

/-- **The names and references that are read.** All names are trimmed parts of keys, those of apply
and ignore records are not empty, and all references can have been read. All names are nonempty
exactly when no service entry leaves its contract or id blank and no plugin entry its contract. -/
theorem readAll_names {view : View} {overrides : Overrides} {root : String} {records : Records}
    (h : (readAll view overrides root).outcome = .ok records) :
    records.NamesSatisfy IsKeyPart ∧
      (∀ contract ∈ records.applies, IsName contract) ∧
      (∀ contract ∈ records.ignores, IsName contract) ∧
      records.ReferencesSatisfy Implementation.Proper ∧
      ∃ entries : Family → List Entry,
        (∀ family, HasEntries view overrides root family (entries family)) ∧
        (records.NamesSatisfy IsName ↔ (∀ entry ∈ entries .services, entry.NamesService) ∧
          ∀ entry ∈ entries .plugins, entry.NamesPlugin) := by
  obtain ⟨hservices, happlies, hplugins, hignores⟩ := outcome_readAll_eq_ok_iff.1 h
  obtain ⟨Es, ds, hEs, hds, hnodup, hstable⟩ := outcome_readServices_eq_ok_iff.1 hservices
  obtain ⟨Ea, as, hEa, has, -, hatable⟩ := outcome_readApplies_eq_ok_iff.1 happlies
  obtain ⟨Ep, ps, hEp, hps, hptable⟩ := outcome_readPlugins_eq_ok_iff.1 hplugins
  obtain ⟨Ei, chunks, hEi, hchunks, hitable⟩ := outcome_readIgnores_eq_ok_iff.1 hignores
  obtain ⟨happly, rfl⟩ := forall₂_applyOfEntry_iff.1 has
  obtain ⟨services, applies, plugins, ignores⟩ := records
  obtain ⟨rfl, rfl⟩ : services = serviceTable ds ∧ plugins = pluginTable ps := ⟨hstable, hptable⟩
  obtain ⟨rfl, rfl⟩ : applies = applyTable (Ea.map Entry.applyRecord) ∧
    ignores = groupTable chunks := ⟨hatable, hitable⟩
  have hdproper : ∀ d ∈ ds, d.Proper := fun d hd => by
    obtain ⟨entry, -, hentry⟩ := (mem_iff_of_forall₂ hds).1 hd
    exact ServiceDefinition.proper_of_ofEntry hentry
  have hpproper : ∀ d ∈ ps, d.Proper := fun d hd => by
    obtain ⟨entry, -, hentry⟩ := (mem_iff_of_forall₂ hps).1 hd
    exact PluginDefinition.proper_of_ofEntry hentry
  have hanames : ∀ contract ∈ applyTable (Ea.map Entry.applyRecord), IsName contract :=
    fun contract => isName_of_mem_applyTable happly
  obtain ⟨hinames, hiproper⟩ := names_of_rules hchunks
  refine ⟨?_, hanames, hinames, ⟨?_, ?_, hiproper⟩, Family.each Es Ea Ep Ei, ?_, ?_⟩
  · exact (namesSatisfy_iff hnodup (fun _ hname => hname.toIsKeyPart) hanames hinames).2
      ⟨fun d hd => ⟨(hdproper d hd).contract, (hdproper d hd).id⟩,
        fun d hd => (hpproper d hd).contract⟩
  · intro contract id d hd
    exact (hdproper d ((serviceAt_serviceTable_eq_some_iff hnodup).1 hd).1).implementation
  · intro contract d hd
    rw [getD_pluginTable] at hd
    exact (hpproper d (List.mem_filter.1 hd).1).implementation
  · rintro (_ | _ | _ | _)
    exacts [hEs, hEa, hEp, hEi]
  · rw [namesSatisfy_iff hnodup (fun _ => id) hanames hinames]
    exact (and_congr (forall_mem_iff_of_forall₂ hds fun _ _ => Entry.namesService_iff)
      (forall_mem_iff_of_forall₂ hps fun _ _ => Entry.namesPlugin_iff)).symm

/-- A module whose references have blanks around their names and in their arguments. -/
def namedModule : List Enumerator.Embedded :=
  [⟨"a", "META-INF/spi/service.properties", "c>x>library = demo.A ( 1 ) ".toUTF8⟩,
    ⟨"a", "META-INF/spi/plugin.properties", "p>1 = demo.B ".toUTF8⟩]

/-- What is read of it. -/
def namedRecords : Records where
  services := serviceTable [⟨"c", "x", .library, ⟨"demo.A", some " 1 "⟩, "META-INF/spi/",
    ⟨"embedded:a/META-INF/spi/service.properties"⟩⟩]
  applies := ∅
  plugins := pluginTable [⟨"p", 1, ⟨"demo.B", none⟩, "META-INF/spi/",
    ⟨"embedded:a/META-INF/spi/plugin.properties"⟩, true, none⟩]
  ignores := ∅

/-- The names and references of that module. -/
theorem readAll_names_namedModule :
    (readAll (Enumerator.viewOf namedModule) ⟨∅, ∅, ∅⟩ "META-INF/spi/").outcome =
        .ok namedRecords ∧
      namedRecords.NamesSatisfy IsKeyPart ∧
      namedRecords.ReferencesSatisfy Implementation.Proper := by
  have hread : (readAll (Enumerator.viewOf namedModule) ⟨∅, ∅, ∅⟩ "META-INF/spi/").outcome =
      .ok namedRecords := by decide +kernel
  obtain ⟨hnames, -, -, hreferences, -⟩ := readAll_names hread
  exact ⟨hread, hnames, hreferences⟩

/-- A module that leaves a contract and an id of its service definitions blank, and a contract of
its plugin definitions. -/
def blankModule : List Enumerator.Embedded :=
  [⟨"a", "META-INF/spi/service.properties", ">x>library=demo.A\nc>>library=demo.A".toUTF8⟩,
    ⟨"a", "META-INF/spi/plugin.properties", ">1=demo.A".toUTF8⟩]

/-- **Blank names are read**: the definitions of that module stand under empty names. -/
theorem blank_names_read :
    ∃ records, (readAll (Enumerator.viewOf blankModule) ⟨∅, ∅, ∅⟩ "META-INF/spi/").outcome =
        .ok records ∧
      "" ∈ records.services ∧ (serviceAt records.services "c" "").isSome ∧ "" ∈ records.plugins ∧
      ¬records.NamesSatisfy IsName := by
  refine ⟨⟨serviceTable [⟨"", "x", .library, ⟨"demo.A", none⟩, "META-INF/spi/",
      ⟨"embedded:a/META-INF/spi/service.properties"⟩⟩, ⟨"c", "", .library, ⟨"demo.A", none⟩,
      "META-INF/spi/", ⟨"embedded:a/META-INF/spi/service.properties"⟩⟩], ∅,
    pluginTable [⟨"", 1, ⟨"demo.A", none⟩, "META-INF/spi/",
      ⟨"embedded:a/META-INF/spi/plugin.properties"⟩, true, none⟩], ∅⟩, by decide +kernel,
    by decide +kernel, by decide +kernel, by decide +kernel, ?_⟩
  intro hnames
  exact (hnames.services "" (by decide +kernel)).nonempty rfl

end Records

end Wiring
