import Wiring.Proofs.Definition.RoundTrip
import Wiring.Proofs.Records.Reordered

/-!
# Records · Tables written as one resource

A table of service definitions can be written as a single property list and read back. The list
holds one entry for each definition (`definitionsOf`), in any order. What comes back is the same
table with all definitions standing in the new resource (`relocate`). Main statement:
`definitions_survive_rewriting`, which says the same of single definitions of either kind. The keys
of the entries are distinct because the names of the definitions are
(`ServiceDefinition.serviceName?_key`), so no entry of the list overwrites another. Other families
and the reports on the way are not looked at.
-/

namespace Wiring

/-! ## The definitions of a table -/

/-- The definitions of a table, contract by contract. -/
def definitionsOf (services : Table (Table ServiceDefinition)) : List ServiceDefinition :=
  services.toList.flatMap fun service => service.2.toList.map Prod.snd

/-- The definition as it would stand in another resource. -/
def ServiceDefinition.movedTo (source : Location) (d : ServiceDefinition) : ServiceDefinition :=
  { d with source }

/-- The table with all definitions moved to one resource. -/
def relocate (source : Location) (services : Table (Table ServiceDefinition)) :
    Table (Table ServiceDefinition) :=
  services.map fun _ definitions => definitions.map fun _ d => d.movedTo source

/-- The definitions of a table are those that stand under a contract and an id. -/
theorem mem_definitionsOf {services : Table (Table ServiceDefinition)} {d : ServiceDefinition} :
    d ∈ definitionsOf services ↔ ∃ contract id, serviceAt services contract id = some d := by
  simp only [definitionsOf, List.mem_flatMap, List.mem_map, serviceAt,
    Std.ExtTreeMap.getD_eq_getD_getElem?]
  constructor
  · rintro ⟨⟨contract, definitions⟩, hservice, ⟨id, d⟩, hd, rfl⟩
    rw [Std.ExtTreeMap.mem_toList_iff_getElem?_eq_some] at hservice hd
    exact ⟨contract, id, by rw [hservice]; exact hd⟩
  · rintro ⟨contract, id, hd⟩
    cases hservice : services[contract]? with
    | none => simp [hservice] at hd
    | some definitions =>
      rw [hservice] at hd
      exact ⟨(contract, definitions), Std.ExtTreeMap.mem_toList_iff_getElem?_eq_some.2 hservice,
        (id, d), Std.ExtTreeMap.mem_toList_iff_getElem?_eq_some.2 hd, rfl⟩

/-- Where every definition stands under its own name, none is listed twice. -/
theorem nodup_definitionsOf {services : Table (Table ServiceDefinition)}
    (h : ∀ contract id d, serviceAt services contract id = some d → d.name = (contract, id)) :
    (definitionsOf services).Nodup := by
  have hname {service : String × Table ServiceDefinition} (hservice : service ∈ services.toList)
      {pair : String × ServiceDefinition} (hpair : pair ∈ service.2.toList) :
      pair.2.name = (service.1, pair.1) := by
    rw [Std.ExtTreeMap.mem_toList_iff_getElem?_eq_some] at hservice hpair
    refine h service.1 pair.1 pair.2 ?_
    rw [serviceAt, Std.ExtTreeMap.getD_eq_getD_getElem?, hservice]
    exact hpair
  rw [definitionsOf, List.nodup_flatMap]
  constructor
  · intro service hservice
    rw [List.Nodup, List.pairwise_map]
    refine service.2.distinct_keys_toList.imp_of_mem fun {first second} hfirst hsecond hne heq => ?_
    have hsame := (hname hservice hfirst).symm.trans
      ((congrArg _ heq).trans (hname hservice hsecond))
    exact hne (Std.compare_eq_iff_eq.2 (Prod.mk.inj hsame).2)
  · refine services.distinct_keys_toList.imp_of_mem
      fun {first second} hfirst hsecond hne d hd hd' => ?_
    obtain ⟨pair, hpair, rfl⟩ := List.mem_map.1 hd
    obtain ⟨pair', hpair', heq⟩ := List.mem_map.1 hd'
    have hsame := (hname hsecond hpair').symm.trans ((congrArg _ heq).trans (hname hfirst hpair))
    exact hne (Std.compare_eq_iff_eq.2 (Prod.mk.inj hsame).1.symm)

/-- **The definitions of a table** are those it was filled from, if they have distinct names. -/
theorem definitionsOf_serviceTable_perm {ds : List ServiceDefinition}
    (h : (ds.map ServiceDefinition.name).Nodup) : (definitionsOf (serviceTable ds)).Perm ds := by
  refine (List.perm_ext_iff_of_nodup (nodup_definitionsOf fun contract id d hd => ?_)
    (List.Nodup.of_map _ h)).2 fun d => ?_
  · exact ((serviceAt_serviceTable_eq_some_iff h).1 hd).2
  · simp only [mem_definitionsOf, serviceAt_serviceTable_eq_some_iff h]
    constructor
    · rintro ⟨contract, id, hd, -⟩
      exact hd
    · intro hd
      exact ⟨d.contract, d.id, hd, rfl⟩

/-- In a relocated table each definition is found under its old name, moved. -/
theorem serviceAt_relocate (source : Location) (services : Table (Table ServiceDefinition))
    (contract id : String) :
    serviceAt (relocate source services) contract id =
      (serviceAt services contract id).map (·.movedTo source) := by
  rw [serviceAt, serviceAt, relocate, Std.ExtTreeMap.getD_eq_getD_getElem?,
    Std.ExtTreeMap.getD_eq_getD_getElem?, Std.ExtTreeMap.getElem?_map]
  cases services[contract]? with
  | none => simp
  | some definitions => exact Std.ExtTreeMap.getElem?_map

/-- Moving the definitions of a table is filling it from moved definitions. -/
theorem relocate_serviceTable (source : Location) (ds : List ServiceDefinition) :
    relocate source (serviceTable ds) = serviceTable (ds.map (·.movedTo source)) := by
  refine services_ext (fun contract => ?_) fun contract id => ?_
  · rw [relocate, Std.ExtTreeMap.mem_map, mem_serviceTable, mem_serviceTable]
    simp [ServiceDefinition.movedTo]
  · rw [serviceAt_relocate, serviceAt_serviceTable, serviceAt_serviceTable, ← List.map_reverse,
      List.find?_map]
    rfl

/-! ## The written list -/

/-- The property list that holds an entry for each definition. -/
def writtenServices (ds : List ServiceDefinition) : Properties :=
  .ofList (ds.map ServiceDefinition.toEntry)

/-- The key of a proper service definition spells its name. -/
theorem ServiceDefinition.Proper.serviceName?_key {d : ServiceDefinition} (h : d.Proper) :
    serviceName? d.toEntry.1 = some d.name := by
  rw [serviceName?, h.keyParts_key]
  simp only [h.contract.trim_eq, h.id.trim_eq]
  rfl

/-- Definitions with distinct names are written under distinct keys. -/
theorem entries_writtenServices {ds : List ServiceDefinition} (hproper : ∀ d ∈ ds, d.Proper)
    (h : (ds.map ServiceDefinition.name).Nodup) :
    (writtenServices ds).entries = ds.map ServiceDefinition.toEntry := by
  apply Properties.entries_ofList_of_nodup
  refine List.Nodup.of_map serviceName? ?_
  have hnames : ((ds.map ServiceDefinition.toEntry).map Prod.fst).map serviceName? =
      (ds.map ServiceDefinition.name).map some := by
    simp only [List.map_map, List.map_inj_left, Function.comp_apply]
    intro d hd
    rw [(hproper d hd).serviceName?_key]
  rw [hnames]
  exact h.map (Option.some_injective _)

/-- The list is read back from its bytes as it is. -/
theorem decode_writtenServices {ds : List ServiceDefinition} (hproper : ∀ d ∈ ds, d.Proper)
    (h : (ds.map ServiceDefinition.name).Nodup) (source : Location) :
    Resource.decode ⟨source, (writtenServices ds).toText.toUTF8⟩ =
      .ok (ds.map fun d => ⟨d.toEntry.1, d.toEntry.2, source⟩) := by
  have hentries := entries_writtenServices hproper h
  have hparse : Properties.parse (writtenServices ds).toText source.text =
      .ok (writtenServices ds) := by
    refine Properties.parse_toText_of_not_beginsBare (fun key hkey => ?_) _
    rw [Properties.keys, hentries, List.map_map] at hkey
    obtain ⟨d, hd, rfl⟩ := List.mem_map.1 hkey
    exact (hproper d hd).beginsBare_key
  rw [Resource.decode, Properties.ofBytes_toUTF8, hparse]
  show Except.ok (entriesOf source (writtenServices ds)) = _
  rw [entriesOf, hentries, List.map_map]
  rfl

namespace Records

open Enumerator (Embedded viewOf)

/-- What was read is proper and bears the root below which it was read. -/
theorem proper_of_readServices {root : String} {entries : List Entry} {ds : List ServiceDefinition}
    (h : List.Forall₂ (fun entry d => entry.service root = .ok d) entries ds) :
    ∀ d ∈ ds, d.Proper ∧ d.root = root := by
  intro d hd
  obtain ⟨entry, -, hservice⟩ := (mem_iff_of_forall₂ h).1 hd
  refine ⟨ServiceDefinition.proper_of_ofEntry hservice, ?_⟩
  obtain ⟨_, _, _, _, _, -, -, -, rfl⟩ := Entry.service_eq_ok_iff.1 hservice
  rfl

/-- **A table written as one resource** is read back with all definitions standing there. -/
theorem readServices_writtenServices {view view' : View} {overrides overrides' : Overrides}
    {root : String} {services : Table (Table ServiceDefinition)}
    (hread : (readServices view overrides root).outcome = .ok services)
    {ds : List ServiceDefinition} (hds : ds.Perm (definitionsOf services)) {source : Location}
    (hfind : view'.find (root ++ Family.services.file) =
      .ok [⟨source, (writtenServices ds).toText.toUTF8⟩])
    (hkept : fingerprint (writtenServices ds).toText.toUTF8 ∉ overrides'.excluded) :
    (readServices view' overrides' root).outcome = .ok (relocate source services) := by
  obtain ⟨entries, found, -, hfound, hnames, rfl⟩ := outcome_readServices_eq_ok_iff.1 hread
  have hperm : ds.Perm found := hds.trans (definitionsOf_serviceTable_perm hnames)
  have hproper : ∀ d ∈ ds, d.Proper ∧ d.root = root := fun d hd =>
    proper_of_readServices hfound d (hperm.mem_iff.1 hd)
  have hnames' : (ds.map ServiceDefinition.name).Nodup := (hperm.map _).nodup_iff.2 hnames
  have hdecode := decode_writtenServices (fun d hd => (hproper d hd).1) hnames' source
  refine outcome_readServices_eq_ok_iff.2 ⟨_, ds.map (·.movedTo source),
    .of_singleton hfind hkept hdecode, ?_, ?_, ?_⟩
  · rw [List.forall₂_map_left_iff, List.forall₂_map_right_iff, List.forall₂_same]
    intro d hd
    rw [← (hproper d hd).2]
    exact (hproper d hd).1.ofEntry_toEntry source
  · rw [List.map_map]
    exact hnames'
  · rw [relocate_serviceTable]
    refine serviceTable_eq_of_perm ((hperm.map _).symm) ?_
    rw [List.map_map]
    exact hnames

/-! ## Definitions and tables -/

/-- **Writing definitions loses nothing.** A definition that was read of an entry, of a service or
of a plugin, is read again of the one entry that comes back when its list is written as a text. A
table of service definitions that was read is read again of one resource that holds all of them, in
whatever order, except that they all stand in that resource. -/
theorem definitions_survive_rewriting :
    (∀ key value root source d resource,
      ServiceDefinition.ofEntry key value root source = .ok d →
      ∃ p key' value', Properties.parse (Properties.ofList [d.toEntry]).toText resource = .ok p ∧
        p.entries = [(key', value')] ∧
        ServiceDefinition.ofEntry key' value' root source = .ok d) ∧
    (∀ key value root source d resource,
      PluginDefinition.ofEntry key value root source = .ok d →
      ∃ p key' value', Properties.parse (Properties.ofList [d.toEntry]).toText resource = .ok p ∧
        p.entries = [(key', value')] ∧
        PluginDefinition.ofEntry key' value' root source = .ok d) ∧
    ∀ view overrides root services, (readServices view overrides root).outcome = .ok services →
      ∀ view' overrides' source ds, ds.Perm (definitionsOf services) →
        view'.find (root ++ Family.services.file) =
          .ok [⟨source, (writtenServices ds).toText.toUTF8⟩] →
        fingerprint (writtenServices ds).toText.toUTF8 ∉ overrides'.excluded →
        (readServices view' overrides' root).outcome = .ok (relocate source services) := by
  refine ⟨fun key value root source d resource h => ?_,
    fun key value root source d resource h => ?_,
    fun view overrides root services h view' overrides' source ds hds hfind hkept =>
      readServices_writtenServices h hds hfind hkept⟩
  · have hproper := ServiceDefinition.proper_of_ofEntry h
    have hback := hproper.ofEntry_toEntry source
    obtain ⟨_, _, _, _, _, -, -, -, rfl⟩ :=
      (@Entry.service_eq_ok_iff root ⟨key, value, source⟩ d).1 h
    exact ⟨_, _, _, Properties.parse_toText_singleton hproper.beginsBare_key resource, rfl, hback⟩
  · have hproper := PluginDefinition.proper_of_ofEntry h
    have hback := hproper.ofEntry_toEntry source
    obtain ⟨_, _, _, -, -, rfl⟩ := (@Entry.plugin_eq_ok_iff root ⟨key, value, source⟩ d).1 h
    exact ⟨_, _, _, Properties.parse_toText_singleton hproper.beginsBare_key resource, rfl, hback⟩

/-- Two modules that define one service each. -/
def twoServices : List Embedded :=
  [⟨"a", "service.properties", "c>x>LIBRARY = p ( a(b ) ".toUTF8⟩,
    ⟨"b", "service.properties", "c>y>default=q".toUTF8⟩]

/-- The definition of the first module. -/
def serviceX : ServiceDefinition :=
  ⟨"c", "x", .library, ⟨"p", some " a(b "⟩, "", ⟨"embedded:a/service.properties"⟩⟩

/-- The definition of the second module. -/
def serviceY : ServiceDefinition :=
  ⟨"c", "y", .default, ⟨"q", none⟩, "", ⟨"embedded:b/service.properties"⟩⟩

/-- A plugin of negative priority. -/
def pluginP : PluginDefinition :=
  ⟨"c", -7, ⟨"p", some ""⟩, "", ⟨"r"⟩, true, none⟩

/-- The two services in one resource, the second one first. -/
def oneResource : View :=
  viewOf [⟨"m", "service.properties", (writtenServices [serviceY, serviceX]).toText.toUTF8⟩]

/-- A service, a plugin and a table that are written and read back. -/
theorem two_services_survive_rewriting :
    (∃ p key value, Properties.parse (Properties.ofList [serviceX.toEntry]).toText "r" = .ok p ∧
      p.entries = [(key, value)] ∧
      ServiceDefinition.ofEntry key value "" ⟨"embedded:a/service.properties"⟩ = .ok serviceX) ∧
    (∃ p key value, Properties.parse (Properties.ofList [pluginP.toEntry]).toText "r" = .ok p ∧
      p.entries = [(key, value)] ∧ PluginDefinition.ofEntry key value "" ⟨"r"⟩ = .ok pluginP) ∧
    (readServices oneResource ⟨∅, ∅, ∅⟩ "").outcome =
      .ok (relocate ⟨"embedded:m/service.properties"⟩ (serviceTable [serviceX, serviceY])) := by
  have hread : (readServices (viewOf twoServices) ⟨∅, ∅, ∅⟩ "").outcome =
      .ok (serviceTable [serviceX, serviceY]) := by decide +kernel
  have hnames : ([serviceX, serviceY].map ServiceDefinition.name).Nodup := by decide
  have hperm : [serviceY, serviceX].Perm (definitionsOf (serviceTable [serviceX, serviceY])) :=
    (List.Perm.swap _ _ _).trans (definitionsOf_serviceTable_perm hnames).symm
  obtain ⟨hservice, hplugin, htable⟩ := definitions_survive_rewriting
  refine ⟨hservice " c > x > LIBRARY " " p ( a(b ) " _ _ _ _ (by decide +kernel),
    hplugin "c>-7" "p()" _ _ _ _ (by decide +kernel),
    htable _ _ _ _ hread oneResource _ _ _ hperm rfl ?_⟩
  simp

end Records

end Wiring
