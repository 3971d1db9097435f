import Wiring.Proofs.Records.Merging
import Wiring.Proofs.Resolution.Choice
import Wiring.Proofs.Resolution.Contracts

/-!
# Resolution · Soundness

What a resolved table says about the entries it was made from. `ServiceChoice.IsSound` describes the
choice for a contract by the entries alone: its definitions are those that service entries hold, and
the reason given is borne out by the overrides, by every apply entry of the contract and by the
levels. Main statement: every choice that comes out is sound, each contract that a service entry
names has one, and an ambiguity lists exactly the definitions of the highest level, two at least. It
holds for every view, so for any number of modules, and whatever is shown.
-/

namespace Wiring

/-! ## The entries of a contract -/

/-- Whether one of the entries holds this definition of the contract. -/
def Defines (root : String) (services : List Entry) (contract : String) (d : ServiceDefinition) :
    Prop :=
  (∃ entry ∈ services, entry.service root = .ok d) ∧ d.contract = contract

/-- Whether one of the entries is an apply record of the contract that names the id. -/
def Names (applies : List Entry) (contract id : String) : Prop :=
  ∃ entry ∈ applies, Text.trim entry.key = contract ∧ Text.trim entry.value = id

/-- The ids named for a contract are those of the records that entries spell. -/
theorem names_iff {applies : List Entry} {contract id : String} :
    Names applies contract id ↔
      ∃ record ∈ (applies.map Entry.applyRecord).filter (·.contract = contract),
        record.chosenId = id := by
  simp only [Names, List.mem_filter, List.mem_map, decide_eq_true_eq]
  constructor
  · rintro ⟨entry, hentry, hcontract, hid⟩
    exact ⟨entry.applyRecord, ⟨⟨entry, hentry, rfl⟩, hcontract⟩, hid⟩
  · rintro ⟨record, ⟨⟨entry, hentry, rfl⟩, hcontract⟩, hid⟩
    exact ⟨entry, hentry, hcontract, hid⟩

namespace Records.IsMergeOf

variable {root : String} {entries : Family → List Entry} {records : Records}

/-- A contract has definitions exactly when a service entry names it. -/
theorem mem_services (h : IsMergeOf root entries records) {contract : String} :
    contract ∈ records.services ↔
      ∃ entry ∈ entries .services, ∃ id, serviceName? entry.key = some (contract, id) := by
  obtain ⟨ds, hds, -, -, hmem⟩ := h.services
  rw [hmem]
  constructor
  · rintro ⟨d, hd, rfl⟩
    obtain ⟨entry, hentry, hservice⟩ := (mem_iff_of_forall₂ hds).1 hd
    exact ⟨entry, hentry, d.id, Entry.serviceName?_of_service hservice⟩
  · rintro ⟨entry, hentry, id, hname⟩
    obtain ⟨d, hservice⟩ := exists_forall₂_iff.1 ⟨ds, hds⟩ entry hentry
    have hpair := Option.some.inj ((Entry.serviceName?_of_service hservice).symm.trans hname)
    exact ⟨d, (mem_iff_of_forall₂ hds).2 ⟨entry, hentry, hservice⟩, (Prod.mk.inj hpair).1⟩

/-- The definitions of a contract are those that service entries hold, each under its id. -/
theorem getElem?_definitions (h : IsMergeOf root entries records) {contract : String}
    {definitions : Table ServiceDefinition}
    (hdefinitions : records.services[contract]? = some definitions) {id : String}
    {d : ServiceDefinition} :
    definitions[id]? = some d ↔ Defines root (entries .services) contract d ∧ d.id = id := by
  obtain ⟨ds, hds, -, hat, -⟩ := h.services
  have hserviceAt := hat contract id d
  rw [serviceAt, Std.ExtTreeMap.getD_eq_getD_getElem?, hdefinitions, Option.getD_some,
    mem_iff_of_forall₂ hds] at hserviceAt
  rw [hserviceAt, Defines, and_assoc]

end Records.IsMergeOf

/-- Whether the texts show exactly the definitions of the contract that have the highest level, two
of them at least, in the order of their ids. -/
def IsAmbiguity (root : String) (services : List Entry) (contract : String)
    (conflicts : List String) : Prop :=
  ∃ top : List ServiceDefinition, conflicts = top.map ServiceDefinition.text ∧ 2 ≤ top.length ∧
    (top.Pairwise fun a b => compare a.id b.id = .lt) ∧
    ∀ d, d ∈ top ↔ Defines root services contract d ∧
      ∀ other, Defines root services contract other → other.level.rank ≤ d.level.rank

/-! ## Sound choices -/

namespace ServiceChoice

/-- Whether the reason for which a definition of a contract is applied is borne out by the
overrides, the apply entries and the levels. -/
def IsJustified (overrides : Overrides) (applies : List Entry) (contract : String)
    (definitions : Table ServiceDefinition) (applied : ServiceDefinition) : ApplyReason → Prop
  | .override name =>
    name = Overrides.applyVariable contract ∧
      ∃ id, overrides.apply[contract]? = some id ∧ Text.trim id = applied.id
  | .record source =>
    VariableIsSilent contract definitions overrides ∧
      (∃ entry ∈ applies, Text.trim entry.key = contract ∧ entry.source = source) ∧
      ∀ id, Names applies contract id → id = applied.id
  | .highest level =>
    VariableIsSilent contract definitions overrides ∧
      (∀ first second, Names applies contract first → Names applies contract second →
        first = second) ∧
      (∀ id, Names applies contract id → definitions[id]? = none) ∧
      applied.level = level ∧
      ∀ (id : String) (d : ServiceDefinition), definitions[id]? = some d → id ≠ applied.id →
        d.level.rank < level.rank

/-- What a sound choice for a contract is. -/
structure IsSound (overrides : Overrides) (root : String) (services applies : List Entry)
    (contract : String) (choice : ServiceChoice) : Prop where
  /-- The choice is for the contract. -/
  contract_eq : choice.contract = contract
  /-- The definitions are those that entries hold, each under its id. -/
  definitions_iff : ∀ (id : String) (d : ServiceDefinition), choice.definitions[id]? = some d ↔
    Defines root services contract d ∧ d.id = id
  /-- The definition applied is one of them. -/
  applied_mem : choice.definitions[choice.applied.id]? = some choice.applied
  /-- The reason is borne out. -/
  justified : IsJustified overrides applies contract choice.definitions choice.applied choice.reason

/-- **What a tier selects is justified**, where the apply record of the contract is what its entries
merge to. -/
theorem isJustified_of_selects {overrides : Overrides} {applies : List Entry} {contract : String}
    {definitions : Table ServiceDefinition} {applied : ServiceDefinition} {reason : ApplyReason}
    (hid : ∀ (id : String) d, definitions[id]? = some d → d.id = id)
    (h : Selects contract definitions
      (mergeApplies ((applies.map Entry.applyRecord).filter (·.contract = contract))) overrides
      applied reason) :
    IsJustified overrides applies contract definitions applied reason := by
  cases h with
  | override id _ hset hd => exact ⟨rfl, id, hset, (hid _ _ hd).symm⟩
  | record record _ hvariable hrecord hagreed hd =>
    refine ⟨hvariable, ?_, ?_⟩
    · obtain ⟨first, hfirst, hsource⟩ := exists_source_of_mergeApplies hrecord
      simp only [List.mem_filter, List.mem_map, decide_eq_true_eq] at hfirst
      obtain ⟨⟨entry, hentry, rfl⟩, hcontract⟩ := hfirst
      exact ⟨entry, hentry, hcontract, hsource⟩
    · intro id hnames
      obtain ⟨other, hother, rfl⟩ := names_iff.1 hnames
      rw [chosenId_eq_of_mergeApplies hrecord hagreed hother]
      exact (hid _ _ hd).symm
  | highest _ hvariable hrecord htop =>
    have hmem : applied ∈ topmost definitions := by rw [htop]; exact List.mem_singleton_self _
    obtain ⟨-, hall⟩ := mem_topmost_iff.1 hmem
    -- all records name the id of the merged one, which no definition has
    have hnamed {id : String} (hnames : Names applies contract id) :
        ∃ merged, mergeApplies ((applies.map Entry.applyRecord).filter (·.contract = contract)) =
          some merged ∧ id = merged.chosenId := by
      obtain ⟨other, hother, rfl⟩ := names_iff.1 hnames
      obtain ⟨merged, hmerged⟩ := exists_mergeApplies hother
      exact ⟨merged, hmerged, chosenId_eq_of_mergeApplies hmerged (hrecord merged hmerged).1 hother⟩
    refine ⟨hvariable, ?_, ?_, rfl, ?_⟩
    · intro first second hfirst hsecond
      obtain ⟨merged, hmerged, rfl⟩ := hnamed hfirst
      obtain ⟨merged', hmerged', rfl⟩ := hnamed hsecond
      rw [Option.some.inj (hmerged.symm.trans hmerged')]
    · intro id hnames
      obtain ⟨merged, hmerged, rfl⟩ := hnamed hnames
      exact (hrecord merged hmerged).2
    · intro id d hd hne
      refine Nat.lt_of_le_of_ne (hall id d hd) fun hrank => hne ?_
      -- a second definition of that level would be topmost, too
      have hsecond : d ∈ topmost definitions := by
        refine mem_topmost_iff.2 ⟨⟨id, hd⟩, fun other d' hd' => ?_⟩
        rw [hrank]
        exact hall other d' hd'
      rw [htop, List.mem_singleton] at hsecond
      rw [← hsecond, hid id d hd]

end ServiceChoice

namespace Resolved

/-! ## Main statement -/

/-- Choices made from merged records are sound. -/
theorem isSound_of_outcome_resolve {overrides : Overrides} {root : String}
    {entries : Family → List Entry} {records : Records} {contract : String}
    {definitions : Table ServiceDefinition} {choice : ServiceChoice}
    (hmerge : Records.IsMergeOf root entries records)
    (hdefinitions : records.services[contract]? = some definitions)
    (h : (ServiceChoice.resolve contract definitions records.applies[contract]?
      overrides).outcome = .ok choice) :
    choice.IsSound overrides root (entries .services) (entries .applies) contract := by
  obtain ⟨hcontract, rfl, hselects⟩ := ServiceChoice.outcome_resolve_eq_ok_iff.1 h
  have hiff (id : String) (d : ServiceDefinition) : choice.definitions[id]? = some d ↔
      Defines root (entries .services) contract d ∧ d.id = id :=
    hmerge.getElem?_definitions hdefinitions
  have hid (id : String) (d : ServiceDefinition) (hd : choice.definitions[id]? = some d) :
      d.id = id := ((hiff id d).1 hd).2
  have happlied : ∃ id : String, choice.definitions[id]? = some choice.applied :=
    hselects.exists_id
  refine ⟨hcontract, hiff, ?_, ?_⟩
  · obtain ⟨id, hd⟩ := happlied
    rw [hid id _ hd]
    exact hd
  · rw [hmerge.applies] at hselects
    exact ServiceChoice.isJustified_of_selects hid hselects

/-- Where the levels decide among merged records and fail to, the ambiguity shows the definitions of
the highest level. -/
theorem isAmbiguity_of_outcome_resolve {overrides : Overrides} {root : String}
    {entries : Family → List Entry} {records : Records} {contract name : String}
    {definitions : Table ServiceDefinition} {conflicts : List String}
    (hmerge : Records.IsMergeOf root entries records)
    (hdefinitions : records.services[contract]? = some definitions)
    (h : (ServiceChoice.resolve contract definitions records.applies[contract]?
      overrides).outcome = .error (.conflict (.ambiguousLevel name conflicts))) :
    IsAmbiguity root (entries .services) name conflicts := by
  have hiff (id : String) (d : ServiceDefinition) : definitions[id]? = some d ↔
      Defines root (entries .services) contract d ∧ d.id = id :=
    hmerge.getElem?_definitions hdefinitions
  have hrecord : ∀ record ∈ records.applies[contract]?,
      record.conflict ≠ some (.ambiguousLevel name conflicts) := by
    intro record hrecord
    rw [hmerge.applies] at hrecord
    exact conflict_mergeApplies_ne_ambiguousLevel hrecord name conflicts
  obtain ⟨rfl, rfl, hseveral⟩ := ServiceChoice.eq_topmost_of_outcome_select hrecord
    (ServiceChoice.outcome_resolve_eq_error_iff.1 h)
  -- the list is not empty, because no contract stands in the table without a definition
  have hne : ServiceChoice.topmost definitions ≠ [] := by
    have hmem : name ∈ records.services :=
      Std.ExtTreeMap.mem_iff_isSome_getElem?.2 (by rw [hdefinitions]; rfl)
    obtain ⟨ds, hds, -, -, hcontracts⟩ := hmerge.services
    obtain ⟨d, hd, hcontract⟩ := (hcontracts name).1 hmem
    exact ServiceChoice.topmost_ne_nil
      ((hiff d.id d).2 ⟨⟨(mem_iff_of_forall₂ hds).1 hd, hcontract⟩, rfl⟩)
  refine ⟨_, rfl, ?_, ServiceChoice.pairwise_topmost fun id d hd => ((hiff id d).1 hd).2, ?_⟩
  · match htop : ServiceChoice.topmost definitions with
    | [] => exact absurd htop hne
    | [d] => exact absurd htop (hseveral d)
    | _ :: _ :: _ => simp
  · intro d
    rw [ServiceChoice.mem_topmost_iff]
    simp only [hiff]
    constructor
    · rintro ⟨⟨id, hd, -⟩, hall⟩
      exact ⟨hd, fun other hother => hall other.id other ⟨hother, rfl⟩⟩
    · rintro ⟨hd, hall⟩
      exact ⟨⟨d.id, hd, rfl⟩, fun id other hother => hall other hother.1⟩

/-- **Resolution is sound end to end.** What comes out has a choice for each contract that a service
entry names and for no other, and each choice is sound. Where levels are ambiguous, the error shows
exactly the definitions of the highest level. -/
theorem load_isSound (view : View) (root : String) (overrides : Overrides) :
    (∀ resolved, (load view root overrides).outcome = .ok resolved →
      ∃ services applies, HasEntries view overrides (normalizeRoot root) .services services ∧
        HasEntries view overrides (normalizeRoot root) .applies applies ∧
        (∀ contract, contract ∈ resolved.services ↔
          ∃ entry ∈ services, ∃ id, serviceName? entry.key = some (contract, id)) ∧
        ∀ (contract : String) (choice : ServiceChoice),
          resolved.services[contract]? = some choice →
            choice.IsSound overrides (normalizeRoot root) services applies contract) ∧
    ∀ contract conflicts,
      (load view root overrides).outcome = .error (.conflict (.ambiguousLevel contract conflicts)) →
        ∃ services, HasEntries view overrides (normalizeRoot root) .services services ∧
          IsAmbiguity (normalizeRoot root) services contract conflicts := by
  unfold load
  constructor
  · intro resolved h
    obtain ⟨records, hread, hresolved⟩ := Report.outcome_bind_eq_ok_iff.1 h
    obtain ⟨entries, hentries, -, hmerge⟩ := Records.exists_isMergeOf hread
    obtain ⟨-, hchoices, -⟩ := outcome_ofRecords_eq_ok_iff.1 hresolved
    refine ⟨_, _, hentries .services, hentries .applies, fun contract => ?_, ?_⟩
    · rw [mem_addChoices_iff hchoices, hmerge.mem_services]
    · intro contract choice hchoice
      obtain ⟨definitions, hdefinitions, hresolve⟩ := (getElem?_addChoices_iff hchoices).1 hchoice
      exact isSound_of_outcome_resolve hmerge hdefinitions hresolve
  · intro contract conflicts h
    rcases Report.outcome_bind_eq_error_iff.1 h with hread | ⟨records, hread, hresolved⟩
    · -- reading knows no levels
      cases Records.failsOnlyWith_readAll _ _ _ _ hread
    · obtain ⟨entries, hentries, -, hmerge⟩ := Records.exists_isMergeOf hread
      refine ⟨_, hentries .services, ?_⟩
      rcases of_outcome_ofRecords_eq_error hresolved with hchoices | hreading
      · obtain ⟨name, definitions, hdefinitions, hresolve⟩ :=
          exists_of_outcome_addChoices_eq_error hchoices
        exact isAmbiguity_of_outcome_resolve hmerge hdefinitions hresolve
      · cases hreading

end Resolved

end Wiring
