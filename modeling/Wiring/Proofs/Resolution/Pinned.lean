import Wiring.Proofs.Records.ApplyTables
import Wiring.Proofs.Records.ServiceTables
import Wiring.Proofs.Resolution.Choice
import Wiring.Proofs.Resolution.Contracts

/-!
# Resolution · Pinned contracts

What an apply variable settles that names a definition which is there. Neither disagreeing apply
records nor levels can keep the contract from being resolved to that definition: while records are
read, a disagreement about a contract whose variable is set is put off, and in the resolution the
variable comes before the record that carries it. Every conflict has a contract that it is about
(`ConflictError.contract`), and main statement is that with the variable set the contract is
resolved to the definition or something else fails (`load_withApply_settles`). What else may fail is
not said: other contracts, duplicate ids and malformed text are beyond the variable.
-/

namespace Wiring

/-! ## What a conflict is about -/

/-- The contract that a conflict is about. -/
def ConflictError.contract : ConflictError → String
  | duplicateId contract _ _ _ => contract
  | ambiguousLevel contract _ => contract
  | applyDisagreement contract _ _ _ _ => contract

/-- Whether an error is a conflict about a contract. -/
def Error.IsConflictAbout (contract : String) (e : Error) : Prop :=
  ∃ cause, e = .conflict cause ∧ cause.contract = contract

/-- An error over a text is no conflict. -/
theorem Error.OfText.not_isConflictAbout {e : Error} (h : e.OfText) (contract : String) :
    ¬e.IsConflictAbout contract := by
  rintro ⟨cause, rfl, -⟩
  cases h

/-- A conflict that a record carries is about its contract. -/
theorem contract_of_conflict_applyTable {records : List ApplyRecord}
    (h : ∀ record ∈ records, record.conflict = none) {contract : String} {record : ApplyRecord}
    (hrecord : (applyTable records)[contract]? = some record) {conflict : ConflictError}
    (hconflict : record.conflict = some conflict) : conflict.contract = contract := by
  rw [getElem?_applyTable h] at hrecord
  cases hfilter : records.filter (·.contract = contract) with
  | nil =>
    rw [hfilter] at hrecord
    cases hrecord
  | cons first later =>
    rw [hfilter] at hrecord
    obtain rfl := Option.some.inj hrecord
    obtain ⟨other, hother, rfl⟩ := Option.map_eq_some_iff.1 hconflict
    have hmem : other ∈ records.filter (·.contract = contract) := by
      rw [hfilter]
      exact List.mem_cons_of_mem first (List.mem_of_find?_eq_some hother)
    exact of_decide_eq_true (List.mem_filter.1 hmem).2

/-- **A contract that cannot be resolved** makes a conflict about it. -/
theorem ServiceChoice.isConflictAbout_of_outcome_select {contract : String}
    {definitions : Table ServiceDefinition} {apply : Option ApplyRecord} {overrides : Overrides}
    (hrecord : ∀ record conflict, apply = some record → record.conflict = some conflict →
      conflict.contract = contract) {e : Error}
    (h : (select contract definitions apply overrides).outcome = .error e) :
    e.IsConflictAbout contract := by
  rcases outcome_select_cases contract definitions apply overrides with
    ⟨id, d, -, -, hselect⟩ | ⟨-, ⟨record, conflict, happly, hconflict, hselect⟩ |
      ⟨record, d, -, -, -, hselect⟩ | ⟨-, hselect⟩⟩
  · cases hselect.symm.trans h
  · obtain rfl := Except.error.inj (hselect.symm.trans h)
    exact ⟨conflict, rfl, hrecord record conflict happly hconflict⟩
  · cases hselect.symm.trans h
  · obtain ⟨cause, hcause, rfl⟩ := mapError_eq_error_iff.1 (hselect.symm.trans h)
    obtain ⟨-, rfl⟩ := byLevel_eq_error_iff.1 hcause
    exact ⟨_, rfl, rfl⟩

namespace Records

/-! ## Reading -/

/-- Records of a contract whose variable is set are never refused. -/
theorem not_mem_apply_of_admitApply {overrides : Overrides} {applies : Table ApplyRecord}
    {record : ApplyRecord} {e : Error} (h : admitApply overrides applies record = .error e) :
    record.contract ∉ overrides.apply ∧ ∃ first : ApplyRecord,
      e = .conflict (first.disagreement record) := by
  unfold admitApply at h
  split at h
  · cases h
  · next first _ =>
    split at h
    · cases h
    · next hfits => exact ⟨fun hset => hfits (.inr hset), first, (Except.error.inj h).symm⟩

/-- **Reading apply records** makes no conflict about a contract whose variable is set. -/
theorem failsOnlyWith_readApplies_of_mem {overrides : Overrides} {contract : String}
    (hset : contract ∈ overrides.apply) (view : View) (root : String) :
    (readApplies view overrides root).FailsOnlyWith (¬·.IsConflictAbout contract) := by
  have hfamily := failsOnlyWith_readFamily view overrides root .applies
  refine (hfamily.mono fun e he => he.not_isConflictAbout contract).bind fun entries => ?_
  refine Report.failsOnlyWith_foldlM (fun applies entry e he => ?_) ∅ entries
  rw [outcome_addApply, bind_eq_error_iff] at he
  rcases he with hsyntax | ⟨record, -, hadmit⟩
  · obtain ⟨cause, -, rfl⟩ := mapError_eq_error_iff.1 hsyntax
    exact (Error.OfText.malformed cause).not_isConflictAbout contract
  · obtain ⟨hunset, first, rfl⟩ := not_mem_apply_of_admitApply hadmit
    rintro ⟨_, hcause, rfl⟩
    obtain rfl := Error.conflict.inj hcause
    exact hunset hset

/-- The conflict that a record carries is about its contract. -/
theorem contract_of_conflict_readApplies {view : View} {overrides : Overrides} {root : String}
    {applies : Table ApplyRecord} (h : (readApplies view overrides root).outcome = .ok applies)
    {contract : String} {record : ApplyRecord} (hrecord : applies[contract]? = some record)
    {conflict : ConflictError} (hconflict : record.conflict = some conflict) :
    conflict.contract = contract := by
  obtain ⟨entries, records, -, hrecords, -, rfl⟩ := outcome_readApplies_eq_ok_iff.1 h
  refine contract_of_conflict_applyTable (fun record hmem => ?_) hrecord hconflict
  obtain ⟨entry, -, hentry⟩ := (mem_iff_of_forall₂ hrecords).1 hmem
  obtain ⟨-, rfl⟩ := applyOfEntry_eq_ok_iff.1 hentry
  rfl

/-- The ids of definitions are trimmed, as the variable's value is. -/
theorem trim_id_of_readServices {view : View} {overrides : Overrides} {root : String}
    {services : Table (Table ServiceDefinition)}
    (h : (readServices view overrides root).outcome = .ok services) {contract id : String}
    {d : ServiceDefinition} (hd : serviceAt services contract id = some d) : Text.trim id = id := by
  obtain ⟨entries, ds, -, hds, hnames, rfl⟩ := outcome_readServices_eq_ok_iff.1 h
  obtain ⟨hmem, hname⟩ := (serviceAt_serviceTable_eq_some_iff hnames).1 hd
  obtain ⟨entry, -, hentry⟩ := (mem_iff_of_forall₂ hds).1 hmem
  obtain ⟨_, _, _, _, _, -, -, -, rfl⟩ := Entry.service_eq_ok_iff.1 hentry
  obtain ⟨-, rfl⟩ := Prod.mk.inj hname
  exact Text.trim_trim _

/-- Where the services can be read and the variable of a contract is set, reading makes no conflict
about that contract. -/
theorem not_isConflictAbout_of_outcome_readAll {view : View} {overrides : Overrides}
    {root contract : String} (hset : contract ∈ overrides.apply)
    {services : Table (Table ServiceDefinition)}
    (hservices : (readServices view overrides root).outcome = .ok services) {e : Error}
    (h : (readAll view overrides root).outcome = .error e) : ¬e.IsConflictAbout contract := by
  rcases Report.outcome_bind_eq_error_iff.1 h with hfail | ⟨_, -, h⟩
  · cases hservices.symm.trans hfail
  rcases Report.outcome_bind_eq_error_iff.1 h with hfail | ⟨_, -, h⟩
  · exact failsOnlyWith_readApplies_of_mem hset view root e hfail
  rcases Report.outcome_bind_eq_error_iff.1 h with hfail | ⟨_, -, h⟩
  · exact (failsOnlyWith_readPlugins view overrides root e hfail).not_isConflictAbout contract
  rcases Report.outcome_bind_eq_error_iff.1 h with hfail | ⟨_, -, hdone⟩
  · exact (failsOnlyWith_readIgnores view overrides root e hfail).not_isConflictAbout contract
  · cases hdone

end Records

namespace Resolved

open Enumerator (Embedded viewOf)

/-! ## Resolution -/

variable {root : String} {records : Records} {overrides : Overrides} {contract id : String}
  {d : ServiceDefinition}

/-- The variable of a contract that names a definition decides, whatever the record and the levels
say. -/
theorem outcome_resolve_of_set {definitions : Table ServiceDefinition} {apply : Option ApplyRecord}
    (hset : overrides.apply[contract]? = some id) (hd : definitions[Text.trim id]? = some d) :
    (ServiceChoice.resolve contract definitions apply overrides).outcome =
      .ok ⟨contract, d, .override (Overrides.applyVariable contract), definitions⟩ :=
  ServiceChoice.outcome_resolve_eq_ok_iff.2 ⟨rfl, rfl, .override id d hset hd⟩

/-- **Records that were read** are resolved to the definition that the variable names, or fail
without a conflict about its contract. -/
theorem ofRecords_settles (hset : overrides.apply[contract]? = some id)
    (hd : serviceAt records.services contract (Text.trim id) = some d)
    (hconflict : ∀ (name : String) record conflict, records.applies[name]? = some record →
      record.conflict = some conflict → conflict.contract = name) :
    (∃ resolved choice, (ofRecords root records overrides).outcome = .ok resolved ∧
      resolved.services[contract]? = some choice ∧ choice.applied = d ∧
      choice.reason = .override (Overrides.applyVariable contract)) ∨
    ∃ e, (ofRecords root records overrides).outcome = .error e ∧ ¬e.IsConflictAbout contract := by
  rw [serviceAt, Std.ExtTreeMap.getD_eq_getD_getElem?] at hd
  cases hdefinitions : records.services[contract]? with
  | none => simp [hdefinitions] at hd
  | some definitions =>
    rw [hdefinitions, Option.getD_some] at hd
    cases hresolved : (ofRecords root records overrides).outcome with
    | ok resolved =>
      obtain ⟨-, hchoices, -⟩ := outcome_ofRecords_eq_ok_iff.1 hresolved
      exact .inl ⟨resolved, _, rfl, (getElem?_addChoices_iff hchoices).2
        ⟨definitions, hdefinitions, outcome_resolve_of_set hset hd⟩, rfl, rfl⟩
    | error e =>
      refine .inr ⟨e, rfl, ?_⟩
      rcases of_outcome_ofRecords_eq_error hresolved with hchoices | htext
      · obtain ⟨name, definitions', hdefinitions', hresolve⟩ :=
          exists_of_outcome_addChoices_eq_error hchoices
        have habout : e.IsConflictAbout name :=
          ServiceChoice.isConflictAbout_of_outcome_select (fun record conflict => hconflict _ _ _)
            (ServiceChoice.outcome_resolve_eq_error_iff.1 hresolve)
        obtain ⟨cause, rfl, hname⟩ := habout
        rintro ⟨_, hcause, rfl⟩
        -- the contract itself would have been resolved
        obtain rfl := Error.conflict.inj hcause
        subst hname
        obtain rfl := Option.some.inj (hdefinitions.symm.trans hdefinitions')
        cases hresolve.symm.trans (outcome_resolve_of_set hset hd)
      · exact htext.not_isConflictAbout contract

/-- **A known id settles its contract**: with the apply variable set to it, the contract is resolved
to the definition of that id and for that reason, or whatever fails is no conflict about the
contract. -/
theorem load_withApply_settles (view : View) (root : String) (overrides : Overrides)
    (contract id : String) (services : Table (Table ServiceDefinition)) (d : ServiceDefinition)
    (hread : (Records.readServices view overrides (normalizeRoot root)).outcome = .ok services)
    (hd : serviceAt services contract id = some d) :
    (∃ resolved choice,
      (load view root (overrides.withApply contract id)).outcome = .ok resolved ∧
      resolved.services[contract]? = some choice ∧ choice.applied = d ∧
      choice.reason = .override (Overrides.applyVariable contract)) ∨
    ∃ e, (load view root (overrides.withApply contract id)).outcome = .error e ∧
      ¬e.IsConflictAbout contract := by
  have hset : (overrides.withApply contract id).apply[contract]? = some id := by
    simp [Overrides.withApply]
  have hread' : (Records.readServices view (overrides.withApply contract id)
      (normalizeRoot root)).outcome = .ok services := by
    rw [← hread]
    exact congrArg Report.outcome (Records.readServices_congr rfl view _)
  cases hrecords : (Records.readAll view (overrides.withApply contract id)
      (normalizeRoot root)).outcome with
  | error e =>
    have hload : (load view root (overrides.withApply contract id)).outcome = .error e :=
      Report.outcome_bind_eq_error_iff.2 (.inl hrecords)
    refine .inr ⟨e, hload, Records.not_isConflictAbout_of_outcome_readAll ?_ hread' hrecords⟩
    rw [Std.ExtTreeMap.mem_iff_isSome_getElem?, hset]
    rfl
  | ok records =>
    have hload : (load view root (overrides.withApply contract id)).outcome =
        (ofRecords (normalizeRoot root) records (overrides.withApply contract id)).outcome := by
      rw [load, Report.outcome_bind_eq, hrecords]
      rfl
    obtain ⟨services', hservices, h⟩ := Report.outcome_bind_eq_ok_iff.1 hrecords
    obtain ⟨applies, happlies, h⟩ := Report.outcome_bind_eq_ok_iff.1 h
    obtain ⟨plugins, -, h⟩ := Report.outcome_bind_eq_ok_iff.1 h
    obtain ⟨ignores, -, h⟩ := Report.outcome_bind_eq_ok_iff.1 h
    obtain rfl := Except.ok.inj h
    obtain rfl := Except.ok.inj (hread'.symm.trans hservices)
    rw [hload]
    refine ofRecords_settles hset ?_ fun name record conflict hrecord hconflict => ?_
    · rw [Records.trim_id_of_readServices hread hd]
      exact hd
    · exact Records.contract_of_conflict_readApplies happlies hrecord hconflict

/-- Two modules that define services of one contract and one level. -/
def equalLevels : List Embedded :=
  [⟨"a", "META-INF/spi/service.properties", "c>x>library=p".toUTF8⟩,
    ⟨"b", "META-INF/spi/service.properties", "c>y>library=q".toUTF8⟩]

/-- The definition of the first module. -/
def serviceOfA : ServiceDefinition :=
  ⟨"c", "x", .library, ⟨"p", none⟩, "META-INF/spi/",
    ⟨"embedded:a/META-INF/spi/service.properties"⟩⟩

/-- The definition of the second module. -/
def serviceOfB : ServiceDefinition :=
  ⟨"c", "y", .library, ⟨"q", none⟩, "META-INF/spi/",
    ⟨"embedded:b/META-INF/spi/service.properties"⟩⟩

/-- Without the variable the levels are ambiguous, with it the contract is settled. -/
theorem load_equalLevels :
    (load (viewOf equalLevels) "" ⟨∅, ∅, ∅⟩).outcome =
      .error (.conflict (.ambiguousLevel "c" [serviceOfA.text, serviceOfB.text])) ∧
    ∃ resolved choice, (load (viewOf equalLevels) ""
        (Overrides.withApply ⟨∅, ∅, ∅⟩ "c" "y")).outcome = .ok resolved ∧
      resolved.services["c"]? = some choice ∧ choice.applied = serviceOfB ∧
      choice.reason = .override (Overrides.applyVariable "c") := by
  refine ⟨by decide +kernel, ?_⟩
  have hread : (Records.readServices (viewOf equalLevels) ⟨∅, ∅, ∅⟩
      (normalizeRoot "")).outcome = .ok (serviceTable [serviceOfA, serviceOfB]) := by
    decide +kernel
  have hd : serviceAt (serviceTable [serviceOfA, serviceOfB]) "c" "y" = some serviceOfB := by
    decide +kernel
  have hok : (load (viewOf equalLevels) ""
      (Overrides.withApply ⟨∅, ∅, ∅⟩ "c" "y")).outcome.toOption.isSome := by decide +kernel
  rcases load_withApply_settles (viewOf equalLevels) "" ⟨∅, ∅, ∅⟩ "c" "y" _ _ hread hd with
    hsettled | ⟨e, hfails, -⟩
  · exact hsettled
  · rw [hfails] at hok
    cases hok

end Resolved

end Wiring
