import Wiring.Proofs.Records.Family
import Wiring.Proofs.Records.Readable
import Wiring.Proofs.Tables

/-!
# Records · The table of apply records

What the reading of the apply records yields. Records of one contract are merged into the first of
them, which keeps its first disagreement with a later one (`mergeApplies`). A record is admitted
when it agrees with the first one of its contract or when the apply variable of the contract is set;
so the reading succeeds exactly when every entry holds a record and the records of a contract whose
variable is not set name one id (`outcome_readApplies_eq_ok_iff`).
-/

namespace Wiring

/-! ## Merging -/

namespace ApplyRecord

/-- The conflict between the first record of a contract and a later one. -/
def disagreement (first second : ApplyRecord) : ConflictError :=
  .applyDisagreement second.contract first.chosenId first.source.text second.chosenId
    second.source.text

/-- The first record of a contract joined with a later one. -/
def join (first second : ApplyRecord) : ApplyRecord :=
  if first.chosenId = second.chosenId then first
  else { first with conflict := first.conflict.or (some (disagreement first second)) }

/-- The first of two joined records says which id is chosen. -/
theorem chosenId_join (first second : ApplyRecord) :
    (first.join second).chosenId = first.chosenId := by
  rw [join]
  split <;> rfl

end ApplyRecord

/-- **The records of one contract merged**: the first one, with its first disagreement with a later
one as its conflict. -/
def mergeApplies : List ApplyRecord → Option ApplyRecord
  | [] => none
  | first :: later =>
    some { first with
      conflict := (later.find? (·.chosenId ≠ first.chosenId)).map first.disagreement }

/-- The last record is joined with what those in front of it merge to. -/
theorem mergeApplies_append_singleton {records : List ApplyRecord} {record : ApplyRecord}
    (h : record.conflict = none) :
    mergeApplies (records ++ [record]) =
      some (match mergeApplies records with
        | none => record
        | some first => first.join record) := by
  cases records with
  | nil =>
    obtain ⟨contract, chosenId, source, conflict⟩ := record
    obtain rfl : conflict = none := h
    rfl
  | cons first later =>
    simp only [List.cons_append, mergeApplies, Option.some.injEq, ApplyRecord.join,
      List.find?_append, List.find?_singleton]
    by_cases hid : first.chosenId = record.chosenId
    · simp [hid]
    · cases later.find? (·.chosenId ≠ first.chosenId) with
      | none => simp [hid, Ne.symm hid, ApplyRecord.disagreement]
      | some other => simp [hid]

/-- A merged record without a conflict bears the id that all the records name. -/
theorem chosenId_eq_of_mergeApplies {records : List ApplyRecord} {merged record : ApplyRecord}
    (h : mergeApplies records = some merged) (hagreed : merged.conflict = none)
    (hrecord : record ∈ records) : record.chosenId = merged.chosenId := by
  cases records with
  | nil => cases h
  | cons first later =>
    obtain rfl := Option.some.inj h
    rcases List.mem_cons.1 hrecord with rfl | hlater
    · rfl
    · rw [Option.map_eq_none_iff, List.find?_eq_none] at hagreed
      simpa using hagreed record hlater

/-- A merged record carries no conflict exactly when all records name one id. -/
theorem conflict_eq_none_iff_of_mergeApplies {records : List ApplyRecord} {merged : ApplyRecord}
    (h : mergeApplies records = some merged) :
    merged.conflict = none ↔
      ∀ record ∈ records, ∀ other ∈ records, record.chosenId = other.chosenId := by
  constructor
  · intro hagreed record hrecord other hother
    rw [chosenId_eq_of_mergeApplies h hagreed hrecord, chosenId_eq_of_mergeApplies h hagreed hother]
  · intro hall
    cases records with
    | nil => cases h
    | cons first later =>
      obtain rfl := Option.some.inj h
      simp only [Option.map_eq_none_iff, List.find?_eq_none]
      intro record hrecord
      have hid := hall record (List.mem_cons_of_mem _ hrecord) first List.mem_cons_self
      simp [hid]

/-- Where there are records, they merge to one. -/
theorem exists_mergeApplies {records : List ApplyRecord} {record : ApplyRecord}
    (h : record ∈ records) : ∃ merged, mergeApplies records = some merged := by
  cases records with
  | nil => cases h
  | cons first later => exact ⟨_, rfl⟩

/-- A merged record is the first one, but for the conflict. -/
theorem exists_mem_of_mergeApplies {records : List ApplyRecord} {merged : ApplyRecord}
    (h : mergeApplies records = some merged) :
    ∃ first ∈ records, merged = { first with conflict := merged.conflict } := by
  cases records with
  | nil => cases h
  | cons first later =>
    obtain rfl := Option.some.inj h
    exact ⟨first, List.mem_cons_self, rfl⟩

/-- A merged record stands where the first of the records stands. -/
theorem exists_source_of_mergeApplies {records : List ApplyRecord} {merged : ApplyRecord}
    (h : mergeApplies records = some merged) :
    ∃ first ∈ records, first.source = merged.source := by
  obtain ⟨first, hfirst, hmerged⟩ := exists_mem_of_mergeApplies h
  exact ⟨first, hfirst, by rw [hmerged]⟩

/-- Levels play no part in the conflict of a merged record. -/
theorem conflict_mergeApplies_ne_ambiguousLevel {records : List ApplyRecord}
    {merged : ApplyRecord} (h : mergeApplies records = some merged) (contract : String)
    (conflicts : List String) : merged.conflict ≠ some (.ambiguousLevel contract conflicts) := by
  cases records with
  | nil => cases h
  | cons first later =>
    obtain rfl := Option.some.inj h
    simp [ApplyRecord.disagreement]

/-! ## The table -/

/-- The table with one more record, joined with the first one of its contract. -/
def insertApply (applies : Table ApplyRecord) (record : ApplyRecord) : Table ApplyRecord :=
  applies.insert record.contract <|
    match applies[record.contract]? with
    | none => record
    | some first => first.join record

/-- The table of records inserted one after the other. -/
def applyTable (records : List ApplyRecord) : Table ApplyRecord :=
  records.foldl insertApply ∅

/-- The last record is inserted last. -/
theorem applyTable_append_singleton (records : List ApplyRecord) (record : ApplyRecord) :
    applyTable (records ++ [record]) = insertApply (applyTable records) record := by
  simp [applyTable]

/-- **What stands under a contract** is what its records merge to. -/
theorem getElem?_applyTable {records : List ApplyRecord} (h : ∀ r ∈ records, r.conflict = none)
    (contract : String) :
    (applyTable records)[contract]? = mergeApplies (records.filter (·.contract = contract)) := by
  induction records using List.reverseRecOn with
  | nil => simp [applyTable, mergeApplies]
  | append_singleton records record ih =>
    have hrecords := ih fun r hr => h r (by simp [hr])
    rw [applyTable_append_singleton, insertApply, Table.getElem?_insert, List.filter_append]
    by_cases hcontract : contract = record.contract
    · subst hcontract
      rw [if_pos rfl, hrecords]
      have hlast : [record].filter (·.contract = record.contract) = [record] := by simp
      rw [hlast, mergeApplies_append_singleton (h record (by simp))]
    · have hlast : [record].filter (·.contract = contract) = [] := by
        simp [Ne.symm hcontract]
      rw [if_neg hcontract, hrecords, hlast, List.append_nil]

/-- The id that stands under a contract is that of its first record. -/
theorem map_chosenId_applyTable (records : List ApplyRecord) (contract : String) :
    ((applyTable records)[contract]?).map ApplyRecord.chosenId =
      ((records.filter (·.contract = contract)).head?).map ApplyRecord.chosenId := by
  induction records using List.reverseRecOn with
  | nil => simp [applyTable]
  | append_singleton records record ih =>
    rw [applyTable_append_singleton, insertApply, Table.getElem?_insert, List.filter_append,
      List.head?_append]
    by_cases hcontract : contract = record.contract
    · subst hcontract
      rw [if_pos rfl]
      cases htable : (applyTable records)[record.contract]? with
      | none =>
        rw [htable, Option.map_none, eq_comm, Option.map_eq_none_iff] at ih
        simp [ih]
      | some first =>
        rw [htable, Option.map_some, eq_comm, Option.map_eq_some_iff] at ih
        obtain ⟨head, hhead, hid⟩ := ih
        simp [hhead, hid, ApplyRecord.chosenId_join]
    · rw [if_neg hcontract, ih]
      simp [Ne.symm hcontract]

/-! ## Admission -/

/-- Whether the records of every contract whose apply variable is not set name one id. -/
def ApplyRecord.Agree (overrides : Overrides) (records : List ApplyRecord) : Prop :=
  ∀ first ∈ records, ∀ second ∈ records, first.contract = second.contract →
    first.contract ∉ overrides.apply → first.chosenId = second.chosenId

/-- Whether a record may follow others: it agrees with the first one of its contract, or the apply
variable of the contract is set. -/
def ApplyRecord.Follows (overrides : Overrides) (before : List ApplyRecord)
    (record : ApplyRecord) : Prop :=
  ∀ first ∈ (before.filter (·.contract = record.contract)).head?,
    first.chosenId = record.chosenId ∨ record.contract ∈ overrides.apply

/-- Records agree exactly when each agrees with the first one of its contract. -/
theorem ApplyRecord.agree_iff_forall_split {overrides : Overrides} {records : List ApplyRecord} :
    Agree overrides records ↔
      ∀ before record after, records = before ++ record :: after →
        Follows overrides before record := by
  constructor
  · rintro h before record after rfl first hfirst
    have hmem := List.mem_of_mem_head? hfirst
    rw [List.mem_filter] at hmem
    have hcontract : first.contract = record.contract := by simpa using hmem.2
    by_cases hset : record.contract ∈ overrides.apply
    · exact .inr hset
    · exact .inl (h first (by simp [hmem.1]) record (by simp) hcontract (hcontract ▸ hset))
  · intro h
    -- every record of a contract has the id of the first one of that contract
    have hhead (contract : String) (hset : contract ∉ overrides.apply) (head : ApplyRecord)
        (hhead : head ∈ (records.filter (·.contract = contract)).head?) (record : ApplyRecord)
        (hrecord : record ∈ records) (hcontract : record.contract = contract) :
        head.chosenId = record.chosenId := by
      obtain ⟨before, after, rfl⟩ := List.append_of_mem hrecord
      cases hbefore : before.filter (·.contract = contract) with
      | nil =>
        rw [List.filter_append, hbefore] at hhead
        simp only [hcontract, decide_true, List.filter_cons_of_pos, List.nil_append,
          List.head?_cons, Option.mem_some_iff] at hhead
        rw [hhead]
      | cons first rest =>
        rw [List.filter_append, hbefore, List.cons_append, List.head?_cons,
          Option.mem_some_iff] at hhead
        subst hhead
        have hfollows := h before record after rfl first (by rw [hcontract, hbefore]; rfl)
        exact hfollows.resolve_right (hcontract ▸ hset)
    intro first hfirst second hsecond hsame hset
    have hmem : first ∈ records.filter (·.contract = first.contract) := by simp [hfirst]
    cases hfilter : records.filter (·.contract = first.contract) with
    | nil =>
      rw [hfilter] at hmem
      cases hmem
    | cons head rest =>
      have hmemHead : head ∈ (records.filter (·.contract = first.contract)).head? := by
        rw [hfilter]
        rfl
      have hone := hhead _ hset head hmemHead first hfirst rfl
      have htwo := hhead _ hset head hmemHead second hsecond hsame.symm
      exact hone.symm.trans htwo

namespace Records

/-- What becomes of a record that is added to a table. -/
def admitApply (overrides : Overrides) (applies : Table ApplyRecord) (record : ApplyRecord) :
    Except Error (Table ApplyRecord) :=
  match applies[record.contract]? with
  | none => .ok (insertApply applies record)
  | some first =>
    if first.chosenId = record.chosenId ∨ record.contract ∈ overrides.apply then
      .ok (insertApply applies record)
    else .error (.conflict (first.disagreement record))

/-- Records that disagree are joined only where the apply variable is set. -/
theorem outcome_joinApply (overrides : Overrides) (first second : ApplyRecord) :
    (joinApply overrides first second).outcome =
      if first.chosenId = second.chosenId ∨ second.contract ∈ overrides.apply then
        .ok (first.join second)
      else .error (.conflict (first.disagreement second)) := by
  rw [joinApply, ApplyRecord.join]
  by_cases hid : first.chosenId = second.chosenId
  · simp only [hid, if_true, true_or]
    rfl
  · by_cases hset : second.contract ∈ overrides.apply
    · simp only [hid, hset, if_true, if_false, or_true]
      rfl
    · simp only [hid, hset, if_false, or_false]
      rfl

/-- An entry is added by admitting the record that it holds. -/
theorem outcome_addApply (overrides : Overrides) (applies : Table ApplyRecord) (entry : Entry) :
    (addApply overrides applies entry).outcome =
      (applyOfEntry entry).mapError .malformed >>= admitApply overrides applies := by
  rw [addApply, Report.outcome_bind_eq, Report.outcome_ofSyntax]
  congr 1
  funext record
  rw [Report.outcome_say_bind, admitApply, insertApply]
  cases applies[record.contract]? with
  | none => rfl
  | some first =>
    show (joinApply overrides first record >>= fun joined =>
      (Pure.pure (applies.insert record.contract joined) : Report _)).outcome = _
    rw [Report.outcome_bind_eq, outcome_joinApply]
    by_cases h : first.chosenId = record.chosenId ∨ record.contract ∈ overrides.apply
    · simp only [h, if_true]
      rfl
    · simp only [h, if_false]
      rfl

/-- **A record is admitted** exactly when it may follow those before it. -/
theorem admitApply_applyTable_eq_ok_iff (overrides : Overrides) (before : List ApplyRecord)
    (record : ApplyRecord) (applies : Table ApplyRecord) :
    admitApply overrides (applyTable before) record = .ok applies ↔
      ApplyRecord.Follows overrides before record ∧ applies = applyTable (before ++ [record]) := by
  have hid := map_chosenId_applyTable before record.contract
  rw [admitApply, applyTable_append_singleton, ApplyRecord.Follows]
  cases htable : (applyTable before)[record.contract]? with
  | none =>
    rw [htable, Option.map_none, eq_comm, Option.map_eq_none_iff] at hid
    rw [hid]
    simp [@eq_comm _ applies]
  | some first =>
    rw [htable, Option.map_some, eq_comm, Option.map_eq_some_iff] at hid
    obtain ⟨head, hhead, hsame⟩ := hid
    simp only [hhead, Option.mem_some_iff, forall_eq', hsame]
    by_cases h : first.chosenId = record.chosenId ∨ record.contract ∈ overrides.apply
    · simp [h, @eq_comm _ applies]
    · simp [h]

/-- **Records are added** exactly when every entry holds one and the records agree. -/
theorem outcome_addApplies_eq_ok_iff {overrides : Overrides} {entries : List Entry}
    {applies : Table ApplyRecord} :
    (entries.foldlM (addApply overrides) ∅).outcome = .ok applies ↔
      ∃ records, List.Forall₂ (fun entry record => applyOfEntry entry = .ok record) entries
        records ∧ ApplyRecord.Agree overrides records ∧ applies = applyTable records := by
  simp only [Report.outcome_foldlM, outcome_addApply]
  have hstart : (∅ : Table ApplyRecord) = applyTable [] := rfl
  rw [hstart, foldlM_eq_ok_iff (admitApply_applyTable_eq_ok_iff overrides)]
  simp only [mapError_eq_ok_iff, ApplyRecord.agree_iff_forall_split]

/-- **Reading the apply records succeeds** exactly when every entry holds a record and the records
agree; the result is the table of the records. -/
theorem outcome_readApplies_eq_ok_iff {view : View} {overrides : Overrides} {root : String}
    {applies : Table ApplyRecord} :
    (readApplies view overrides root).outcome = .ok applies ↔
      ∃ entries records, HasEntries view overrides root .applies entries ∧
        List.Forall₂ (fun entry record => applyOfEntry entry = .ok record) entries records ∧
        ApplyRecord.Agree overrides records ∧ applies = applyTable records := by
  rw [readApplies, Report.outcome_bind_eq_ok_iff]
  simp only [outcome_readFamily_eq_ok_iff, outcome_addApplies_eq_ok_iff, exists_and_left]

end Records

end Wiring
