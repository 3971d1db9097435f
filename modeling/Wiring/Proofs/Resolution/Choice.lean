import Mathlib.Data.List.Induction
import Wiring.Proofs.Outcome
import Wiring.Resolution.Service

/-!
# Resolution · The choice for one contract

What the three tiers decide. `Level.highest?_eq_some_iff` says that the highest level of a list is
one that no other exceeds, `mem_topmost_iff` which definitions have it, and `Selects` what each tier
asks before it names a definition. Main statements: a definition is chosen exactly when some tier
selects it (`outcome_select_eq_ok_iff`), and where the levels are ambiguous the topmost definitions
are several (`outcome_select_eq_ambiguousLevel`).
-/

namespace Wiring

/-! ## The highest level -/

namespace Level

/-- Levels of one rank are the same. -/
theorem eq_of_rank_eq {a b : Level} (h : a.rank = b.rank) : a = b := by
  cases a <;> cases b <;> first | rfl | cases h

/-- A further level is the highest unless one in front of it is higher. -/
theorem highest?_append_singleton (levels : List Level) (level : Level) :
    highest? (levels ++ [level]) = some (match highest? levels with
      | none => level
      | some best => if best.rank < level.rank then level else best) := by
  rw [highest?, List.foldl_append, ← highest?]
  cases highest? levels <;> rfl

/-- A list with a level has a highest one. -/
theorem highest?_ne_none {levels : List Level} (h : levels ≠ []) : highest? levels ≠ none := by
  induction levels using List.reverseRecOn with
  | nil => exact absurd rfl h
  | append_singleton levels last =>
    rw [highest?_append_singleton]
    exact Option.some_ne_none _

/-- **The highest level** of a list is in the list, and no level in the list exceeds it. -/
theorem highest?_eq_some_iff {levels : List Level} {level : Level} :
    highest? levels = some level ↔ level ∈ levels ∧ ∀ other ∈ levels, other.rank ≤ level.rank := by
  have hsound : ∀ {level}, highest? levels = some level →
      level ∈ levels ∧ ∀ other ∈ levels, other.rank ≤ level.rank := by
    induction levels using List.reverseRecOn with
    | nil =>
      intro level h
      cases h
    | append_singleton levels last ih =>
      intro level h
      rw [highest?_append_singleton, Option.some.injEq] at h
      cases hbest : highest? levels with
      | none =>
        obtain rfl : levels = [] := by
          by_contra hne
          exact highest?_ne_none hne hbest
        rw [hbest] at h
        simp [← h]
      | some best =>
        obtain ⟨hmem, hall⟩ := ih hbest
        simp only [hbest] at h
        simp only [List.mem_append, List.mem_singleton, or_imp, forall_and, forall_eq]
        split at h
        · next hlt =>
          obtain rfl := h
          exact ⟨.inr rfl, fun other hother => by have := hall other hother; omega, Nat.le_refl _⟩
        · next hle =>
          obtain rfl := h
          exact ⟨.inl hmem, hall, by omega⟩
  constructor
  · exact hsound
  · rintro ⟨hmem, hall⟩
    obtain ⟨best, hbest⟩ :=
      Option.ne_none_iff_exists'.1 (highest?_ne_none (List.ne_nil_of_mem hmem))
    obtain ⟨hbestMem, hbestAll⟩ := hsound hbest
    -- two levels that no other exceeds are one
    have hrank : best.rank = level.rank :=
      Nat.le_antisymm (hall best hbestMem) (hbestAll level hmem)
    rw [hbest, eq_of_rank_eq hrank]

end Level

namespace ServiceChoice

/-! ## The topmost definitions -/

variable {contract : String} {definitions : Table ServiceDefinition} {apply : Option ApplyRecord}
  {overrides : Overrides} {d : ServiceDefinition}

/-- The definitions of a table are those that stand under an id. -/
theorem mem_map_snd_toList :
    d ∈ definitions.toList.map Prod.snd ↔ ∃ id : String, definitions[id]? = some d := by
  simp [Std.ExtTreeMap.mem_toList_iff_getElem?_eq_some]

/-- **The topmost definitions** are those that none exceeds in level. -/
theorem mem_topmost_iff : d ∈ topmost definitions ↔
    (∃ id : String, definitions[id]? = some d) ∧
      ∀ (id : String) other, definitions[id]? = some other → other.level.rank ≤ d.level.rank := by
  rw [topmost, List.mem_filter, decide_eq_true_iff, Level.highest?_eq_some_iff,
    List.forall_mem_map, mem_map_snd_toList]
  constructor
  · rintro ⟨hd, -, hall⟩
    exact ⟨hd, fun id other hother => hall other (mem_map_snd_toList.2 ⟨id, hother⟩)⟩
  · rintro ⟨hd, hall⟩
    refine ⟨hd, List.mem_map_of_mem (mem_map_snd_toList.2 hd), fun other hother => ?_⟩
    obtain ⟨id, hid⟩ := mem_map_snd_toList.1 hother
    exact hall id other hid

/-- Where there are definitions, some are topmost. -/
theorem topmost_ne_nil {id : String} (h : definitions[id]? = some d) :
    topmost definitions ≠ [] := by
  have hmem : d.level ∈ (definitions.toList.map Prod.snd).map (·.level) :=
    List.mem_map_of_mem (mem_map_snd_toList.2 ⟨id, h⟩)
  obtain ⟨level, hlevel⟩ :=
    Option.ne_none_iff_exists'.1 (Level.highest?_ne_none (List.ne_nil_of_mem hmem))
  obtain ⟨top, htop, rfl⟩ := List.mem_map.1 (Level.highest?_eq_some_iff.1 hlevel).1
  refine List.ne_nil_of_mem (a := top) ?_
  rw [topmost, List.mem_filter]
  exact ⟨htop, by simpa using hlevel⟩

/-- The topmost definitions are in the order of their ids. -/
theorem pairwise_topmost (h : ∀ (id : String) d, definitions[id]? = some d → d.id = id) :
    (topmost definitions).Pairwise fun a b => compare a.id b.id = .lt := by
  have hkeys := definitions.ordered_keys_toList
  rw [topmost]
  refine List.Pairwise.filter _ ?_
  rw [List.pairwise_map]
  refine hkeys.imp_of_mem fun {first second} hfirst hsecond hlt => ?_
  rw [Std.ExtTreeMap.mem_toList_iff_getElem?_eq_some] at hfirst hsecond
  rw [h _ _ hfirst, h _ _ hsecond]
  exact hlt

/-! ## The three tiers -/

/-- Whether the apply variable of the contract names no definition. -/
def VariableIsSilent (contract : String) (definitions : Table ServiceDefinition)
    (overrides : Overrides) : Prop :=
  ∀ id ∈ overrides.apply[contract]?, definitions[Text.trim id]? = none

/-- Whether the apply record of the contract carries no conflict and names no definition. -/
def RecordIsSilent (definitions : Table ServiceDefinition) (apply : Option ApplyRecord) : Prop :=
  ∀ record ∈ apply, record.conflict = none ∧ definitions[record.chosenId]? = none

/-- Which definition a tier selects, and for what reason: the variable comes first, the record
second, and the levels last. -/
inductive Selects (contract : String) (definitions : Table ServiceDefinition)
    (apply : Option ApplyRecord) (overrides : Overrides) :
    ServiceDefinition → ApplyReason → Prop
  /-- The apply variable names the definition. -/
  | override (id : String) (d : ServiceDefinition) (hset : overrides.apply[contract]? = some id)
      (hd : definitions[Text.trim id]? = some d) :
      Selects contract definitions apply overrides d (.override (Overrides.applyVariable contract))
  /-- The apply record names the definition, and the variable names none. -/
  | record (record : ApplyRecord) (d : ServiceDefinition)
      (hsilent : VariableIsSilent contract definitions overrides) (hrecord : apply = some record)
      (hagreed : record.conflict = none) (hd : definitions[record.chosenId]? = some d) :
      Selects contract definitions apply overrides d (.record record.source)
  /-- The definition alone is topmost, and neither the variable nor the record names one. -/
  | highest (d : ServiceDefinition) (hvariable : VariableIsSilent contract definitions overrides)
      (hrecord : RecordIsSilent definitions apply) (htop : topmost definitions = [d]) :
      Selects contract definitions apply overrides d (.highest d.level)

/-- What is selected is one of the definitions. -/
theorem Selects.exists_id {reason : ApplyReason}
    (h : Selects contract definitions apply overrides d reason) :
    ∃ id : String, definitions[id]? = some d := by
  cases h with
  | override id _ _ hd => exact ⟨_, hd⟩
  | record record _ _ _ _ hd => exact ⟨_, hd⟩
  | highest _ _ _ htop =>
    have hmem : d ∈ topmost definitions := by rw [htop]; exact List.mem_singleton_self d
    exact (mem_topmost_iff.1 hmem).1

/-- The apply variable selects the definition that it names, if there is one. -/
theorem outcome_byVariable (contract : String) (definitions : Table ServiceDefinition)
    (overrides : Overrides) :
    (byVariable contract definitions overrides).outcome =
      .ok ((overrides.apply[contract]?.bind fun id => definitions[Text.trim id]?).map fun d =>
        (d, .override (Overrides.applyVariable contract))) := by
  rw [byVariable]
  cases overrides.apply[contract]? with
  | none => rfl
  | some id =>
    simp only [Option.bind_some]
    cases definitions[Text.trim id]? <;> rfl

/-- The apply variable is silent exactly where it names no definition. -/
theorem variableIsSilent_iff : VariableIsSilent contract definitions overrides ↔
    (overrides.apply[contract]?.bind fun id => definitions[Text.trim id]?) = none := by
  rw [VariableIsSilent, Option.bind_eq_none_iff]
  rfl

/-- The apply record selects the definition that it names, unless it carries a conflict. -/
theorem outcome_byRecord (contract : String) (definitions : Table ServiceDefinition)
    (apply : Option ApplyRecord) :
    (byRecord contract definitions apply).outcome =
      match apply with
      | none => .ok none
      | some record =>
        match record.conflict with
        | some conflict => .error (.conflict conflict)
        | none => .ok (definitions[record.chosenId]?.map fun d => (d, .record record.source)) := by
  unfold byRecord
  cases apply with
  | none => rfl
  | some record =>
    cases hconflict : record.conflict <;> cases hd : definitions[record.chosenId]? <;>
      simp only [hconflict, hd] <;> rfl

/-- The outcome of a selection: that of the first tier that names a definition. -/
theorem outcome_select (contract : String) (definitions : Table ServiceDefinition)
    (apply : Option ApplyRecord) (overrides : Overrides) :
    (select contract definitions apply overrides).outcome =
      match (byVariable contract definitions overrides).outcome with
      | .ok (some choice) => .ok choice
      | _ =>
        match (byRecord contract definitions apply).outcome with
        | .error e => .error e
        | .ok (some choice) => .ok choice
        | .ok none => (byLevel contract definitions).mapError .conflict := by
  rw [select, Report.outcome_bind_eq, outcome_byVariable]
  cases overrides.apply[contract]?.bind fun id => definitions[Text.trim id]? with
  | some d => rfl
  | none =>
    show (byRecord contract definitions apply >>= _).outcome = _
    rw [Report.outcome_bind_eq]
    rcases (byRecord contract definitions apply).outcome with e | (_ | choice) <;> rfl

/-- The levels select a definition exactly where it is the only topmost one. -/
theorem byLevel_eq_ok_iff {reason : ApplyReason} :
    byLevel contract definitions = .ok (d, reason) ↔
      topmost definitions = [d] ∧ reason = .highest d.level := by
  unfold byLevel
  split
  · next top htop =>
    rw [htop, Except.ok.injEq, Prod.mk.injEq, List.singleton_inj]
    constructor
    · rintro ⟨rfl, rfl⟩
      exact ⟨rfl, rfl⟩
    · rintro ⟨rfl, rfl⟩
      exact ⟨rfl, rfl⟩
  · next hseveral =>
    constructor
    · intro h
      cases h
    · rintro ⟨htop, -⟩
      exact absurd htop (hseveral d)

/-- The levels fail exactly where there is not just one topmost definition. -/
theorem byLevel_eq_error_iff {e : ConflictError} :
    byLevel contract definitions = .error e ↔
      (∀ d, topmost definitions ≠ [d]) ∧
        e = .ambiguousLevel contract ((topmost definitions).map ServiceDefinition.text) := by
  unfold byLevel
  split
  · next top htop =>
    constructor
    · intro h
      cases h
    · rintro ⟨hseveral, -⟩
      exact absurd htop (hseveral top)
  · next hseveral =>
    rw [Except.error.injEq, eq_comm]
    exact ⟨fun h => ⟨hseveral, h⟩, And.right⟩

/-! ## Main statements -/

/-- All that a selection can come to: the variable names a definition, the record carries a
conflict, the record names a definition, or the levels decide. -/
theorem outcome_select_cases (contract : String) (definitions : Table ServiceDefinition)
    (apply : Option ApplyRecord) (overrides : Overrides) :
    (∃ id d, overrides.apply[contract]? = some id ∧ definitions[Text.trim id]? = some d ∧
      (select contract definitions apply overrides).outcome =
        .ok (d, .override (Overrides.applyVariable contract))) ∨
    VariableIsSilent contract definitions overrides ∧
      ((∃ record conflict, apply = some record ∧ record.conflict = some conflict ∧
        (select contract definitions apply overrides).outcome = .error (.conflict conflict)) ∨
      (∃ record d, apply = some record ∧ record.conflict = none ∧
        definitions[record.chosenId]? = some d ∧
        (select contract definitions apply overrides).outcome =
          .ok (d, .record record.source)) ∨
      RecordIsSilent definitions apply ∧
        (select contract definitions apply overrides).outcome =
          (byLevel contract definitions).mapError .conflict) := by
  rw [outcome_select, outcome_byVariable, outcome_byRecord]
  cases hvariable : overrides.apply[contract]?.bind fun id => definitions[Text.trim id]? with
  | some d =>
    obtain ⟨id, hset, hd⟩ := Option.bind_eq_some_iff.1 hvariable
    exact .inl ⟨id, d, hset, hd, rfl⟩
  | none =>
    refine .inr ⟨variableIsSilent_iff.2 hvariable, ?_⟩
    cases apply with
    | none =>
      refine .inr (.inr ⟨fun record hrecord => ?_, rfl⟩)
      cases hrecord
    | some record =>
      cases hconflict : record.conflict with
      | some conflict => exact .inl ⟨record, conflict, rfl, hconflict, by simp [hconflict]⟩
      | none =>
        cases hd : definitions[record.chosenId]? with
        | some d => exact .inr (.inl ⟨record, d, rfl, hconflict, hd, by simp [hconflict, hd]⟩)
        | none =>
          refine .inr (.inr ⟨fun other hother => ?_, by simp [hconflict, hd]⟩)
          obtain rfl := Option.some.inj hother
          exact ⟨hconflict, hd⟩

/-- **A definition is chosen** exactly when some tier selects it. -/
theorem outcome_select_eq_ok_iff {reason : ApplyReason} :
    (select contract definitions apply overrides).outcome = .ok (d, reason) ↔
      Selects contract definitions apply overrides d reason := by
  constructor
  · intro h
    rcases outcome_select_cases contract definitions apply overrides with
      ⟨id, top, hset, htop, hselect⟩ | ⟨hvariable, ⟨record, conflict, -, -, hselect⟩ |
        ⟨record, top, hrecord, hagreed, htop, hselect⟩ | ⟨hrecord, hselect⟩⟩
    · obtain ⟨rfl, rfl⟩ := Prod.mk.inj (Except.ok.inj (hselect.symm.trans h))
      exact .override id top hset htop
    · cases hselect.symm.trans h
    · obtain ⟨rfl, rfl⟩ := Prod.mk.inj (Except.ok.inj (hselect.symm.trans h))
      exact .record record top hvariable hrecord hagreed htop
    · have hlevel := mapError_eq_ok_iff.1 (hselect.symm.trans h)
      obtain ⟨htop, rfl⟩ := byLevel_eq_ok_iff.1 hlevel
      exact .highest d hvariable hrecord htop
  · intro h
    rw [outcome_select, outcome_byVariable, outcome_byRecord]
    cases h with
    | override id _ hset hd => simp only [hset, Option.bind_some, hd, Option.map_some]
    | record record _ hvariable hrecord hagreed hd =>
      simp only [variableIsSilent_iff.1 hvariable, hrecord, hagreed, hd, Option.map_none,
        Option.map_some]
    | highest _ hvariable hrecord htop =>
      have hlevel : byLevel contract definitions = .ok (d, .highest d.level) :=
        byLevel_eq_ok_iff.2 ⟨htop, rfl⟩
      rw [variableIsSilent_iff.1 hvariable, hlevel]
      cases apply with
      | none => rfl
      | some record =>
        obtain ⟨hagreed, hnone⟩ := hrecord record rfl
        simp only [hagreed, hnone, Option.map_none]
        rfl

/-- **An ambiguity** lists the topmost definitions, and these are not one alone. The record of the
contract must not carry an ambiguity itself. -/
theorem eq_topmost_of_outcome_select {name : String} {conflicts : List String}
    (hrecord : ∀ record ∈ apply, record.conflict ≠ some (.ambiguousLevel name conflicts))
    (h : (select contract definitions apply overrides).outcome =
      .error (.conflict (.ambiguousLevel name conflicts))) :
    name = contract ∧ conflicts = (topmost definitions).map ServiceDefinition.text ∧
      ∀ d, topmost definitions ≠ [d] := by
  rcases outcome_select_cases contract definitions apply overrides with
    ⟨id, top, -, -, hselect⟩ | ⟨-, ⟨record, conflict, happly, hconflict, hselect⟩ |
      ⟨record, top, -, -, -, hselect⟩ | ⟨-, hselect⟩⟩
  · cases hselect.symm.trans h
  · obtain rfl := Error.conflict.inj (Except.error.inj (hselect.symm.trans h))
    exact absurd hconflict (hrecord record happly)
  · cases hselect.symm.trans h
  · have hlevel := hselect.symm.trans h
    cases hby : byLevel contract definitions with
    | ok choice => simp [hby, Except.mapError] at hlevel
    | error e =>
      rw [hby] at hlevel
      obtain rfl := Error.conflict.inj (Except.error.inj hlevel)
      obtain ⟨hseveral, heq⟩ := byLevel_eq_error_iff.1 hby
      obtain ⟨rfl, rfl⟩ := ConflictError.ambiguousLevel.inj heq
      exact ⟨rfl, rfl, hseveral⟩

/-! ## Resolution -/

/-- To announce a choice never fails. -/
theorem outcome_announce (choice : ServiceChoice) : (announce choice).outcome = .ok () := by
  unfold announce
  rw [Report.outcome_say_bind, Report.outcome_say_bind]
  exact Report.outcome_forM_ok (fun _ => rfl) _

/-- A choice comes to what is selected, beside all definitions of the contract. -/
theorem outcome_resolve (contract : String) (definitions : Table ServiceDefinition)
    (apply : Option ApplyRecord) (overrides : Overrides) :
    (resolve contract definitions apply overrides).outcome =
      (select contract definitions apply overrides).outcome.map fun selected =>
        ⟨contract, selected.1, selected.2, definitions⟩ := by
  unfold resolve
  rw [Report.outcome_bind_eq]
  cases (select contract definitions apply overrides).outcome with
  | error e => rfl
  | ok selected =>
    show (announce _ >>= fun _ => (Pure.pure _ : Report ServiceChoice)).outcome = _
    rw [Report.outcome_bind_eq, outcome_announce]
    rfl

/-- **A contract is resolved** to the definition that some tier selects, beside all of them. -/
theorem outcome_resolve_eq_ok_iff {choice : ServiceChoice} :
    (resolve contract definitions apply overrides).outcome = .ok choice ↔
      choice.contract = contract ∧ choice.definitions = definitions ∧
        Selects contract definitions apply overrides choice.applied choice.reason := by
  rw [outcome_resolve, ← outcome_select_eq_ok_iff]
  cases (select contract definitions apply overrides).outcome with
  | error e => simp [Except.map]
  | ok selected =>
    obtain ⟨contract', applied, reason, definitions'⟩ := choice
    obtain ⟨d, why⟩ := selected
    simp only [Except.map, Except.ok.injEq, ServiceChoice.mk.injEq, Prod.mk.injEq]
    constructor
    · rintro ⟨rfl, rfl, rfl, rfl⟩
      exact ⟨rfl, rfl, rfl, rfl⟩
    · rintro ⟨rfl, rfl, rfl, rfl⟩
      exact ⟨rfl, rfl, rfl, rfl⟩

/-- A choice fails exactly where nothing can be selected. -/
theorem outcome_resolve_eq_error_iff {e : Error} :
    (resolve contract definitions apply overrides).outcome = .error e ↔
      (select contract definitions apply overrides).outcome = .error e := by
  rw [outcome_resolve, map_eq_error_iff]

end ServiceChoice

end Wiring
