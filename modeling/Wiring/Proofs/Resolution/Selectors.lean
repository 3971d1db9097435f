import Mathlib.Data.List.Pairwise
import Wiring.Proofs.Outcome
import Wiring.Resolution.Plugin

/-!
# Resolution · What selectors do to plugins

The order of a contract's plugins as a function of the selectors. The items of the ignore variable
and the ignore rules make one list of selectors, which is applied to each definition for itself
(`applyAll`): no selector looks at other definitions, and none changes what a later one selects.
Main statements: the outcome of the resolution in closed form (`outcome_resolve`), and that a
definition stays enabled exactly when no selector of the list selects it (`enabled_applyAll`) and
otherwise bears the place of the last one that does (`disabledBy_applyAll`). What stays enabled is
sorted by priority, and ties stay in order (`filter_sortEnabled`).
-/

namespace Wiring

/-- The definition as it was found, before anything disabled it. -/
def PluginDefinition.asFound (d : PluginDefinition) : PluginDefinition :=
  { d with enabled := true, disabledBy := none }

namespace PluginOrder

/-! ## One selector -/

namespace Selector

/-- Whether a selector selects a definition. -/
def Hits (s : Selector) (d : PluginDefinition) : Bool :=
  s.ignored.selects d.implementation

/-- A selector changes nothing of a definition as it was found. -/
theorem asFound_applyTo (s : Selector) (d : PluginDefinition) :
    (s.applyTo d).asFound = d.asFound := by
  unfold applyTo
  split <;> rfl

/-- A selector leaves the implementation as it is. -/
theorem implementation_applyTo (s : Selector) (d : PluginDefinition) :
    (s.applyTo d).implementation = d.implementation := by
  unfold applyTo
  split <;> rfl

/-- A definition stays enabled exactly where the selector does not select it. -/
theorem enabled_applyTo (s : Selector) (d : PluginDefinition) :
    (s.applyTo d).enabled = (d.enabled && !s.Hits d) := by
  unfold applyTo Hits
  split
  · next h => simp [h, PluginDefinition.disable]
  · next h => simp [h]

/-- A definition that is not selected stays as it is. -/
theorem applyTo_of_not_hits {s : Selector} {d : PluginDefinition} (h : s.Hits d = false) :
    s.applyTo d = d := by
  unfold Hits at h
  simp [applyTo, h]

/-- What a selector selects does not depend on what was disabled before. -/
theorem hits_applyTo (s t : Selector) (d : PluginDefinition) :
    s.Hits (t.applyTo d) = s.Hits d := by
  unfold Hits
  rw [implementation_applyTo]

end Selector

/-! ## A list of selectors -/

/-- The definition as the selectors of a list leave it, one after the other. -/
def applyAll (selectors : List Selector) (d : PluginDefinition) : PluginDefinition :=
  selectors.foldl (fun d s => s.applyTo d) d

/-- The first selector is applied first. -/
theorem applyAll_cons (s : Selector) (selectors : List Selector) (d : PluginDefinition) :
    applyAll (s :: selectors) d = applyAll selectors (s.applyTo d) := rfl

/-- Selectors in two parts are applied one part after the other. -/
theorem applyAll_append (first second : List Selector) (d : PluginDefinition) :
    applyAll (first ++ second) d = applyAll second (applyAll first d) :=
  List.foldl_append

/-- Selectors change nothing of a definition as it was found. -/
theorem asFound_applyAll (selectors : List Selector) (d : PluginDefinition) :
    (applyAll selectors d).asFound = d.asFound := by
  induction selectors generalizing d with
  | nil => rfl
  | cons s selectors ih => rw [applyAll_cons, ih, Selector.asFound_applyTo]

/-- Applying selectors to all definitions is applying them to each. -/
theorem foldl_map_applyTo (selectors : List Selector) (definitions : List PluginDefinition) :
    selectors.foldl (fun definitions s => definitions.map s.applyTo) definitions =
      definitions.map (applyAll selectors) := by
  induction selectors generalizing definitions with
  | nil =>
    have hid : applyAll [] = id := rfl
    rw [hid, List.map_id]
    rfl
  | cons s selectors ih =>
    rw [List.foldl_cons, ih, List.map_map]
    rfl

/-- **A definition stays enabled** exactly when no selector of the list selects it. -/
theorem enabled_applyAll (selectors : List Selector) (d : PluginDefinition) :
    (applyAll selectors d).enabled = (d.enabled && !selectors.any (·.Hits d)) := by
  induction selectors generalizing d with
  | nil => simp [applyAll]
  | cons s selectors ih =>
    have hrest : selectors.any (·.Hits (s.applyTo d)) = selectors.any (·.Hits d) := by
      congr 1
      funext t
      exact t.hits_applyTo s d
    rw [applyAll_cons, ih, Selector.enabled_applyTo, hrest, List.any_cons, Bool.not_or,
      Bool.and_assoc]

/-- A definition that stays enabled is not changed at all. -/
theorem applyAll_eq_self {selectors : List Selector} {d : PluginDefinition}
    (h : (applyAll selectors d).enabled = true) : applyAll selectors d = d := by
  induction selectors generalizing d with
  | nil => rfl
  | cons s selectors ih =>
    rw [enabled_applyAll, List.any_cons, Bool.and_eq_true, Bool.not_eq_true', Bool.or_eq_false_iff]
      at h
    obtain ⟨hd, hs, hrest⟩ := h
    have hstep : s.applyTo d = d := Selector.applyTo_of_not_hits hs
    rw [applyAll_cons, hstep]
    refine ih ?_
    rw [enabled_applyAll, hd, hrest]
    rfl

/-- **The reason** is the place of the last selector of the list that selects the definition. -/
theorem disabledBy_applyAll (selectors : List Selector) (d : PluginDefinition) :
    (applyAll selectors d).disabledBy =
      ((selectors.filter (·.Hits d)).getLast?.map Selector.origin).or d.disabledBy := by
  induction selectors generalizing d with
  | nil => rfl
  | cons s selectors ih =>
    rw [applyAll_cons, ih]
    simp only [Selector.hits_applyTo]
    cases hs : s.Hits d with
    | false => rw [Selector.applyTo_of_not_hits hs, List.filter_cons_of_neg (by simp [hs])]
    | true =>
      have hreason : (s.applyTo d).disabledBy = some s.origin := by
        unfold Selector.Hits at hs
        rw [Selector.applyTo, if_pos hs, PluginDefinition.disable]
      rw [hreason, List.filter_cons_of_pos (by simpa using hs), List.getLast?_cons]
      cases (selectors.filter (·.Hits d)).getLast? <;> rfl

/-! ## Sorting -/

/-- The order holds exactly the enabled definitions. -/
theorem sortEnabled_perm (definitions : List PluginDefinition) :
    (sortEnabled definitions).Perm (definitions.filter (·.enabled)) :=
  List.mergeSort_perm _ _

/-- Priorities are ordered transitively. -/
theorem le_priority_trans (a b c : PluginDefinition) (hab : decide (a.priority ≤ b.priority) = true)
    (hbc : decide (b.priority ≤ c.priority) = true) : decide (a.priority ≤ c.priority) = true :=
  decide_eq_true (Int.le_trans (of_decide_eq_true hab) (of_decide_eq_true hbc))

/-- Of two priorities one is at most the other. -/
theorem le_priority_total (a b : PluginDefinition) :
    (decide (a.priority ≤ b.priority) || decide (b.priority ≤ a.priority)) = true := by
  rw [Bool.or_eq_true, decide_eq_true_eq, decide_eq_true_eq]
  exact Int.le_total a.priority b.priority

/-- The sorted plugins ascend by priority. -/
theorem pairwise_sortEnabled (definitions : List PluginDefinition) :
    (sortEnabled definitions).Pairwise fun a b => a.priority ≤ b.priority :=
  (List.pairwise_mergeSort le_priority_trans le_priority_total _).imp of_decide_eq_true

/-- **Ties stay in order**: the sorted plugins of one priority are the enabled ones as they were
found. -/
theorem filter_sortEnabled (definitions : List PluginDefinition) (priority : Int) :
    (sortEnabled definitions).filter (·.priority = priority) =
      (definitions.filter (·.enabled)).filter (·.priority = priority) := by
  have htied : ((definitions.filter (·.enabled)).filter (·.priority = priority)).Pairwise
      fun a b => decide (a.priority ≤ b.priority) = true := by
    refine List.pairwise_of_forall_mem_list fun a ha b hb => decide_eq_true ?_
    have hpa := of_decide_eq_true (List.mem_filter.1 ha).2
    have hpb := of_decide_eq_true (List.mem_filter.1 hb).2
    exact Int.le_of_eq (hpa.trans hpb.symm)
  -- a sorted part of a list is still a part of it once the list is sorted
  have hsublist := (List.sublist_mergeSort le_priority_trans le_priority_total htied
    List.filter_sublist).filter (·.priority = priority)
  rw [List.filter_eq_self.2 fun d hd => (List.mem_filter.1 hd).2] at hsublist
  refine (hsublist.eq_of_length ?_).symm
  exact ((sortEnabled_perm definitions).symm.filter _).length_eq

/-! ## Outcomes -/

/-- The selector that an item of the ignore variable of a contract spells. -/
def readSelector (contract item : String) : Except SyntaxError Selector :=
  let origin := Overrides.ignoreVariable contract
  (Implementation.parse item contract origin).map fun ignored => ⟨ignored, origin⟩

/-- The selectors that the ignore variable of a contract spells, in order. -/
def variableSelectors (contract : String) (overrides : Overrides) :
    Except SyntaxError (List Selector) :=
  (variableItems contract overrides).mapM (readSelector contract)

/-- The order of some definitions as they are. -/
def ofDefinitions (contract : String) (definitions : List PluginDefinition) : PluginOrder :=
  ⟨contract, sortEnabled definitions, definitions⟩

/-- A selector is applied to every definition, and that never fails. -/
theorem outcome_disable (contract : String) (definitions : List PluginDefinition) (s : Selector) :
    (disable contract definitions s).outcome = .ok (definitions.map s.applyTo) := by
  unfold disable
  split <;> rfl

/-- An item that can be read is applied as the selector it spells. -/
theorem disableItem_of_parse {contract item : String} {i : Implementation}
    (h : Implementation.parse item contract (Overrides.ignoreVariable contract) = .ok i)
    (definitions : List PluginDefinition) :
    disableItem contract definitions item =
      disable contract definitions ⟨i, Overrides.ignoreVariable contract⟩ := by
  unfold disableItem
  dsimp only
  rw [h]
  rfl

/-- An item disables what its selector selects, and fails if it spells none. -/
theorem outcome_disableItem (contract : String) (definitions : List PluginDefinition)
    (item : String) :
    (disableItem contract definitions item).outcome =
      ((readSelector contract item).mapError .malformed).map fun s =>
        definitions.map s.applyTo := by
  unfold disableItem readSelector
  dsimp only
  rw [Report.outcome_bind_eq, Report.outcome_ofSyntax]
  cases Implementation.parse item contract (Overrides.ignoreVariable contract) with
  | error e => rfl
  | ok ignored => exact outcome_disable contract definitions _

/-- Rules are all applied. -/
theorem outcome_foldlM_disable (contract : String) (definitions : List PluginDefinition)
    (selectors : List Selector) :
    (selectors.foldlM (disable contract) definitions).outcome =
      .ok (definitions.map (applyAll selectors)) := by
  rw [Report.outcome_foldlM, ← foldl_map_applyTo]
  simp only [outcome_disable]
  exact List.foldlM_pure

/-- The items of the ignore variable are all applied, if all can be read. -/
theorem outcome_foldlM_disableItem (contract : String) (definitions : List PluginDefinition)
    (overrides : Overrides) :
    ((variableItems contract overrides).foldlM (disableItem contract) definitions).outcome =
      ((variableSelectors contract overrides).mapError .malformed).map fun selectors =>
        definitions.map (applyAll selectors) := by
  rw [Report.outcome_foldlM, variableSelectors, mapM_mapError]
  simp only [outcome_disableItem, ← foldl_map_applyTo]
  exact foldlM_map_eq_map_mapM _ _ _ _

/-- To announce an order never fails. -/
theorem outcome_announce (order : PluginOrder) : (announce order).outcome = .ok () := by
  have hsay {f : PluginDefinition → Report Unit} (hf : ∀ d, (f d).outcome = .ok ())
      (ds : List PluginDefinition) : (ds.forM f).outcome = .ok () :=
    Report.outcome_forM_ok hf ds
  unfold announce
  rw [Report.outcome_bind_eq, hsay fun _ => rfl]
  show (_ >>= _ : Report Unit).outcome = _
  rw [Report.outcome_bind_eq, hsay fun _ => rfl]
  show (_ >>= _ : Report Unit).outcome = _
  rw [Report.outcome_bind_eq, hsay fun _ => rfl]
  show (if 0 < _ then _ else _ : Report Unit).outcome = _
  split <;> rfl

/-- **The resolution of a contract's plugins in closed form**: it fails only over the ignore
variable, and otherwise every definition is left as all selectors leave it. -/
theorem outcome_resolve (contract : String) (definitions : List PluginDefinition)
    (rules : List IgnoreRule) (overrides : Overrides) :
    (resolve contract definitions rules overrides).outcome =
      ((variableSelectors contract overrides).mapError .malformed).map fun selectors =>
        ofDefinitions contract
          (definitions.map (applyAll (selectors ++ rules.map Selector.ofRule))) := by
  unfold resolve
  rw [Report.outcome_bind_eq, outcome_foldlM_disableItem]
  cases variableSelectors contract overrides with
  | error e => rfl
  | ok selectors =>
    have hcompose : definitions.map (applyAll (selectors ++ rules.map Selector.ofRule)) =
        (definitions.map (applyAll selectors)).map (applyAll (rules.map Selector.ofRule)) := by
      rw [List.map_map]
      exact List.map_congr_left fun d _ => applyAll_append selectors _ d
    show (_ >>= _ : Report PluginOrder).outcome = Except.ok (ofDefinitions contract _)
    rw [hcompose, Report.outcome_bind_eq, outcome_foldlM_disable]
    show (announce _ >>= fun _ => (Pure.pure _ : Report PluginOrder)).outcome = _
    rw [Report.outcome_bind_eq, outcome_announce]
    rfl

/-- The order is that of the definitions as all selectors leave them: variable first, then rules. -/
theorem outcome_resolve_eq_ok_iff {contract : String} {definitions : List PluginDefinition}
    {rules : List IgnoreRule} {overrides : Overrides} {order : PluginOrder} :
    (resolve contract definitions rules overrides).outcome = .ok order ↔
      ∃ selectors, variableSelectors contract overrides = .ok selectors ∧
        order = ofDefinitions contract
          (definitions.map (applyAll (selectors ++ rules.map Selector.ofRule))) := by
  rw [outcome_resolve, map_eq_ok_iff]
  simp only [mapError_eq_ok_iff]

end PluginOrder

end Wiring
