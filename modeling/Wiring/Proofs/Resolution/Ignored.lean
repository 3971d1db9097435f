import Wiring.Proofs.Resolution.Misses

/-!
# Resolution · What ignoring leaves

The plugins of a contract after its ignore variable and its ignore rules, field by field. The items
of the variable are read from left to right and the first that cannot be read ends the resolution;
otherwise items and rules make one list of selectors, items first (`selectorsOf`). `IsLeftBy` says
what a list of selectors leaves of a single definition and `IsLeftUnder` what is left of all of
them, with the order of those that stay enabled. Main statement: both, together with the warnings,
which are one for each selector that selects nothing (`resolve_under_selectors`). A selector counts
as a match whether or not an earlier one has disabled what it selects.
-/

namespace Wiring

namespace Report

variable {α : Type}

/-- Where nothing said is a warning, there are no warnings. -/
theorem warnings_eq_nil {report : Report α} (h : report.SaysOnly (·.severity ≠ .warning)) :
    report.warnings = [] := by
  rw [warnings, List.filter_eq_nil_iff]
  intro note hnote
  simpa using h note hnote

/-- The warnings that are shown at a verbosity, where none of them only sums up. -/
theorem warningsAt_eq_ite {report : Report α} (h : ∀ note ∈ report.warnings, note.brief = false)
    (v : Verbosity) : report.warningsAt v = if v = .error then [] else report.warnings := by
  have hwarning : ∀ note ∈ report.warnings, note.severity = .warning := fun note hnote =>
    of_decide_eq_true (List.mem_filter.1 hnote).2
  rw [warningsAt_eq_filter]
  split
  · next hv =>
    subst hv
    exact filter_admits_error fun note hnote => by simp [hwarning note hnote]
  · next hv =>
    refine filter_admits_eq_self (fun note hnote => ⟨?_, h note hnote⟩) hv
    rw [hwarning note hnote]
    rfl

end Report

namespace PluginOrder

open Report

variable {contract : String} {definitions : List PluginDefinition}

/-! ## What is left -/

/-- The selectors of a contract: those that the items of its variable spell, then its rules. -/
def selectorsOf (contract : String) (ignored : List Implementation) (rules : List IgnoreRule) :
    List Selector :=
  ignored.map (fun i => ⟨i, Overrides.ignoreVariable contract⟩) ++ rules.map Selector.ofRule

/-- Whether a selector selects none of the definitions. -/
def Selector.Misses (s : Selector) (definitions : List PluginDefinition) : Bool :=
  definitions.all fun d => !s.Hits d

/-- Whether `d'` is what the selectors leave of the definition `d`. -/
structure IsLeftBy (selectors : List Selector) (d d' : PluginDefinition) : Prop where
  /-- Nothing else is touched. -/
  asFound : d'.asFound = d.asFound
  /-- It stays enabled if no selector selects it. -/
  enabled : d'.enabled = true ↔ d.enabled = true ∧ ∀ s ∈ selectors, s.Hits d = false
  /-- The reason is the place of the last selector that selects it. -/
  disabledBy : d'.disabledBy =
    ((selectors.filter (·.Hits d)).getLast?.map Selector.origin).or d.disabledBy

/-- Whether an order is what the selectors leave of the definitions of a contract. -/
structure IsLeftUnder (contract : String) (definitions : List PluginDefinition)
    (selectors : List Selector) (order : PluginOrder) : Prop where
  /-- It is for that contract. -/
  contract : order.contract = contract
  /-- Each definition is left at its place. -/
  definitions : List.Forall₂ (IsLeftBy selectors) definitions order.definitions
  /-- Those that are enabled are ordered, each as often as it was found. -/
  perm : order.ordered.Perm (order.definitions.filter (·.enabled))
  /-- Priorities ascend. -/
  ascending : order.ordered.Pairwise fun a b => a.priority ≤ b.priority
  /-- Those of one priority are in the order in which they were found. -/
  ties : ∀ priority, order.ordered.filter (·.priority = priority) =
    (order.definitions.filter (·.enabled)).filter (·.priority = priority)

/-- What selectors make of a definition is what they leave of it. -/
theorem isLeftBy_applyAll (selectors : List Selector) (d : PluginDefinition) :
    IsLeftBy selectors d (applyAll selectors d) where
  asFound := asFound_applyAll selectors d
  enabled := by
    rw [enabled_applyAll, Bool.and_eq_true, Bool.not_eq_true', List.any_eq_false]
    simp only [Bool.not_eq_true]
  disabledBy := disabledBy_applyAll selectors d

/-- The order of what selectors make of definitions is what they leave of these. -/
theorem isLeftUnder_ofDefinitions (contract : String) (definitions : List PluginDefinition)
    (selectors : List Selector) :
    IsLeftUnder contract definitions selectors
      (ofDefinitions contract (definitions.map (applyAll selectors))) where
  contract := rfl
  definitions := List.forall₂_map_right_iff.2 (List.forall₂_same.2 fun d _ =>
    isLeftBy_applyAll selectors d)
  perm := sortEnabled_perm _
  ascending := pairwise_sortEnabled _
  ties := filter_sortEnabled _

/-! ## The variable -/

/-- The variable of a contract spells the selectors that its items spell. -/
theorem variableSelectors_eq_ok_iff {overrides : Overrides} {selectors : List Selector} :
    variableSelectors contract overrides = .ok selectors ↔
      ∃ ignored, List.Forall₂ (fun item i =>
          Implementation.parse item contract (Overrides.ignoreVariable contract) = .ok i)
          (variableItems contract overrides) ignored ∧
        selectors = ignored.map fun i => ⟨i, Overrides.ignoreVariable contract⟩ := by
  rw [variableSelectors, mapM_eq_ok_iff]
  exact forall₂_map_eq_ok_iff

/-- **The resolution fails** over the first item of the variable that cannot be read. -/
theorem outcome_resolve_eq_error_iff {rules : List IgnoreRule} {overrides : Overrides} {e : Error} :
    (resolve contract definitions rules overrides).outcome = .error e ↔
      ∃ before item after cause, variableItems contract overrides = before ++ item :: after ∧
        (∀ other ∈ before, ∃ i,
          Implementation.parse other contract (Overrides.ignoreVariable contract) = .ok i) ∧
        Implementation.parse item contract (Overrides.ignoreVariable contract) = .error cause ∧
        e = .malformed cause := by
  have hvariable : (resolve contract definitions rules overrides).outcome = .error e ↔
      ∃ cause, variableSelectors contract overrides = .error cause ∧ e = .malformed cause := by
    rw [outcome_resolve, map_eq_error_iff, mapError_eq_error_iff]
  have hok (item : String) : (∃ s, readSelector contract item = .ok s) ↔ ∃ i,
      Implementation.parse item contract (Overrides.ignoreVariable contract) = .ok i :=
    exists_map_eq_ok_iff
  have herror (item : String) (cause : SyntaxError) : readSelector contract item = .error cause ↔
      Implementation.parse item contract (Overrides.ignoreVariable contract) = .error cause :=
    map_eq_error_iff
  rw [hvariable]
  simp only [variableSelectors, mapM_eq_error_iff, hok, herror]
  constructor
  · rintro ⟨cause, ⟨before, item, after, hsplit, hbefore, hitem⟩, rfl⟩
    exact ⟨before, item, after, cause, hsplit, hbefore, hitem, rfl⟩
  · rintro ⟨before, item, after, cause, hsplit, hbefore, hitem, rfl⟩
    exact ⟨cause, ⟨before, item, after, hsplit, hbefore, hitem⟩, rfl⟩

/-! ## Warnings -/

/-- What a selector misses does not depend on what another one disabled. -/
theorem misses_map_applyTo (s t : Selector) (definitions : List PluginDefinition) :
    s.Misses (definitions.map t.applyTo) = s.Misses definitions := by
  simp only [Selector.Misses, List.all_map, Function.comp_def, Selector.hits_applyTo]

/-- What a selector misses does not depend on what others disabled. -/
theorem misses_map_applyAll (s : Selector) (selectors : List Selector)
    (definitions : List PluginDefinition) :
    s.Misses (definitions.map (applyAll selectors)) = s.Misses definitions := by
  have himplementation (d : PluginDefinition) :
      (applyAll selectors d).implementation = d.implementation := by
    have hfound := congrArg PluginDefinition.implementation (asFound_applyAll selectors d)
    exact hfound
  simp only [Selector.Misses, List.all_map, Function.comp_def, Selector.Hits, himplementation]

/-- A selector that misses is warned of, and nothing else is. -/
theorem warnings_disable (contract : String) (definitions : List PluginDefinition) (s : Selector) :
    (disable contract definitions s).warnings =
      if s.Misses definitions then [missedSelector contract s] else [] := by
  have hmisses : s.Misses definitions =
      !definitions.any fun d => s.ignored.selects d.implementation := by
    simp [Selector.Misses, Selector.Hits, List.not_any_eq_all_not]
  unfold disable
  rw [hmisses]
  split <;> rfl

/-- **Selectors warn** one by one, in order, of what they miss among the definitions as they were
before any of them. -/
theorem warnings_foldlM_disable (contract : String) (selectors : List Selector)
    (definitions : List PluginDefinition) :
    (selectors.foldlM (disable contract) definitions).warnings =
      (selectors.filter (·.Misses definitions)).map (missedSelector contract) := by
  induction selectors generalizing definitions with
  | nil => rfl
  | cons s selectors ih =>
    rw [List.foldlM_cons, warnings_bind_of_ok (outcome_disable contract definitions s), ih,
      warnings_disable]
    simp only [misses_map_applyTo]
    cases hs : s.Misses definitions with
    | true =>
      rw [List.filter_cons_of_pos (by simpa using hs), if_pos rfl, List.map_cons,
        List.singleton_append]
    | false =>
      rw [List.filter_cons_of_neg (by simp [hs]), if_neg Bool.false_ne_true, List.nil_append]

/-- Items that can be read are applied as the selectors they spell. -/
theorem foldlM_disableItem_eq {items : List String} {ignored : List Implementation}
    (h : List.Forall₂ (fun item i =>
      Implementation.parse item contract (Overrides.ignoreVariable contract) = .ok i) items ignored)
    (definitions : List PluginDefinition) :
    items.foldlM (disableItem contract) definitions =
      (ignored.map fun i => (⟨i, Overrides.ignoreVariable contract⟩ : Selector)).foldlM
        (disable contract) definitions := by
  induction h generalizing definitions with
  | nil => rfl
  | @cons item i items ignored hitem _ ih =>
    rw [List.foldlM_cons, List.map_cons, List.foldlM_cons, disableItem_of_parse hitem]
    simp only [ih]

/-- To announce an order warns of nothing. -/
theorem warnings_announce (order : PluginOrder) : (announce order).warnings = [] := by
  have hsay (text : String) : (say .debug text).SaysOnly (·.severity ≠ .warning) :=
    saysOnly_say nofun
  have hsumUp (text : String) : (sumUp text).SaysOnly (·.severity ≠ .warning) :=
    saysOnly_sumUp nofun
  refine warnings_eq_nil ?_
  unfold announce
  refine (saysOnly_forM (fun _ => hsay _) _).bind fun _ =>
    (saysOnly_forM (fun _ => hsay _) _).bind fun _ =>
      (saysOnly_forM (fun _ => hsumUp _) _).bind fun _ => ?_
  dsimp only
  split
  · exact hsumUp _
  · exact saysOnly_pure _

/-- **The warnings of a resolution** that succeeds are those of its selectors. -/
theorem warnings_resolve {rules : List IgnoreRule} {overrides : Overrides}
    {ignored : List Implementation}
    (h : List.Forall₂ (fun item i =>
      Implementation.parse item contract (Overrides.ignoreVariable contract) = .ok i)
      (variableItems contract overrides) ignored) :
    (resolve contract definitions rules overrides).warnings =
      ((selectorsOf contract ignored rules).filter (·.Misses definitions)).map
        (missedSelector contract) := by
  have hannounce (order : PluginOrder) :
      (announce order >>= fun _ => Pure.pure order : Report PluginOrder).warnings = [] := by
    rw [warnings_bind_of_ok (outcome_announce order), warnings_announce]
    rfl
  unfold resolve
  rw [foldlM_disableItem_eq h, warnings_bind_of_ok (outcome_foldlM_disable _ _ _),
    warnings_foldlM_disable, warnings_bind_of_ok (outcome_foldlM_disable _ _ _),
    warnings_foldlM_disable, selectorsOf, List.filter_append, List.map_append]
  simp only [misses_map_applyAll, hannounce, List.append_nil]

/-! ## Main statement -/

/-- **The plugins of a contract under its selectors.** The resolution fails exactly when an item of
the ignore variable cannot be read, and then over the first such item. Otherwise the items and after
them the rules leave of the definitions what `IsLeftUnder` says, and each selector that selects no
definition is warned of, in order. The warnings are shown at all verbosities but the lowest. -/
theorem resolve_under_selectors (contract : String) (definitions : List PluginDefinition)
    (rules : List IgnoreRule) (overrides : Overrides) :
    (∀ e, (resolve contract definitions rules overrides).outcome = .error e ↔
      ∃ before item after cause, variableItems contract overrides = before ++ item :: after ∧
        (∀ other ∈ before, ∃ i,
          Implementation.parse other contract (Overrides.ignoreVariable contract) = .ok i) ∧
        Implementation.parse item contract (Overrides.ignoreVariable contract) = .error cause ∧
        e = .malformed cause) ∧
    ∀ order, (resolve contract definitions rules overrides).outcome = .ok order →
      ∃ ignored, List.Forall₂ (fun item i =>
          Implementation.parse item contract (Overrides.ignoreVariable contract) = .ok i)
          (variableItems contract overrides) ignored ∧
        IsLeftUnder contract definitions (selectorsOf contract ignored rules) order ∧
        ∀ v, (resolve contract definitions rules overrides).warningsAt v =
          if v = .error then []
          else ((selectorsOf contract ignored rules).filter (·.Misses definitions)).map
            (missedSelector contract) := by
  refine ⟨fun e => outcome_resolve_eq_error_iff, fun order h => ?_⟩
  obtain ⟨selectors, hvariable, rfl⟩ := outcome_resolve_eq_ok_iff.1 h
  obtain ⟨ignored, hignored, rfl⟩ := variableSelectors_eq_ok_iff.1 hvariable
  refine ⟨ignored, hignored, isLeftUnder_ofDefinitions contract definitions _, fun v => ?_⟩
  rw [← warnings_resolve hignored]
  refine warningsAt_eq_ite (fun note hnote => ?_) v
  rw [warnings_resolve hignored] at hnote
  obtain ⟨s, -, rfl⟩ := List.mem_map.1 hnote
  rfl

end PluginOrder

end Wiring
