import Wiring.Proofs.Records.Reordered
import Wiring.Proofs.Resolution.Selectors
import Wiring.Proofs.Resolution.Soundness

/-!
# Resolution · Modules in another order

What the decisions below a root owe to the order of the modules. Inside, much depends on it: which
of several agreeing apply records is kept, which rule disables a plugin last, how ties of priority
are broken. Main statement: two views that list the same resources, each in an order of its own,
either both resolve or both fail; the services are then applied and the plugins enabled alike, and
the order of the plugins of a contract is the same unless priorities tie. What may differ is the
resource that is named as the reason for a choice by record, and the rule named as the reason why a
plugin is disabled.
-/

namespace Wiring

/-- Two options are related where each value of the first has a partner and the first has a value
whenever the second has. -/
theorem optionRel_of_exists {α β : Type} {R : α → β → Prop} {a? : Option α} {b? : Option β}
    (hfirst : ∀ a, a? = some a → ∃ b, b? = some b ∧ R a b)
    (hsecond : ∀ b, b? = some b → ∃ a, a? = some a) : Option.Rel R a? b? := by
  cases a? with
  | some a =>
    obtain ⟨b, rfl, hab⟩ := hfirst a rfl
    exact .some hab
  | none =>
    cases b? with
    | none => exact .none
    | some b =>
      obtain ⟨a, ha⟩ := hsecond b rfl
      cases ha

/-! ## Services -/

/-- Whether two reasons are of one kind: the same variable, the same level, or some record each. -/
inductive ApplyReason.SameKind : ApplyReason → ApplyReason → Prop
  /-- The same variable says so. -/
  | override (name : String) : SameKind (.override name) (.override name)
  /-- A record says so, wherever it stands. -/
  | record (source source' : Location) : SameKind (.record source) (.record source')
  /-- The same level is the highest. -/
  | highest (level : Level) : SameKind (.highest level) (.highest level)

namespace ServiceChoice

/-- Whether two choices come to the same, the place of the apply record apart. -/
structure SameDecision (choice choice' : ServiceChoice) : Prop where
  /-- They are for one contract. -/
  contract : choice.contract = choice'.contract
  /-- The same definition is applied. -/
  applied : choice.applied = choice'.applied
  /-- The reasons are of one kind. -/
  reason : choice.reason.SameKind choice'.reason
  /-- It was chosen from the same definitions. -/
  definitions : choice.definitions = choice'.definitions

variable {contract : String} {definitions : Table ServiceDefinition}
  {apply apply' : Option ApplyRecord} {overrides : Overrides} {d : ServiceDefinition}

/-- A tier selects what it selects whichever of several records of one effect is kept. -/
theorem Selects.exists_sameKind {reason : ApplyReason}
    (hsame : Option.Rel ApplyRecord.SameEffect apply apply')
    (h : Selects contract definitions apply overrides d reason) :
    ∃ reason', Selects contract definitions apply' overrides d reason' ∧
      reason.SameKind reason' := by
  cases h with
  | override id _ hset hd => exact ⟨_, .override id d hset hd, .override _⟩
  | record record _ hvariable hrecord hagreed hd =>
    subst hrecord
    cases hsame with
    | @some _ record' heffect =>
      have hagreed' := heffect.1.1 hagreed
      rw [heffect.2 hagreed] at hd
      exact ⟨_, .record record' d hvariable rfl hagreed' hd, .record _ _⟩
  | highest _ hvariable hrecord htop =>
    refine ⟨_, .highest d hvariable ?_ htop, .highest _⟩
    intro record' hrecord'
    cases hsame with
    | none => cases hrecord'
    | @some record _ heffect =>
      obtain rfl := Option.some.inj hrecord'
      obtain ⟨hagreed, hnone⟩ := hrecord record rfl
      rw [heffect.2 hagreed] at hnone
      exact ⟨heffect.1.1 hagreed, hnone⟩

/-- A contract is resolved alike from records of one effect. -/
theorem exists_sameDecision {choice : ServiceChoice}
    (hsame : Option.Rel ApplyRecord.SameEffect apply apply')
    (h : (resolve contract definitions apply overrides).outcome = .ok choice) :
    ∃ choice', (resolve contract definitions apply' overrides).outcome = .ok choice' ∧
      choice.SameDecision choice' := by
  obtain ⟨hcontract, hdefinitions, hselects⟩ := outcome_resolve_eq_ok_iff.1 h
  obtain ⟨reason', hselects', hkind⟩ := hselects.exists_sameKind hsame
  refine ⟨⟨contract, choice.applied, reason', definitions⟩, ?_, ?_⟩
  · exact outcome_resolve_eq_ok_iff.2 ⟨rfl, rfl, hselects'⟩
  · exact ⟨hcontract, rfl, hkind, hdefinitions⟩

end ServiceChoice

/-! ## Plugins -/

namespace PluginOrder

/-- Whether two orders of a contract's plugins come to the same, up to the order in which the
definitions were found. -/
structure SameUpToOrder (order order' : PluginOrder) : Prop where
  /-- They are for one contract. -/
  contract : order.contract = order'.contract
  /-- The same definitions were found, and the same of them are enabled. -/
  definitions : (order.definitions.map fun d => (d.asFound, d.enabled)).Perm
    (order'.definitions.map fun d => (d.asFound, d.enabled))
  /-- The same plugins are ordered. -/
  ordered : order.ordered.Perm order'.ordered
  /-- Unless priorities of enabled plugins tie, they are ordered alike. -/
  ordered_eq : ((order.definitions.filter (·.enabled)).map (·.priority)).Nodup →
    order.ordered = order'.ordered

/-- The one order is empty exactly when the other is. -/
theorem SameUpToOrder.definitions_ne_nil_iff {order order' : PluginOrder}
    (h : order.SameUpToOrder order') : order.definitions ≠ [] ↔ order'.definitions ≠ [] := by
  have hlength := h.definitions.length_eq
  rw [List.length_map, List.length_map] at hlength
  rw [← List.length_pos_iff, ← List.length_pos_iff, hlength]

/-- The definitions that selectors leave enabled are those that were so and that none selects. -/
theorem filter_enabled_map_applyAll (selectors : List Selector)
    (definitions : List PluginDefinition) :
    (definitions.map (applyAll selectors)).filter (·.enabled) =
      definitions.filter fun d => d.enabled && !selectors.any (·.Hits d) := by
  rw [List.filter_map]
  have hcond : ((·.enabled) ∘ applyAll selectors : PluginDefinition → Bool) =
      fun d => d.enabled && !selectors.any (·.Hits d) := by
    funext d
    exact enabled_applyAll selectors d
  rw [hcond]
  -- what passes the filter is not changed by any selector
  have hself : ∀ d ∈ definitions.filter fun d => d.enabled && !selectors.any (·.Hits d),
      applyAll selectors d = id d := by
    intro d hd
    refine applyAll_eq_self ?_
    rw [enabled_applyAll]
    exact (List.mem_filter.1 hd).2
  rw [List.map_congr_left hself, List.map_id]

/-- Without ties there is one order of ascending priority only. -/
theorem sortEnabled_eq_of_perm {definitions definitions' : List PluginDefinition}
    (hperm : (definitions.filter (·.enabled)).Perm (definitions'.filter (·.enabled)))
    (hdistinct : ((definitions.filter (·.enabled)).map (·.priority)).Nodup) :
    sortEnabled definitions = sortEnabled definitions' := by
  refine List.Perm.eq_of_pairwise ?_ (pairwise_sortEnabled definitions)
    (pairwise_sortEnabled definitions') ?_
  · intro a b ha hb hab hba
    have ha' := (sortEnabled_perm definitions).mem_iff.1 ha
    have hb' := hperm.mem_iff.2 ((sortEnabled_perm definitions').mem_iff.1 hb)
    exact List.inj_on_of_nodup_map hdistinct ha' hb' (Int.le_antisymm hab hba)
  · exact (sortEnabled_perm definitions).trans (hperm.trans (sortEnabled_perm definitions').symm)

/-- **Plugins are resolved alike** from the same definitions and rules in another order. -/
theorem exists_sameUpToOrder {contract : String} {definitions definitions' : List PluginDefinition}
    {rules rules' : List IgnoreRule} {overrides : Overrides} {order : PluginOrder}
    (hdefinitions : definitions.Perm definitions') (hrules : rules.Perm rules')
    (h : (resolve contract definitions rules overrides).outcome = .ok order) :
    ∃ order', (resolve contract definitions' rules' overrides).outcome = .ok order' ∧
      order.SameUpToOrder order' := by
  obtain ⟨selectors, hvariable, rfl⟩ := outcome_resolve_eq_ok_iff.1 h
  refine ⟨_, outcome_resolve_eq_ok_iff.2 ⟨selectors, hvariable, rfl⟩, ?_⟩
  have hselectors : (selectors ++ rules.map Selector.ofRule).Perm
      (selectors ++ rules'.map Selector.ofRule) := (hrules.map _).append_left selectors
  have hany (d : PluginDefinition) : (selectors ++ rules.map Selector.ofRule).any (·.Hits d) =
      (selectors ++ rules'.map Selector.ofRule).any (·.Hits d) := hselectors.any_eq
  generalize selectors ++ rules.map Selector.ofRule = all at hany
  generalize selectors ++ rules'.map Selector.ofRule = all' at hany
  have henabled : ((definitions.map (applyAll all)).filter (·.enabled)).Perm
      ((definitions'.map (applyAll all')).filter (·.enabled)) := by
    rw [filter_enabled_map_applyAll, filter_enabled_map_applyAll]
    simp only [hany]
    exact hdefinitions.filter _
  refine ⟨rfl, ?_, ?_, ?_⟩
  · show ((definitions.map (applyAll all)).map _).Perm ((definitions'.map (applyAll all')).map _)
    rw [List.map_map, List.map_map]
    have hpair : ((fun d : PluginDefinition => (d.asFound, d.enabled)) ∘ applyAll all) =
        (fun d : PluginDefinition => (d.asFound, d.enabled)) ∘ applyAll all' := by
      funext d
      simp only [Function.comp_apply, asFound_applyAll, enabled_applyAll, hany]
    rw [hpair]
    exact hdefinitions.map _
  · exact (sortEnabled_perm _).trans (henabled.trans (sortEnabled_perm _).symm)
  · intro hdistinct
    exact sortEnabled_eq_of_perm henabled hdistinct

end PluginOrder

/-! ## Contracts one by one -/

namespace Resolved

open Enumerator (viewOf)

variable {records records' : Records} {overrides : Overrides}

/-- **Services are resolved alike** from records that are the same up to order. -/
theorem exists_outcome_addChoices_of_sameUpToOrder (hsame : records.SameUpToOrder records')
    {choices : Table ServiceChoice}
    (h : (records.services.toList.foldlM (addChoice records overrides) ∅).outcome = .ok choices) :
    ∃ choices', (records'.services.toList.foldlM (addChoice records' overrides) ∅).outcome =
        .ok choices' ∧
      ∀ contract : String,
        Option.Rel ServiceChoice.SameDecision choices[contract]? choices'[contract]? := by
  have heach := exists_outcome_addChoices_iff.1 ⟨choices, h⟩
  have heach' : ∃ choices', (records'.services.toList.foldlM (addChoice records' overrides)
      ∅).outcome = .ok choices' := by
    refine exists_outcome_addChoices_iff.2 fun contract definitions hdefinitions => ?_
    rw [← hsame.services] at hdefinitions
    obtain ⟨choice, hchoice⟩ := heach contract definitions hdefinitions
    obtain ⟨choice', hchoice', -⟩ :=
      ServiceChoice.exists_sameDecision (hsame.applies contract) hchoice
    exact ⟨choice', hchoice'⟩
  obtain ⟨choices', h'⟩ := heach'
  refine ⟨choices', h', fun contract => optionRel_of_exists ?_ ?_⟩
  · intro choice hchoice
    obtain ⟨definitions, hdefinitions, hok⟩ := (getElem?_addChoices_iff h).1 hchoice
    obtain ⟨choice', hok', hdecision⟩ :=
      ServiceChoice.exists_sameDecision (hsame.applies contract) hok
    rw [hsame.services] at hdefinitions
    exact ⟨choice', (getElem?_addChoices_iff h').2 ⟨definitions, hdefinitions, hok'⟩, hdecision⟩
  · intro choice' hchoice'
    obtain ⟨definitions, hdefinitions, -⟩ := (getElem?_addChoices_iff h').1 hchoice'
    rw [← hsame.services] at hdefinitions
    obtain ⟨choice, hok⟩ := heach contract definitions hdefinitions
    exact ⟨choice, (getElem?_addChoices_iff h).2 ⟨definitions, hdefinitions, hok⟩⟩

/-- Records that are the same up to order have the same plugin contracts. -/
theorem pluginContracts_eq (hsame : records.SameUpToOrder records') :
    pluginContracts records = pluginContracts records' := by
  unfold pluginContracts
  congr 1
  refine Std.ExtTreeSet.ext_mem fun contract => ?_
  rw [NameSet.mem_ofNames, NameSet.mem_ofNames]
  simp only [List.mem_append, Std.ExtTreeMap.mem_keys, (hsame.plugins contract).1,
    (hsame.ignores contract).1]

/-- **Plugins are resolved alike** from records that are the same up to order. -/
theorem exists_outcome_addOrders_of_sameUpToOrder (hsame : records.SameUpToOrder records')
    {orders : Table PluginOrder}
    (h : ((pluginContracts records).foldlM (addOrder records overrides) ∅).outcome =
      .ok orders) :
    ∃ orders', ((pluginContracts records').foldlM (addOrder records' overrides) ∅).outcome =
        .ok orders' ∧
      ∀ contract : String,
        Option.Rel PluginOrder.SameUpToOrder orders[contract]? orders'[contract]? := by
  rw [← pluginContracts_eq hsame]
  have heach := exists_outcome_addOrders_iff.1 ⟨orders, h⟩
  have halike {contract : String} {order : PluginOrder}
      (hok : (PluginOrder.resolve contract (records.plugins.getD contract [])
        (records.ignores.getD contract []) overrides).outcome = .ok order) :
      ∃ order', (PluginOrder.resolve contract (records'.plugins.getD contract [])
          (records'.ignores.getD contract []) overrides).outcome = .ok order' ∧
        order.SameUpToOrder order' :=
    PluginOrder.exists_sameUpToOrder (hsame.plugins contract).2 (hsame.ignores contract).2 hok
  have heach' : ∃ orders', ((pluginContracts records).foldlM (addOrder records' overrides)
      ∅).outcome = .ok orders' := by
    refine exists_outcome_addOrders_iff.2 fun contract hcontract => ?_
    obtain ⟨order, hok⟩ := heach contract hcontract
    obtain ⟨order', hok', -⟩ := halike hok
    exact ⟨order', hok'⟩
  obtain ⟨orders', h'⟩ := heach'
  refine ⟨orders', h', fun contract => optionRel_of_exists ?_ ?_⟩
  · intro order horder
    obtain ⟨hcontract, hnonempty, hok⟩ := (getElem?_addOrders_iff h).1 horder
    obtain ⟨order', hok', hsameOrder⟩ := halike hok
    have hnonempty' := hsameOrder.definitions_ne_nil_iff.1 hnonempty
    exact ⟨order', (getElem?_addOrders_iff h').2 ⟨hcontract, hnonempty', hok'⟩, hsameOrder⟩
  · intro order' horder'
    obtain ⟨hcontract, hnonempty', hok'⟩ := (getElem?_addOrders_iff h').1 horder'
    obtain ⟨order, hok⟩ := heach contract hcontract
    obtain ⟨order'', hok'', hsameOrder⟩ := halike hok
    obtain rfl := Except.ok.inj (hok'.symm.trans hok'')
    have hnonempty := hsameOrder.definitions_ne_nil_iff.2 hnonempty'
    exact ⟨order, (getElem?_addOrders_iff h).2 ⟨hcontract, hnonempty, hok⟩⟩

/-! ## Main statement -/

/-- What the decisions made from the same resources in another order have in common. -/
structure SameUpToOrder (resolved resolved' : Resolved) : Prop where
  /-- The root is the same. -/
  root : resolved.root = resolved'.root
  /-- The same contracts have a service, and the same decision is made for each. -/
  services : ∀ contract : String,
    Option.Rel ServiceChoice.SameDecision resolved.services[contract]? resolved'.services[contract]?
  /-- The same contracts have plugins, and these are enabled and ordered alike. -/
  plugins : ∀ contract : String,
    Option.Rel PluginOrder.SameUpToOrder resolved.plugins[contract]? resolved'.plugins[contract]?

/-- Where one view resolves, a view of the same resources in another order resolves alike. -/
theorem exists_sameUpToOrder {view view' : View} {root : String}
    (hviews : View.Shuffles (normalizeRoot root) view view') {resolved : Resolved}
    (h : (load view root overrides).outcome = .ok resolved) :
    ∃ resolved', (load view' root overrides).outcome = .ok resolved' ∧
      resolved.SameUpToOrder resolved' := by
  obtain ⟨records, hrecords, hresolved⟩ := Report.outcome_bind_eq_ok_iff.1 h
  obtain ⟨records', hrecords', hsame⟩ := Records.exists_sameUpToOrder hviews hrecords
  obtain ⟨hroot, hservices, hplugins⟩ := outcome_ofRecords_eq_ok_iff.1 hresolved
  obtain ⟨services', hservices', hsameServices⟩ :=
    exists_outcome_addChoices_of_sameUpToOrder hsame hservices
  obtain ⟨plugins', hplugins', hsamePlugins⟩ :=
    exists_outcome_addOrders_of_sameUpToOrder hsame hplugins
  have hresolved' : (ofRecords (normalizeRoot root) records' overrides).outcome =
      .ok ⟨normalizeRoot root, services', plugins'⟩ :=
    outcome_ofRecords_eq_ok_iff.2 ⟨rfl, hservices', hplugins'⟩
  refine ⟨_, Report.outcome_bind_eq_ok_iff.2 ⟨records', hrecords', hresolved'⟩, ?_⟩
  exact ⟨hroot, hsameServices, hsamePlugins⟩

/-- **The decisions do not depend on the order of the modules.** Two views that list the same
resources, each in an order of its own, resolve both or not at all. Where they do, the same
contracts have services and plugins, the same definitions are applied for reasons of one kind, the
same plugins are enabled, and they stand in the same order unless their priorities tie. -/
theorem load_sameUpToOrder (view view' : View) (root : String) (overrides : Overrides)
    (hviews : View.Shuffles (normalizeRoot root) view view') :
    ((∃ resolved, (load view root overrides).outcome = .ok resolved) ↔
      ∃ resolved', (load view' root overrides).outcome = .ok resolved') ∧
    ∀ resolved resolved', (load view root overrides).outcome = .ok resolved →
      (load view' root overrides).outcome = .ok resolved' →
        resolved.SameUpToOrder resolved' := by
  refine ⟨⟨?_, ?_⟩, ?_⟩
  · rintro ⟨resolved, h⟩
    obtain ⟨resolved', h', -⟩ := exists_sameUpToOrder hviews h
    exact ⟨resolved', h'⟩
  · rintro ⟨resolved', h'⟩
    obtain ⟨resolved, h, -⟩ := exists_sameUpToOrder hviews.symm h'
    exact ⟨resolved, h⟩
  · intro resolved resolved' h h'
    obtain ⟨resolved'', h'', hsame⟩ := exists_sameUpToOrder hviews h
    obtain rfl := Except.ok.inj (h''.symm.trans h')
    exact hsame

/-- The resources of a module `x`. -/
def firstModule : List Enumerator.Embedded :=
  [⟨"x", "META-INF/spi/service.properties", "c>x>library=X".toUTF8⟩,
    ⟨"x", "META-INF/spi/plugin.properties", "p>1=P\np>2=Q".toUTF8⟩]

/-- The resources of a module `y`, which has the same contracts. -/
def secondModule : List Enumerator.Embedded :=
  [⟨"y", "META-INF/spi/service.properties", "c>y>platform=Y".toUTF8⟩,
    ⟨"y", "META-INF/spi/plugin.properties", "p>2=R".toUTF8⟩]

/-- Two plugins of the contract `p` are disabled from outside. -/
def withoutQR : Overrides := ⟨∅, .ofPairs [("p", "Q,R")], ∅⟩

/-- The names of the plugins of `p`, in the order in which they were found. -/
def pluginsFound (outcome : Except Error Resolved) : Option (List String) := do
  let resolved ← outcome.toOption
  let order ← resolved.plugins["p"]?
  return order.definitions.map (·.implementation.name)

/-- In either order of these modules the definitions are found in another order, and the decisions
are the same. -/
theorem load_sameUpToOrder_twoModules :
    View.Shuffles (normalizeRoot "") (viewOf (firstModule ++ secondModule))
      (viewOf (secondModule ++ firstModule)) ∧
    pluginsFound (load (viewOf (firstModule ++ secondModule)) "" withoutQR).outcome =
      some ["P", "Q", "R"] ∧
    pluginsFound (load (viewOf (secondModule ++ firstModule)) "" withoutQR).outcome =
      some ["R", "P", "Q"] ∧
    ∃ resolved resolved',
      (load (viewOf (firstModule ++ secondModule)) "" withoutQR).outcome = .ok resolved ∧
      (load (viewOf (secondModule ++ firstModule)) "" withoutQR).outcome = .ok resolved' ∧
      resolved.SameUpToOrder resolved' := by
  have hmodules : (firstModule ++ secondModule).Perm (secondModule ++ firstModule) :=
    List.perm_append_comm
  have hviews := Enumerator.embedded_shuffles hmodules (normalizeRoot "") "test" ⟨[], ∅, ∅⟩
  have hfound : pluginsFound (load (viewOf (firstModule ++ secondModule)) "" withoutQR).outcome =
      some ["P", "Q", "R"] := by decide +kernel
  refine ⟨hviews, hfound, by decide +kernel, ?_⟩
  obtain ⟨hboth, hsame⟩ := load_sameUpToOrder _ _ "" withoutQR hviews
  cases hone : (load (viewOf (firstModule ++ secondModule)) "" withoutQR).outcome with
  | error e =>
    rw [hone] at hfound
    cases hfound
  | ok resolved =>
    obtain ⟨resolved', htwo⟩ := hboth.1 ⟨resolved, hone⟩
    exact ⟨resolved, resolved', rfl, htwo, hsame resolved resolved' hone htwo⟩

end Resolved

end Wiring
