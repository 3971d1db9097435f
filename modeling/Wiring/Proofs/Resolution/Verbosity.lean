import Wiring.Loader
import Wiring.Proofs.Diagnostics.Alike
import Wiring.Proofs.Diagnostics.Warnings
import Wiring.Proofs.Resolution.Routine

/-!
# Resolution · Verbosity

How much is shown does not influence what is decided. Reports hold everything that could be said,
and a handle selects from them afterwards. `loadAt` instead looks at the verbosity while it works:
in full detail it lists all plugins and the reasons of a choice, else it sums them up, and what it
does not say is never put together. Main statement: both come to the same and deliver the same, at
each verbosity and for each sink; the warnings are the same at the two upper verbosities, nothing is
said at the lowest, and no failure is announced at any (`load_indifferent`).
-/

namespace Wiring

open Report

/-! ## Work that looks at the verbosity -/

namespace ServiceChoice

/-- Says what was chosen, and in full detail why and among what. -/
def announceAt (v : Verbosity) (choice : ServiceChoice) : Report Unit := do
  .say .info s!"Service applied: {choice.contract} => {choice.applied}"
  if v.reaches .debug then
    .say .debug s!"Service {choice.contract}: {choice.reason.text}"
    let others := (choice.definitions.toList.map Prod.snd).filter (·.id != choice.applied.id)
    others.forM fun d => .say .debug s!"Service candidate: {choice.contract} => {d}"

/-- Chooses the definition that serves a contract. -/
def resolveAt (v : Verbosity) (contract : String) (definitions : Table ServiceDefinition)
    (apply : Option ApplyRecord) (overrides : Overrides) : Report ServiceChoice := do
  let (applied, reason) ← select contract definitions apply overrides
  let choice : ServiceChoice := ⟨contract, applied, reason, definitions⟩
  announceAt v choice
  return choice

end ServiceChoice

namespace PluginOrder

/-- Says what is enabled and what is disabled in full detail, else a few of those enabled. -/
def announceAt (v : Verbosity) (order : PluginOrder) : Report Unit := do
  if v.reaches .debug then
    order.ordered.forM fun d => .say .debug s!"Plugin enabled: {order.contract} => {d}"
    order.disabled.forM fun d => .say .debug s!"Plugin disabled: {order.contract} => {d}"
  else
    (order.ordered.take listedPlugins).forM fun d =>
      .sumUp s!"Plugin enabled: {order.contract} => {d}"
    let rest := order.ordered.length - listedPlugins
    if 0 < rest then .sumUp s!"Plugin enabled: {order.contract} => ... {rest} more"

/-- Disables and orders the plugins of a contract. -/
def resolveAt (v : Verbosity) (contract : String) (definitions : List PluginDefinition)
    (rules : List IgnoreRule) (overrides : Overrides) : Report PluginOrder := do
  let definitions ← (variableItems contract overrides).foldlM (disableItem contract) definitions
  let definitions ← (rules.map Selector.ofRule).foldlM (disable contract) definitions
  let order : PluginOrder := ⟨contract, sortEnabled definitions, definitions⟩
  announceAt v order
  return order

end PluginOrder

namespace Resolved

/-- Adds the choice for one contract. -/
def addChoiceAt (v : Verbosity) (records : Records) (overrides : Overrides)
    (choices : Table ServiceChoice) (service : String × Table ServiceDefinition) :
    Report (Table ServiceChoice) := do
  let choice ←
    ServiceChoice.resolveAt v service.1 service.2 records.applies[service.1]? overrides
  return choices.insert service.1 choice

/-- Adds the order of one contract's plugins. -/
def addOrderAt (v : Verbosity) (records : Records) (overrides : Overrides)
    (orders : Table PluginOrder) (contract : String) : Report (Table PluginOrder) := do
  let order ← PluginOrder.resolveAt v contract (records.plugins.getD contract [])
    (records.ignores.getD contract []) overrides
  return if order.definitions.isEmpty then orders else orders.insert contract order

/-- Reads and resolves everything below a config root. -/
def loadAt (v : Verbosity) (view : View) (root : String) (overrides : Overrides) :
    Report Resolved := do
  let root := normalizeRoot root
  let records ← Records.readAll view overrides root
  let services ← records.services.toList.foldlM (addChoiceAt v records overrides) ∅
  (strayApplies records).forM announceStray
  let plugins ← (pluginContracts records).foldlM (addOrderAt v records overrides) ∅
  return ⟨root, services, plugins⟩

end Resolved

/-! ## Nothing else changes -/

variable {v : Verbosity}

/-- Only the highest verbosity shows full detail. -/
theorem Verbosity.eq_debug_of_reaches (h : v.reaches .debug = true) : v = .debug := by
  cases v with
  | error => cases h
  | info => cases h
  | debug => rfl

/-- Detail is hidden below the highest verbosity. -/
theorem Report.hiddenAt_detail (h : v.reaches .debug = false) (text : String) :
    HiddenAt v (say .debug text) :=
  hiddenAt_say (by simp [Verbosity.admits, Severity.threshold, h])

/-- What sums up detail is hidden where detail is shown. -/
theorem Report.hiddenAt_brief (h : v.reaches .debug = true) (text : String) :
    HiddenAt v (sumUp text) := by
  obtain rfl := Verbosity.eq_debug_of_reaches h
  exact hiddenAt_sumUp rfl

namespace ServiceChoice

/-- A choice is announced alike where the verbosity is asked first. -/
theorem alikeAt_announce (v : Verbosity) (choice : ServiceChoice) :
    AlikeAt v choice.announce (choice.announceAt v) := by
  refine .bind_right _ fun _ => ?_
  cases h : v.reaches .debug with
  | false =>
    exact .of_hidden ((hiddenAt_detail h _).bind (hiddenAt_forM (fun _ => hiddenAt_detail h _) _))
      hiddenAt_pure
  | true => exact .refl _

/-- A choice is made alike where the verbosity is asked first. -/
theorem alikeAt_resolve (v : Verbosity) (contract : String) (definitions : Table ServiceDefinition)
    (apply : Option ApplyRecord) (overrides : Overrides) :
    AlikeAt v (resolve contract definitions apply overrides)
      (resolveAt v contract definitions apply overrides) :=
  .bind_right _ fun _ => (alikeAt_announce v _).bind_left _

end ServiceChoice

namespace PluginOrder

/-- An order is announced alike where the verbosity is asked first. -/
theorem alikeAt_announce (v : Verbosity) (order : PluginOrder) :
    AlikeAt v order.announce (order.announceAt v) := by
  unfold announce announceAt
  cases h : v.reaches .debug with
  | false =>
    -- the full lists are hidden in front of the brief one
    refine (AlikeAt.hidden_bind (hiddenAt_forM (fun _ => hiddenAt_detail h _) _) _).trans ?_
    exact .hidden_bind (hiddenAt_forM (fun _ => hiddenAt_detail h _) _) _
  | true =>
    -- the brief list is hidden behind the full ones
    refine .bind_right _ fun _ => .bind_hidden _ ?_
    refine (hiddenAt_forM (fun _ => hiddenAt_brief h _) _).bind ?_
    dsimp only
    split
    · exact hiddenAt_brief h _
    · exact hiddenAt_pure

/-- An order is made alike where the verbosity is asked first. -/
theorem alikeAt_resolve (v : Verbosity) (contract : String) (definitions : List PluginDefinition)
    (rules : List IgnoreRule) (overrides : Overrides) :
    AlikeAt v (resolve contract definitions rules overrides)
      (resolveAt v contract definitions rules overrides) :=
  .bind_right _ fun _ => .bind_right _ fun _ => (alikeAt_announce v _).bind_left _

end PluginOrder

namespace Resolved

/-- **Loading looks the same** at a verbosity whether this is looked at in the end or on the way. -/
theorem alikeAt_load (v : Verbosity) (view : View) (root : String) (overrides : Overrides) :
    AlikeAt v (load view root overrides) (loadAt v view root overrides) :=
  .bind_right _ fun _ =>
    (AlikeAt.foldlM (fun _ _ => (ServiceChoice.alikeAt_resolve v _ _ _ _).bind_left _) ∅ _).bind
      fun _ => .bind_right _ fun _ =>
        (AlikeAt.foldlM (fun _ _ => (PluginOrder.alikeAt_resolve v _ _ _ _).bind_left _) ∅ _).bind
          fun _ => .refl _

/-- From the middle verbosity on all warnings of a resolution are shown. -/
theorem warningsAt_load (view : View) (root : String) (overrides : Overrides) (hv : v ≠ .error) :
    (load view root overrides).warningsAt v = (load view root overrides).warnings := by
  rw [warningsAt_eq_filter]
  refine filter_admits_eq_self (fun note hnote => ?_) hv
  obtain ⟨hnote, hwarning⟩ := List.mem_filter.1 hnote
  have hseverity : note.severity = .warning := of_decide_eq_true hwarning
  have hroutine := saysOnly_load view root overrides note hnote
  refine ⟨congrArg Severity.threshold hseverity, ?_⟩
  cases hbrief : note.brief with
  | false => rfl
  | true => cases hseverity.symm.trans (hroutine.severity_eq_of_brief hbrief)

/-- **Diagnostics do not influence decisions.** What a root is resolved to is the same at every
verbosity and for every sink, even if the verbosity is looked at on the way, and what arrives is
what is selected in the end. The warnings shown at the two upper verbosities are the same, at the
lowest nothing is shown, and no failure is announced at any. -/
theorem load_indifferent (view : View) (root : String) (overrides : Overrides) :
    (∀ d d' : Diagnostics, (d.run (loadAt d.verbosity view root overrides)).outcome =
      (d'.run (loadAt d'.verbosity view root overrides)).outcome) ∧
    (∀ d : Diagnostics, d.run (loadAt d.verbosity view root overrides) =
      d.run (load view root overrides)) ∧
    (∀ v, (loadAt v view root overrides).shown v = (load view root overrides).shown v) ∧
    (load view root overrides).warningsAt .info = (load view root overrides).warningsAt .debug ∧
    (load view root overrides).shown .error = [] ∧
    ∀ v, ∀ note ∈ (load view root overrides).shown v, note.severity ≠ .error := by
  have halike (v : Verbosity) := alikeAt_load v view root overrides
  have hroutine := saysOnly_load view root overrides
  refine ⟨fun d d' => ?_, fun d => ?_, fun v => (halike v).shown_eq, ?_, ?_, fun v note hnote => ?_⟩
  · exact (halike d.verbosity).outcome_eq.trans (halike d'.verbosity).outcome_eq.symm
  · rw [Diagnostics.run, Diagnostics.run, (halike d.verbosity).outcome_eq,
      (halike d.verbosity).deliver_eq]
  · exact (warningsAt_load view root overrides (by decide)).trans
      (warningsAt_load view root overrides (by decide)).symm
  · exact filter_admits_error fun note hnote => (hroutine note hnote).severity_ne
  · exact (hroutine note (List.mem_filter.1 hnote).1).severity_ne

end Resolved

end Wiring
