import Mathlib.Data.List.Induction
import Mathlib.Order.Defs.LinearOrder
import Wiring.Logging.EffectiveLevel

/-!
# Logging · Which directive decides

Of the directives that cover an entry the one that decides is as specific as any
(`isGE_deciding`). Main statements: about entries without fields the last directive for just their
target decides, wherever it stands, and the base level does where nothing covers them
(`deciding_of_last_isExact`, `deciding_eq_base`); and a directive that is added for just one target
decides from then on, unless one decided that asks for fields as well
(`deciding_withDirective_of_isExact`), as the narrow directives do wherever there are any
(`isNarrow_deciding_iff`).
-/

namespace Wiring

namespace Directive

variable {d e : Directive} {target : String} {wanted : List String}

instance : Std.TransCmp compareSpecific :=
  inferInstanceAs (Std.TransCmp (compareLex _ (compareLex _ _)))

/-! ## The more specific one -/

/-- A directive is as specific as itself. -/
theorem compareSpecific_self (d : Directive) : d.compareSpecific d = .eq :=
  Std.ReflCmp.compare_self

/-- Directives are compared by the length of the target, by how many fields and by the fields. -/
theorem compareSpecific_eq_then (d e : Directive) :
    d.compareSpecific e =
      (compare (d.target.map String.length) (e.target.map String.length)).then
        ((compare d.fields.length e.fields.length).then (compare d.fields e.fields)) :=
  rfl

/-- The one of two directives that prevails is one of them. -/
theorem prevailing_eq_or (d e : Directive) : prevailing d e = d ∨ prevailing d e = e := by
  unfold prevailing
  split
  · exact .inl rfl
  · exact .inr rfl

/-- The one of two that decides is as specific as either. -/
theorem isGE_prevailing (d e : Directive) :
    ((prevailing d e).compareSpecific d).isGE ∧ ((prevailing d e).compareSpecific e).isGE := by
  unfold prevailing
  split
  · next hless =>
    have hmore : d.compareSpecific e = .gt := Std.OrientedCmp.gt_of_lt hless
    simp [compareSpecific_self, hmore]
  · next hnot => simpa [compareSpecific_self, Ordering.isGE_iff_ne_lt] using hnot

/-- The one of many directives that prevails is one of them. -/
theorem foldl_prevailing_mem (start : Directive) (ds : List Directive) :
    ds.foldl prevailing start ∈ start :: ds := by
  induction ds generalizing start with
  | nil => simp
  | cons d ds ih =>
    have hmem := List.mem_cons.1 (ih (prevailing start d))
    rw [List.foldl_cons, List.mem_cons, List.mem_cons]
    rcases hmem with hmem | hmem
    · rcases prevailing_eq_or start d with h | h
      · exact .inl (hmem.trans h)
      · exact .inr (.inl (hmem.trans h))
    · exact .inr (.inr hmem)

/-- If all cover some entries, the one that decides does. -/
theorem covers_foldl_prevailing {start : Directive} {ds : List Directive}
    (hstart : start.covers target wanted = true) (hds : ∀ d ∈ ds, d.covers target wanted = true) :
    (ds.foldl prevailing start).covers target wanted = true := by
  rcases List.mem_cons.1 (foldl_prevailing_mem start ds) with h | h
  · rwa [h]
  · exact hds _ h

/-- **The one that decides is as specific as any.** -/
theorem isGE_foldl_prevailing (start : Directive) (ds : List Directive) :
    ∀ d ∈ start :: ds, ((ds.foldl prevailing start).compareSpecific d).isGE := by
  induction ds generalizing start with
  | nil => simp [compareSpecific_self]
  | cons e ds ih =>
    obtain ⟨hfirst, hrest⟩ := List.forall_mem_cons.1 (ih (prevailing start e))
    obtain ⟨hstart, he⟩ := isGE_prevailing start e
    rw [List.foldl_cons]
    refine List.forall_mem_cons.2 ⟨?_, List.forall_mem_cons.2 ⟨?_, hrest⟩⟩
    · exact Std.TransCmp.isGE_trans hfirst hstart
    · exact Std.TransCmp.isGE_trans hfirst he

/-! ## Directives for just one target -/

/-- Whether a directive names just this target, and asks for nothing else. -/
def IsExact (d : Directive) (target : String) : Prop :=
  d.target = some target ∧ d.span = none ∧ d.conditions = []

instance (d : Directive) (target : String) : Decidable (d.IsExact target) :=
  inferInstanceAs (Decidable (_ ∧ _ ∧ _))

/-- Whether a directive names just this target and asks for fields as well, all of which are
there. -/
def IsNarrow (d : Directive) (target : String) (wanted : List String) : Prop :=
  d.target = some target ∧ d.conditions ≠ [] ∧ d.covers target wanted = true

instance (d : Directive) (target : String) (wanted : List String) :
    Decidable (d.IsNarrow target wanted) :=
  inferInstanceAs (Decidable (_ ∧ _ ∧ _))

/-- The base directive covers the entries of every target. -/
theorem covers_base (level : LogLevel) (target : String) (wanted : List String) :
    (base level).covers target wanted = true := rfl

/-- A directive for just a target covers the entries of that target. -/
theorem IsExact.covers (h : d.IsExact target) (wanted : List String) :
    d.covers target wanted = true := by
  obtain ⟨htarget, hspan, hconditions⟩ := h
  simp [Directive.covers, isStatic, fields, htarget, hspan, hconditions]

/-- What covers entries without fields asks for none. -/
theorem conditions_eq_nil_of_covers_nil (h : d.covers target [] = true) : d.conditions = [] := by
  cases hconditions : d.conditions with
  | nil => rfl
  | cons c cs => simp [Directive.covers, fields, hconditions] at h

/-- **A directive for just this target** is more specific than what covers its entries by a shorter
target, as specific as others for just this target, and less specific where these ask for fields. -/
theorem IsExact.compareSpecific_eq (hd : d.IsExact target) (he : e.covers target wanted = true) :
    d.compareSpecific e =
      if e.target = some target then if e.conditions = [] then .eq else .lt else .gt := by
  obtain ⟨htarget, -, hconditions⟩ := hd
  rw [compareSpecific_eq_then, htarget, fields, hconditions]
  cases hfront : e.target with
  | none => rfl
  | some front =>
    have hpre : front.toList <+: target.toList := by
      simp [Directive.covers, hfront] at he
      exact he.1.2
    rcases Nat.lt_or_eq_of_le hpre.length_le with hshort | hsame
    · have hne : ¬some front = some target := by
        intro h
        rw [Option.some.inj h] at hshort
        omega
      have hlength : compare target.length front.length = .gt := Nat.compare_eq_gt.2 hshort
      rw [if_neg hne]
      show (compare target.length front.length).then _ = .gt
      rw [hlength]
      rfl
    · obtain rfl : front = target := String.toList_inj.1 (hpre.eq_of_length hsame)
      have hlength : compare front.length front.length = .eq := Nat.compare_eq_eq.2 rfl
      rw [if_pos rfl]
      show (compare front.length front.length).then _ = _
      rw [hlength]
      cases hfields : e.conditions with
      | nil => simp [fields, hfields]
      | cons c cs =>
        have hfewer : compare 0 (cs.length + 1) = .lt := Nat.compare_eq_lt.2 (Nat.succ_pos _)
        simp [fields, hfields, hfewer]

/-- What is for just the target prevails over what covers its entries, unless that asks for
fields. -/
theorem IsExact.prevailing_eq (hd : d.IsExact target) (he : e.covers target wanted = true) :
    prevailing e d = if e.IsNarrow target wanted then e else d := by
  unfold prevailing
  rw [hd.compareSpecific_eq he]
  by_cases htarget : e.target = some target
  · by_cases hconditions : e.conditions = []
    · simp [IsNarrow, htarget, hconditions]
    · simp [IsNarrow, htarget, hconditions, he]
  · simp [IsNarrow, htarget]

/-- Of entries without fields nothing but another directive for just their target takes the decision
from one that is. -/
theorem IsExact.prevailing_eq_self (hd : d.IsExact target) (he : e.covers target [] = true)
    (hnot : ¬e.IsExact target) : prevailing d e = d := by
  have hspan : e.span = none := by
    simp [Directive.covers, isStatic] at he
    exact he.1.1.1
  have htarget : ¬e.target = some target := fun htarget =>
    hnot ⟨htarget, hspan, conditions_eq_nil_of_covers_nil he⟩
  have hmore := hd.compareSpecific_eq he
  rw [if_neg htarget] at hmore
  exact if_pos (Std.OrientedCmp.lt_of_gt hmore)

end Directive

namespace Subscriber

open Directive (compareSpecific prevailing)

variable {s : Subscriber} {d : Directive} {target : String} {wanted : List String}

/-! ## What decides -/

/-- **The directive that decides** covers the entries it decides about, -/
theorem covers_deciding (s : Subscriber) (target : String) (wanted : List String) :
    (s.deciding target wanted).covers target wanted = true :=
  Directive.covers_foldl_prevailing (Directive.covers_base ..) fun _ hd => (List.mem_filter.1 hd).2

/-- and is as specific as any directive that does. -/
theorem isGE_deciding (hd : d ∈ s.rules) (hcovers : d.covers target wanted = true) :
    ((s.deciding target wanted).compareSpecific d).isGE :=
  Directive.isGE_foldl_prevailing _ _ d
    (List.mem_cons_of_mem _ (List.mem_filter.2 ⟨hd, hcovers⟩))

/-- Where no directive covers the entries the base level decides. -/
theorem deciding_eq_base (h : ∀ d ∈ s.rules, d.covers target wanted = false) :
    s.deciding target wanted = .base s.config.level := by
  rw [deciding, List.filter_eq_nil_iff.2 fun d hd => by simp [h d hd]]
  rfl

/-- **The last directive for just a target** decides about its entries without fields. -/
theorem deciding_of_last_isExact
    (h : (s.rules.filter (·.IsExact target)).getLast? = some d) : s.deciding target [] = d := by
  unfold deciding
  generalize s.rules = ds at h ⊢
  induction ds using List.reverseRecOn with
  | nil => simp at h
  | append_singleton ds e ih =>
    have hcovers : ((ds.filter (·.covers target [])).foldl prevailing
        (.base s.config.level)).covers target [] = true :=
      Directive.covers_foldl_prevailing (Directive.covers_base ..)
        fun d hd => (List.mem_filter.1 hd).2
    rw [List.filter_append, List.foldl_append]
    rw [List.filter_append] at h
    by_cases hexact : e.IsExact target
    · -- the new one is the last, and no directive that covers entries without fields is narrow
      obtain rfl : e = d := by simpa [hexact] using h
      have hconditions := Directive.conditions_eq_nil_of_covers_nil hcovers
      simp [hexact.covers, hexact.prevailing_eq hcovers, Directive.IsNarrow, hconditions]
    · -- the new one is for a shorter target, or covers nothing here
      have hlast : (ds.filter (·.IsExact target)).getLast? = some d := by simpa [hexact] using h
      have hd : d.IsExact target := by
        simpa using (List.mem_filter.1 (List.mem_of_getLast? hlast)).2
      rw [ih hlast]
      cases hcovers' : e.covers target [] with
      | false => simp [hcovers']
      | true => simp [hcovers', hd.prevailing_eq_self hcovers' hexact]

/-- One more directive decides if it covers the entries and prevails. -/
theorem deciding_withDirective {text : String} (h : Directive.parse? text = some d) :
    (s.withDirective text).deciding target wanted =
      if d.covers target wanted then prevailing (s.deciding target wanted) d
      else s.deciding target wanted := by
  simp only [deciding, rules, withDirective, List.filterMap_append, List.filter_append,
    List.foldl_append, List.filterMap_cons, List.filterMap_nil, h]
  cases hcovers : d.covers target wanted <;> simp [hcovers]

/-- **A directive for just the target** decides from then on, unless one that asks for fields as
well decided before. -/
theorem deciding_withDirective_of_isExact {text : String} (h : Directive.parse? text = some d)
    (hd : d.IsExact target) :
    (s.withDirective text).deciding target wanted =
      if (s.deciding target wanted).IsNarrow target wanted then s.deciding target wanted
      else d := by
  rw [deciding_withDirective h, if_pos (hd.covers wanted),
    hd.prevailing_eq (covers_deciding s target wanted)]

/-- Whether there is a narrow directive about the entries of a target that have some fields. -/
def IsNarrowed (s : Subscriber) (target : String) (wanted : List String) : Prop :=
  ∃ d ∈ s.rules, d.IsNarrow target wanted

instance (s : Subscriber) (target : String) (wanted : List String) :
    Decidable (s.IsNarrowed target wanted) :=
  inferInstanceAs (Decidable (∃ d ∈ s.rules, d.IsNarrow target wanted))

/-- Entries without fields have no narrow directive. -/
theorem not_isNarrowed_nil (s : Subscriber) (target : String) : ¬s.IsNarrowed target [] := by
  rintro ⟨d, -, -, hconditions, hcovers⟩
  exact hconditions (Directive.conditions_eq_nil_of_covers_nil hcovers)

/-- **A narrow directive decides** exactly when there is one. -/
theorem isNarrow_deciding_iff :
    (s.deciding target wanted).IsNarrow target wanted ↔ s.IsNarrowed target wanted := by
  constructor
  · intro h
    have hmem := Directive.foldl_prevailing_mem (.base s.config.level)
      (s.rules.filter (·.covers target wanted))
    rcases List.mem_cons.1 hmem with hbase | hrule
    · -- the base level names no target
      rw [deciding, hbase] at h
      cases h.1
    · exact ⟨_, (List.mem_filter.1 hrule).1, h⟩
  · rintro ⟨d, hd, htarget, hconditions, hcovers⟩
    have hexact : (⟨some target, none, [], .off⟩ : Directive).IsExact target := ⟨rfl, rfl, rfl⟩
    have hless := hexact.compareSpecific_eq hcovers
    rw [if_pos htarget, if_neg hconditions] at hless
    -- what decides is as specific as this one, so it is more specific than one without fields
    have hdeciding := Std.TransCmp.lt_of_lt_of_isLE hless
      (Std.OrientedCmp.isGE_iff_isLE.1 (isGE_deciding hd hcovers))
    have hcovers' := covers_deciding s target wanted
    rw [hexact.compareSpecific_eq hcovers'] at hdeciding
    split at hdeciding
    · next htarget' =>
      split at hdeciding
      · cases hdeciding
      · next hconditions' => exact ⟨htarget', hconditions', hcovers'⟩
    · cases hdeciding

end Subscriber

end Wiring
