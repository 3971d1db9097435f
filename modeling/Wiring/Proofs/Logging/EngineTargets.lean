import Wiring.Proofs.Logging.Precedence

/-!
# Logging · The level of the engine

What the highest verbosity does to the levels of the engine's targets. The subscriber of settings
gets one more directive for each of them, which decides from then on. So their level is the one of
that directive, whatever it was before: it is raised where less was logged, and lowered where
everything was. Only entries for which a directive for their target asked for fields keep the level
that they had. Main statement: `engine_raised_iff`, which says exactly when the level is raised.
-/

namespace Wiring.Subscriber

variable {target : String} {wanted : List String}

/-! ## The directives of the engine -/

/-- The directive that the highest verbosity adds for a target. -/
def raising (target : String) : Directive := ⟨some target, none, [], .upTo .debug⟩

/-- A raising directive is for just its target. -/
theorem raising_isExact (target : String) : (raising target).IsExact target := ⟨rfl, rfl, rfl⟩

/-- The directive that is written for an engine target is read as the one that raises it. -/
theorem parse?_engineDirective : ∀ target ∈ engineTargets,
    Directive.parse? (levelDirective target .debug) = some (raising target) := by
  decide +kernel

/-- No target of the engine begins with another one, so each has its own directive. -/
theorem covers_raising {other : String} (ht : target ∈ engineTargets)
    (hother : other ∈ engineTargets) :
    (raising other).covers target wanted = true ↔ other = target := by
  have hfront : (raising other).covers target wanted =
      other.toList.isPrefixOf target.toList := by
    simp [raising, Directive.covers, Directive.isStatic, Directive.fields]
  have hall : ∀ target ∈ engineTargets, ∀ other ∈ engineTargets,
      other.toList.isPrefixOf target.toList = true ↔ other = target := by decide
  rw [hfront, hall target ht other hother]

/-! ## The subscriber of settings -/

/-- A subscriber with the directives that the highest verbosity adds for some targets. -/
def raise (s : Subscriber) (targets : List String) : Subscriber :=
  targets.foldl (fun s target => s.withDirective (levelDirective target .debug)) s

/-- The highest verbosity adds a directive for each target of the engine. -/
theorem ofSettings_eq_raise {s : Settings} (h : s.verbosity = .debug) :
    ofSettings s = (ofConfig s.logging).raise engineTargets := by
  simp [ofSettings, h, raise, engineTargets, withDirective]

/-- **One directive more for each of some targets** decides about the entries of each, unless a
narrow one does. -/
theorem deciding_raise (ht : target ∈ engineTargets) {targets : List String}
    (htargets : ∀ other ∈ targets, other ∈ engineTargets) (s : Subscriber) :
    (s.raise targets).deciding target wanted =
      if target ∈ targets ∧ ¬(s.deciding target wanted).IsNarrow target wanted then raising target
      else s.deciding target wanted := by
  induction targets generalizing s with
  | nil => simp [raise]
  | cons other rest ih =>
    obtain ⟨hother, hrest⟩ := List.forall_mem_cons.1 htargets
    have hstep : (s.raise (other :: rest)) =
        (s.withDirective (levelDirective other .debug)).raise rest := rfl
    have hparse := parse?_engineDirective other hother
    rw [hstep, ih hrest]
    by_cases hsame : other = target
    · subst hsame
      rw [deciding_withDirective_of_isExact hparse (raising_isExact other)]
      by_cases hnarrow : (s.deciding other wanted).IsNarrow other wanted
      · simp [hnarrow]
      · simp [hnarrow]
    · have hnot : ¬(raising other).covers target wanted = true := by
        rwa [covers_raising ht hother]
      have hkept : (s.withDirective (levelDirective other .debug)).deciding target wanted =
          s.deciding target wanted := (deciding_withDirective hparse).trans (if_neg hnot)
      rw [hkept]
      simp [Ne.symm hsame]

/-- The level of an engine's target at the highest verbosity: the level of its directive, or the
level from before where a narrow directive decides. -/
theorem levelFor_ofSettings {s : Settings} (h : s.verbosity = .debug)
    (ht : target ∈ engineTargets) (wanted : List String) :
    (ofSettings s).levelFor target wanted =
      if (ofConfig s.logging).IsNarrowed target wanted
      then (ofConfig s.logging).levelFor target wanted else .upTo .debug := by
  rw [levelFor, ofSettings_eq_raise h, deciding_raise ht fun _ => id]
  by_cases hnarrow : (ofConfig s.logging).IsNarrowed target wanted
  · have hdeciding := isNarrow_deciding_iff.2 hnarrow
    rw [if_pos hnarrow, if_neg fun hnot => hnot.2 hdeciding, levelFor]
  · have hdeciding := mt isNarrow_deciding_iff.1 hnarrow
    rw [if_neg hnarrow, if_pos ⟨ht, hdeciding⟩, raising]

/-! ## Main statement -/

/-- Only the filter that lets everything through lets more than detail through. -/
theorem rank_le_debug_iff {filter : LevelFilter} :
    filter.rank ≤ (LevelFilter.upTo .debug).rank ↔ filter ≠ .upTo .trace := by
  rcases filter with _ | level
  · decide
  · cases level <;> decide

/-- **When the engine is raised.** At the highest verbosity, the entries of an engine's target are
logged from the second highest level on, whatever the settings say of their level. So they are
logged at that level at least, and no fewer of them than without the verbosity, exactly when not all
of them were logged before. A directive for the target that asks for fields takes the decision about
the entries that have these; they keep their level, whatever it is. -/
theorem engine_raised_iff {s : Settings} (h : s.verbosity = .debug)
    (ht : target ∈ engineTargets) (wanted : List String) :
    let before := (ofConfig s.logging).levelFor target wanted
    let after := (ofSettings s).levelFor target wanted
    let raised := (LevelFilter.upTo .debug).rank ≤ after.rank ∧ before.rank ≤ after.rank
    ¬(ofConfig s.logging).IsNarrowed target [] ∧
      (¬(ofConfig s.logging).IsNarrowed target wanted →
        after = .upTo .debug ∧ (raised ↔ before ≠ .upTo .trace)) ∧
      ((ofConfig s.logging).IsNarrowed target wanted →
        after = before ∧ (raised ↔ (LevelFilter.upTo .debug).rank ≤ before.rank)) := by
  intro before after raised
  have hlevel := levelFor_ofSettings h ht wanted
  refine ⟨not_isNarrowed_nil _ target, fun hnarrow => ?_, fun hnarrow => ?_⟩
  · have hafter : after = .upTo .debug := hlevel.trans (if_neg hnarrow)
    have hdebug : (LevelFilter.upTo .debug).rank ≤ after.rank :=
      Nat.le_of_eq (congrArg LevelFilter.rank hafter.symm)
    refine ⟨hafter, ?_⟩
    rw [← rank_le_debug_iff, ← hafter]
    exact ⟨And.right, fun hbefore => ⟨hdebug, hbefore⟩⟩
  · have hafter : after = before := hlevel.trans (if_pos hnarrow)
    have hkept : before.rank ≤ after.rank :=
      Nat.le_of_eq (congrArg LevelFilter.rank hafter.symm)
    refine ⟨hafter, ?_⟩
    rw [← hafter]
    exact ⟨And.left, fun hdebug => ⟨hdebug, hkept⟩⟩

/-- A filter that lets only warnings of the core through is overruled. -/
theorem engine_raised_iff_quietCore :
    let s : Settings := { Settings.default with
      verbosity := .debug
      logging := { LoggingConfig.default with filters := .ofPairs [("spi_core", .warn)] } }
    let before := (ofConfig s.logging).levelFor "spi_core" ["message"]
    let after := (ofSettings s).levelFor "spi_core" ["message"]
    s.verbosity = .debug ∧ "spi_core" ∈ engineTargets ∧
      ¬(ofConfig s.logging).IsNarrowed "spi_core" ["message"] ∧ before = .upTo .warn ∧
      after = .upTo .debug ∧ before.rank ≤ after.rank := by
  intro s before after
  have hverbosity : s.verbosity = .debug := rfl
  have htarget : "spi_core" ∈ engineTargets := by decide
  have hnarrow : ¬(ofConfig s.logging).IsNarrowed "spi_core" ["message"] := by decide +kernel
  have hbefore : before = .upTo .warn := by decide +kernel
  obtain ⟨hafter, hraised⟩ := (engine_raised_iff hverbosity htarget ["message"]).2.1 hnarrow
  have hless : before ≠ .upTo .trace := by
    rw [hbefore]
    decide
  exact ⟨hverbosity, htarget, hnarrow, hbefore, hafter, (hraised.2 hless).2⟩

/-- A target of the engine of which everything is logged is lowered: one by the base level, and one
by a filter for it. -/
theorem engine_lowered :
    let traced : Settings := { Settings.default with
      verbosity := .debug
      logging := { LoggingConfig.default with level := .trace } }
    let filtered : Settings := { Settings.default with
      verbosity := .debug
      logging := { LoggingConfig.default with filters := .ofPairs [("spi_core", .trace)] } }
    (ofConfig traced.logging).levelFor "spi_core" [] = .upTo .trace ∧
      (ofSettings traced).levelFor "spi_core" [] = .upTo .debug ∧
      (ofConfig filtered.logging).levelFor "spi_core" [] = .upTo .trace ∧
      (ofSettings filtered).levelFor "spi_core" [] = .upTo .debug := by
  decide +kernel

/-- A filter for entries with a message keeps the engine's own quiet. -/
example :
    let logging : LoggingConfig := { LoggingConfig.default with
      filters := .ofPairs [("spi_core[\x7bmessage\x7d]", .error)] }
    let s : Settings := { Settings.default with verbosity := .debug, logging }
    (ofSettings s).levelFor "spi_core" ["message"] = .upTo .error ∧
      (ofSettings s).levelFor "spi_core" [] = .upTo .debug := by
  decide +kernel

end Wiring.Subscriber
