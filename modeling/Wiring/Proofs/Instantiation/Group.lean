import Wiring.Proofs.Properties.Failures
import Wiring.Proofs.Resolution.Declared
import Wiring.Proofs.Roots

/-!
# Instantiation · Parameters from the group

Where the parameters for a declaration are taken from. Modules in a table in memory bear any names,
and a resource counts as one of the declaring resource's group when its location begins like the
group, whatever module it is in. `Intrudes` says when another module's entry does so, and
`IsScreened` when such an entry hides the module's own. Main statement: the constructor gets what
the declaring module's own first entry holds, or the lack of one is reported, exactly when that
entry is not screened (`instantiate_drawsOn`). Where no module name holds a slash, no entry is.
-/

namespace Wiring

/-! ## Two searches -/

/-- The first of the many is the first of the few exactly when none of the many that is not one of
the few stands before all of these. -/
theorem find?_eq_find?_iff {α : Type} {few many : α → Bool}
    (hfew : ∀ a, few a = true → many a = true) {xs : List α} :
    xs.find? many = xs.find? few ↔ ∀ before a after, xs = before ++ a :: after → many a = true →
      (∀ b ∈ before, few b = false) → few a = true := by
  induction xs with
  | nil => simp
  | cons x xs ih =>
    by_cases hx : few x = true
    · rw [List.find?_cons_of_pos (hfew x hx), List.find?_cons_of_pos hx]
      refine iff_of_true rfl fun before a after hsplit _ hbefore => ?_
      cases before with
      | nil =>
        obtain ⟨rfl, -⟩ := List.cons.inj hsplit
        exact hx
      | cons b before =>
        obtain ⟨rfl, -⟩ := List.cons.inj hsplit
        rw [hbefore x List.mem_cons_self] at hx
        cases hx
    · rw [List.find?_cons_of_neg hx]
      by_cases hmany : many x = true
      · -- the first of the many is found at once, and it is not one of the few
        rw [List.find?_cons_of_pos hmany]
        refine iff_of_false (fun h => ?_) fun h => ?_
        · exact hx (List.find?_some h.symm)
        · exact hx (h [] x xs rfl hmany fun b hb => absurd hb List.not_mem_nil)
      · rw [List.find?_cons_of_neg hmany, ih]
        constructor
        · intro h before a after hsplit ha hbefore
          cases before with
          | nil =>
            obtain ⟨rfl, -⟩ := List.cons.inj hsplit
            exact absurd ha hmany
          | cons b before =>
            obtain ⟨-, rfl⟩ := List.cons.inj hsplit
            exact h before a after rfl ha fun c hc => hbefore c (List.mem_cons_of_mem b hc)
        · rintro h before a after rfl ha hbefore
          refine h (x :: before) a after rfl ha fun c hc => ?_
          rcases List.mem_cons.1 hc with rfl | hc
          · simpa using hx
          · exact hbefore c hc

/-! ## Locations -/

/-- The file of a family has no slash in its name. -/
theorem Family.slash_not_mem_file (family : Family) : '/' ∉ family.file.toList := by
  cases family <;> decide

namespace Enumerator.Embedded

/-- How the location of an embedded resource is written. -/
theorem toList_location (entry : Embedded) :
    entry.resource.location.text.toList =
      "embedded:".toList ++ (entry.owner.toList ++ '/' :: entry.path.toList) := by
  have htext : entry.resource.location.text = "embedded:" ++ entry.owner ++ "/" ++ entry.path := rfl
  rw [htext]
  simp

/-- Entries at one path are told apart by their modules alone. -/
theorem owner_eq_of_location {entry other : Embedded} (hpath : entry.path = other.path)
    (h : entry.resource.location = other.resource.location) : entry.owner = other.owner := by
  have hlists := congrArg (fun location : Location => location.text.toList) h
  simp only [toList_location, hpath] at hlists
  rw [← String.toList_inj]
  exact List.append_cancel_right (List.append_cancel_left hlists)

/-- Whether an entry of another module passes for one below a root of a module: its location begins
like theirs. -/
def Intrudes (owner root : String) (entry : Embedded) : Prop :=
  entry.owner ≠ owner ∧
    owner.toList ++ '/' :: root.toList <+: entry.owner.toList ++ '/' :: entry.path.toList

/-- **A module whose name holds no slash** is not intruded upon by another one of that kind. -/
theorem not_intrudes {owner root : String} {entry : Embedded} (howner : '/' ∉ owner.toList)
    (hentry : '/' ∉ entry.owner.toList) : ¬entry.Intrudes owner root := by
  rintro ⟨hne, rest, hrest⟩
  refine hne ?_
  rw [List.append_assoc, List.cons_append] at hrest
  -- both names end at the first slash
  have hfirst := Text.splitOnce_eq_some_iff.2 ⟨hrest.symm, howner⟩
  have hsecond := Text.splitOnce_eq_some_iff.2
    (⟨rfl, hentry⟩ : entry.owner.toList ++ '/' :: entry.path.toList = _ ∧ _)
  obtain ⟨hnames, -⟩ := Prod.mk.inj (Option.some.inj (hsecond.symm.trans hfirst))
  exact String.toList_inj.1 hnames

end Enumerator.Embedded

namespace Declaration

open Enumerator (Embedded viewOf)

/-! ## The declaring module -/

/-- Whether a declaration comes from a module: its source is the location of an entry of the module,
at the path of some family below the root. -/
def ComesFrom (root : String) (entries : List Embedded) (owner : String) (d : Declaration) : Prop :=
  ∃ entry ∈ entries, entry.owner = owner ∧ (∃ family : Family, entry.path = root ++ family.file) ∧
    d.source = entry.resource.location

/-- The group of a declaration is the root within its module. -/
theorem ComesFrom.groupPrefix {root owner : String} {entries : List Embedded} {d : Declaration}
    (hroot : ∃ directory, root.toList = directory ++ ['/'])
    (h : d.ComesFrom root entries owner) :
    d.source.groupPrefix.toList =
      "embedded:".toList ++ (owner.toList ++ '/' :: root.toList) := by
  obtain ⟨entry, -, rfl, ⟨family, hpath⟩, hsource⟩ := h
  obtain ⟨directory, hdirectory⟩ := hroot
  have hlocation : d.source.text.toList =
      ("embedded:".toList ++ (entry.owner.toList ++ '/' :: directory)) ++
        '/' :: family.file.toList := by
    rw [hsource, Embedded.toList_location, hpath, String.toList_append, hdirectory]
    simp
  unfold Location.groupPrefix
  rw [String.toList_ofList, hlocation, uptoLastSlash_append _ family.slash_not_mem_file, hdirectory]
  simp

/-- A declaration comes from one module at most. -/
theorem ComesFrom.unique {root owner other : String} {entries : List Embedded} {d : Declaration}
    (hroot : ∃ directory, root.toList = directory ++ ['/'])
    (h : d.ComesFrom root entries owner) (hother : d.ComesFrom root entries other) :
    owner = other := by
  have hlists := (h.groupPrefix hroot).symm.trans (hother.groupPrefix hroot)
  rw [← String.toList_inj]
  exact List.append_cancel_right (List.append_cancel_left hlists)

/-! ## Reading parameters -/

/-- The error over a parameter file that the group does not hold. -/
def missing (d : Declaration) (file : String) : Error :=
  .instantiation (.missingParameters d.implementation.name
    (d.source.groupPrefix ++ (parameterDirectory ++ file)) d.source.text)

/-- The parameters that a resource holds, or the lack of one. -/
def readFrom (d : Declaration) (file : String) : Option Resource → Except Error Parameters
  | none => .error (d.missing file)
  | some resource =>
    match Properties.ofBytes resource.bytes resource.location.text with
    | .error e =>
      .error (.instantiation (.invalidParameters d.implementation.name d.source.text e))
    | .ok properties => .ok (.ofProperties properties resource.location)

/-- Only a resource that is not there is missing. -/
theorem readFrom_eq_missing_iff {d : Declaration} {file : String} {found : Option Resource} :
    d.readFrom file found = .error (d.missing file) ↔ found = none := by
  constructor
  · intro h
    cases found with
    | none => rfl
    | some resource =>
      unfold readFrom at h
      dsimp only at h
      split at h
      · cases Error.instantiation.inj (Except.error.inj h)
      · cases h
  · rintro rfl
    rfl

/-- What is read tells where it was read, be it parameters or an error. -/
theorem location_eq_of_readFrom {d : Declaration} {file : String} {resource other : Resource}
    (h : d.readFrom file (some resource) = d.readFrom file (some other)) :
    resource.location = other.location := by
  unfold readFrom at h
  dsimp only at h
  split at h
  · next e he =>
    split at h
    · next e' he' =>
      obtain ⟨-, -, rfl⟩ :=
        InstantiationError.invalidParameters.inj (Error.instantiation.inj (Except.error.inj h))
      have hnamed := (Properties.resource_of_ofBytes_eq_error he).symm.trans
        (Properties.resource_of_ofBytes_eq_error he')
      cases hresource : resource.location
      cases hother : other.location
      simpa [hresource, hother] using hnamed
    · cases h
  · split at h
    · cases h
    · exact Option.some.inj (Parameters.mk.inj (Except.ok.inj h)).2

/-- What reading parameters comes to: the first resource of the group that is found, decoded. -/
theorem outcome_readParameters (d : Declaration) (view : View) (file : String) :
    (d.readParameters view file).outcome =
      (view.find (d.root ++ (parameterDirectory ++ file))).mapError (fun cause =>
        .instantiation (.parameterFailure d.implementation.name
          (d.root ++ (parameterDirectory ++ file)) d.source.text cause)) >>= fun resources =>
            d.readFrom file (d.inGroup? resources) := by
  unfold readParameters
  dsimp only
  rw [Report.outcome_bind_eq, Records.outcome_enumerate]
  congr 1
  funext resources
  unfold readFrom
  cases d.inGroup? resources with
  | none => rfl
  | some resource =>
    dsimp only
    cases Properties.ofBytes resource.bytes resource.location.text <;> rfl

/-! ## Tables in memory -/

/-- Whether an entry is that of a module at a path. -/
def isOwn (owner path : String) (entry : Embedded) : Bool :=
  entry.owner == owner && entry.path == path

/-- The first entry of a module at a path. -/
def firstOf (owner path : String) (entries : List Embedded) : Option Embedded :=
  entries.find? (isOwn owner path)

/-- Whether an entry of another module hides those of a module at a path: it passes for one of them
and stands before them all. -/
def IsScreened (owner root path : String) (entries : List Embedded) : Prop :=
  ∃ before entry after, entries = before ++ entry :: after ∧ entry.path = path ∧
    entry.Intrudes owner root ∧ ∀ other ∈ before, other.path = path → other.owner ≠ owner

/-- Whether an entry stands at a path and its location is in the group of a declaration. -/
def isInGroup (d : Declaration) (path : String) (entry : Embedded) : Bool :=
  entry.path == path && d.source.groupPrefix.toList.isPrefixOf entry.resource.location.text.toList

/-- The first resource of the group is that of the first entry of the group. -/
theorem inGroup?_embedded (d : Declaration) (path : String) (entries : List Embedded) :
    d.inGroup? ((entries.filter (·.path == path)).map Embedded.resource) =
      (entries.find? (d.isInGroup path)).map Embedded.resource := by
  unfold inGroup?
  rw [List.find?_map, List.find?_filter]
  congr 2
  funext entry
  simp only [Function.comp_apply, isInGroup, Bool.decide_and, Bool.decide_eq_true]

section Module

variable {root owner relative file : String} {entries : List Embedded} {d : Declaration}

/-- What belongs to the group at a path: the entries of the module, and those that intrude. -/
theorem isInGroup_iff (hroot : ∃ directory, root.toList = directory ++ ['/'])
    (h : d.ComesFrom root entries owner) (entry : Embedded) :
    d.isInGroup (root ++ relative) entry = true ↔
      entry.path = root ++ relative ∧ (entry.owner = owner ∨ entry.Intrudes owner root) := by
  unfold isInGroup Embedded.Intrudes
  rw [Bool.and_eq_true, beq_iff_eq, List.isPrefixOf_iff_prefix, h.groupPrefix hroot,
    Embedded.toList_location, List.prefix_append_right_inj]
  refine and_congr_right fun hpath => ?_
  constructor
  · intro hprefix
    by_cases howner : entry.owner = owner
    · exact .inl howner
    · exact .inr ⟨howner, hprefix⟩
  · rintro (howner | ⟨-, hprefix⟩)
    · rw [howner, hpath, String.toList_append]
      exact ⟨relative.toList, by simp⟩
    · exact hprefix

/-- What a module embeds itself is in the group of its declarations. -/
theorem isInGroup_of_isOwn (hroot : ∃ directory, root.toList = directory ++ ['/'])
    (h : d.ComesFrom root entries owner) (entry : Embedded)
    (hown : isOwn owner (root ++ relative) entry = true) :
    d.isInGroup (root ++ relative) entry = true := by
  unfold isOwn at hown
  rw [Bool.and_eq_true, beq_iff_eq, beq_iff_eq] at hown
  exact (isInGroup_iff hroot h entry).2 ⟨hown.2, .inl hown.1⟩

/-- **The first entry of the group is the module's own** exactly when that is not screened. -/
theorem find?_isInGroup_eq_firstOf_iff (hroot : ∃ directory, root.toList = directory ++ ['/'])
    (h : d.ComesFrom root entries owner) :
    entries.find? (d.isInGroup (root ++ relative)) = firstOf owner (root ++ relative) entries ↔
      ¬IsScreened owner root (root ++ relative) entries := by
  unfold firstOf
  rw [find?_eq_find?_iff (isInGroup_of_isOwn hroot h)]
  simp only [isInGroup_iff hroot h, isOwn, Bool.and_eq_true, beq_iff_eq]
  constructor
  · rintro hall ⟨before, entry, after, hsplit, hpath, hintrudes, hbefore⟩
    have hnone : ∀ other ∈ before,
        (other.owner == owner && other.path == root ++ relative) = false := by
      intro other hother
      have hforeign := hbefore other hother
      simpa using fun howner hpath => hforeign hpath howner
    exact hintrudes.1 (hall before entry after hsplit ⟨hpath, .inr hintrudes⟩ hnone).1
  · rintro hclear before entry after hsplit ⟨hpath, howner | hintrudes⟩ hbefore
    · exact ⟨howner, hpath⟩
    · refine absurd ⟨before, entry, after, hsplit, hpath, hintrudes, ?_⟩ hclear
      intro other hother hsame howner
      have hown := hbefore other hother
      simp [hsame, howner] at hown

/-- The group holds nothing exactly when the module does not and nothing is screened. -/
theorem find?_isInGroup_eq_none_iff (hroot : ∃ directory, root.toList = directory ++ ['/'])
    (h : d.ComesFrom root entries owner) :
    entries.find? (d.isInGroup (root ++ relative)) = none ↔
      firstOf owner (root ++ relative) entries = none ∧
        ¬IsScreened owner root (root ++ relative) entries := by
  rw [← find?_isInGroup_eq_firstOf_iff hroot h]
  constructor
  · intro hgroup
    have hown : firstOf owner (root ++ relative) entries = none := by
      refine List.find?_eq_none.2 fun entry hentry hown => ?_
      exact List.find?_eq_none.1 hgroup entry hentry (isInGroup_of_isOwn hroot h entry hown)
    exact ⟨hown, hgroup.trans hown.symm⟩
  · rintro ⟨hown, hsame⟩
    exact hsame.trans hown

/-- The module's own entry is located in the group. -/
theorem location_of_firstOf (hroot : ∃ directory, root.toList = directory ++ ['/'])
    (h : d.ComesFrom root entries owner) {entry : Embedded}
    (hentry : firstOf owner (root ++ relative) entries = some entry) :
    entry.resource.location.text = d.source.groupPrefix ++ relative := by
  have hown := List.find?_some hentry
  unfold isOwn at hown
  rw [Bool.and_eq_true, beq_iff_eq, beq_iff_eq] at hown
  rw [← String.toList_inj, Embedded.toList_location, String.toList_append, h.groupPrefix hroot,
    hown.1, hown.2, String.toList_append]
  simp

/-- An entry of the module that is the first of the group is the first of the module. -/
theorem firstOf_eq_of_find?_isInGroup (hroot : ∃ directory, root.toList = directory ++ ['/'])
    (h : d.ComesFrom root entries owner) {entry : Embedded}
    (hfirst : entries.find? (d.isInGroup (root ++ relative)) = some entry)
    (howner : entry.owner = owner) : firstOf owner (root ++ relative) entries = some entry := by
  obtain ⟨hentry, before, after, hsplit, hbefore⟩ := List.find?_eq_some_iff_append.1 hfirst
  have hpath := ((isInGroup_iff hroot h entry).1 hentry).1
  refine List.find?_eq_some_iff_append.2 ⟨?_, before, after, hsplit, fun other hother => ?_⟩
  · simp [isOwn, howner, hpath]
  · have hforeign := hbefore other hother
    rw [Bool.not_eq_true'] at hforeign ⊢
    by_contra hown
    rw [Bool.not_eq_false] at hown
    rw [isInGroup_of_isOwn hroot h other hown] at hforeign
    cases hforeign

/-- Reading the first entry of the group is reading the module's own only where they are one. -/
theorem readFrom_find?_isInGroup_iff (hroot : ∃ directory, root.toList = directory ++ ['/'])
    (h : d.ComesFrom root entries owner) :
    d.readFrom file ((entries.find? (d.isInGroup (root ++ relative))).map Embedded.resource) =
        d.readFrom file ((firstOf owner (root ++ relative) entries).map Embedded.resource) ↔
      ¬IsScreened owner root (root ++ relative) entries := by
  rw [← find?_isInGroup_eq_firstOf_iff hroot h]
  refine ⟨fun hread => ?_, fun hsame => by rw [hsame]⟩
  cases hgroup : entries.find? (d.isInGroup (root ++ relative)) with
  | none =>
    cases hown : firstOf owner (root ++ relative) entries with
    | none => rfl
    | some own =>
      rw [hgroup, hown] at hread
      cases readFrom_eq_missing_iff.1 hread.symm
  | some entry =>
    cases hown : firstOf owner (root ++ relative) entries with
    | none =>
      rw [hgroup, hown] at hread
      cases readFrom_eq_missing_iff.1 hread
    | some own =>
      rw [hgroup, hown] at hread
      have hownEntry := List.find?_some hown
      have hpath := ((isInGroup_iff hroot h entry).1 (List.find?_some hgroup)).1
      unfold isOwn at hownEntry
      rw [Bool.and_eq_true, beq_iff_eq, beq_iff_eq] at hownEntry
      have howner : entry.owner = owner :=
        (Embedded.owner_eq_of_location (hpath.trans hownEntry.2.symm)
          (location_eq_of_readFrom hread)).trans hownEntry.1
      rw [← hown, firstOf_eq_of_find?_isInGroup hroot h hgroup howner]

/-- **The parameters are those of the group's first entry** at the path. -/
theorem outcome_parameters_embedded {contextId : String} {tree : FileTree} (hdroot : d.root = root)
    (hfile : d.parameterFile? = some file) (hbelow : staysBelow file = true) :
    (d.parameters ((Enumerator.embedded contextId entries).view tree)).outcome =
      d.readFrom file ((entries.find? (d.isInGroup (root ++ (parameterDirectory ++ file)))).map
        Embedded.resource) := by
  unfold parameters
  dsimp only
  rw [hfile]
  dsimp only
  rw [if_pos hbelow, outcome_readParameters, hdroot, ← inGroup?_embedded]
  rfl

end Module

/-! ## Objects -/

/-- An object whose constructor takes parameters is made of what they come to. -/
theorem outcome_instantiate_parameters {d : Declaration} {factories : FactoryTable}
    {registration : Registration} {build : Parameters → Except String Instance}
    (hregistration : factories.lookup d.implementation.name = [registration])
    (hconstructor : registration.constructor = .parameters build) (view : View)
    (contract : String) :
    (d.instantiate view factories contract).outcome =
      (d.parameters view).outcome >>= fun parameters =>
        (d.accept contract (build parameters)).mapError .instantiation := by
  have hlookup : d.registration factories = .ok registration := by
    unfold Declaration.registration
    rw [hregistration]
  unfold instantiate
  rw [hlookup, Report.outcome_bind_eq]
  show (d.construct view registration.constructor >>= _).outcome = _
  rw [Report.outcome_bind_eq, hconstructor]
  show ((d.parameters view >>= fun parameters => Pure.pure (build parameters) :
    Report _).outcome >>= _) = _
  rw [Report.outcome_bind_eq]
  cases (d.parameters view).outcome <;> rfl

/-! ## Main statement -/

/-- What a declaration of a module gets for its parameters from a table in memory: its constructor
is `build`, and the parameters are to be found at `relative` below the root. -/
structure DrawsOn (d : Declaration) (entries : List Embedded) (view : View)
    (factories : FactoryTable) (contract : String) (build : Parameters → Except String Instance)
    (owner root file : String) : Prop where
  /-- The declaration comes from that module and from no other. -/
  comesFrom_iff : ∀ other, d.ComesFrom root entries other ↔ other = owner
  /-- The constructor is called with the parameters, and what it yields is taken over. -/
  outcome : (d.instantiate view factories contract).outcome =
    (d.parameters view).outcome >>= fun parameters =>
      (d.accept contract (build parameters)).mapError .instantiation
  /-- The parameters are what the module's own first entry holds, or there is none, exactly when no
  entry of another module hides it. -/
  parameters_iff : (d.parameters view).outcome = d.readFrom file
      ((firstOf owner (root ++ (parameterDirectory ++ file)) entries).map Embedded.resource) ↔
    ¬IsScreened owner root (root ++ (parameterDirectory ++ file)) entries
  /-- They are reported missing exactly when the module has no such entry and no other one passes
  for it. -/
  missing_iff : (d.instantiate view factories contract).outcome = .error (d.missing file) ↔
    firstOf owner (root ++ (parameterDirectory ++ file)) entries = none ∧
      ¬IsScreened owner root (root ++ (parameterDirectory ++ file)) entries
  /-- The module's own entry is located at the group's parameter file. -/
  location : ∀ entry, firstOf owner (root ++ (parameterDirectory ++ file)) entries = some entry →
    entry.resource.location.text = d.source.groupPrefix ++ (parameterDirectory ++ file)
  /-- Nothing is hidden where no module name holds a slash. -/
  not_isScreened : (∀ entry ∈ entries, '/' ∉ entry.owner.toList) →
    ¬IsScreened owner root (root ++ (parameterDirectory ++ file)) entries

/-- Objects are not refused as lacking their parameters once these were read. -/
theorem accept_ne_missing (d : Declaration) (contract file : String)
    (built : Except String Instance) :
    (d.accept contract built).mapError Error.instantiation ≠ .error (d.missing file) := by
  intro h
  unfold accept at h
  cases built with
  | error cause => cases Error.instantiation.inj (Except.error.inj h)
  | ok object =>
    dsimp only at h
    split at h
    · cases h
    · cases Error.instantiation.inj (Except.error.inj h)

/-- **Parameters come from the declaring module** exactly where no other module's entry hides its
own. A declaration that comes out of a resolution belongs to one module of the table. Where its
implementation has one constructor, which takes parameters, and names a file that stays below the
parameter directory, the constructor gets what the module's own first entry holds, unless an entry
of another module, whose name and path read like the group of the module, stands before it. -/
theorem instantiate_drawsOn {contextId : String} {entries : List Embedded} {tree : FileTree}
    {root : String} {overrides : Overrides} {resolved : Resolved} {d : Declaration}
    {factories : FactoryTable} {registration : Registration}
    {build : Parameters → Except String Instance} {file : String}
    (hload : (Resolved.load ((Enumerator.embedded contextId entries).view tree) root
      overrides).outcome = .ok resolved)
    (hdeclares : resolved.Declares d)
    (hregistration : factories.lookup d.implementation.name = [registration])
    (hconstructor : registration.constructor = .parameters build)
    (hfile : d.parameterFile? = some file) (hbelow : staysBelow file = true) (contract : String) :
    ∃ owner, d.DrawsOn entries ((Enumerator.embedded contextId entries).view tree) factories
      contract build owner (normalizeRoot root) file := by
  obtain ⟨hdroot, family, resources, hfind, resource, hresource, hsource⟩ :=
    hdeclares.exists_resource hload
  obtain rfl := Except.ok.inj hfind
  obtain ⟨declaring, hdeclaring, rfl⟩ := List.mem_map.1 hresource
  obtain ⟨hmem, hpath⟩ := List.mem_filter.1 hdeclaring
  have hroot := exists_normalizeRoot_eq root
  have hcomes : d.ComesFrom (normalizeRoot root) entries declaring.owner :=
    ⟨declaring, hmem, rfl, ⟨family, by simpa using hpath⟩, hsource⟩
  have hinstantiate := outcome_instantiate_parameters hregistration hconstructor
    ((Enumerator.embedded contextId entries).view tree) contract
  have hparameters :
      (d.parameters ((Enumerator.embedded contextId entries).view tree)).outcome = _ :=
    outcome_parameters_embedded hdroot hfile hbelow
  refine ⟨declaring.owner, ?_, hinstantiate, ?_, ?_, ?_, ?_⟩
  · intro other
    constructor
    · intro hother
      exact hother.unique hroot hcomes
    · rintro rfl
      exact hcomes
  · rw [hparameters]
    exact readFrom_find?_isInGroup_iff hroot hcomes
  · rw [hinstantiate, hparameters, bind_eq_error_iff, readFrom_eq_missing_iff,
      Option.map_eq_none_iff, find?_isInGroup_eq_none_iff hroot hcomes]
    refine or_iff_left ?_
    rintro ⟨parameters, -, hrefused⟩
    exact d.accept_ne_missing contract file _ hrefused
  · intro entry hentry
    exact location_of_firstOf hroot hcomes hentry
  · rintro hplain ⟨before, entry, after, hsplit, -, hintrudes, -⟩
    have hentry : entry ∈ entries := by
      rw [hsplit]
      exact List.mem_append_right before List.mem_cons_self
    exact Embedded.not_intrudes (hplain declaring hmem) (hplain entry hentry) hintrudes

/-- A module `a`, and one whose name reads like a directory of it. Both hold a parameter file. -/
def nestedModules : List Embedded :=
  [⟨"a", "META-INF/spi/service.properties", "g>x>library=c(p)".toUTF8⟩,
    ⟨"a/META-INF/spi", "META-INF/spi/parameter/p", "k=other".toUTF8⟩,
    ⟨"a", "META-INF/spi/parameter/p", "k=own".toUTF8⟩]

/-- The declaration of the service definition of `a`. -/
def ofModuleA : Declaration :=
  ⟨⟨"c", some "p"⟩, "META-INF/spi/", ⟨"embedded:a/META-INF/spi/service.properties"⟩⟩

/-- The object that shows what its constructor got for `k`. -/
def showK (parameters : Parameters) : Except String Instance :=
  .ok ⟨"g", parameters.getD "k" "nothing"⟩

/-- What can be built. -/
def showing : FactoryTable := ⟨[⟨"c", "g", .parameters showK⟩]⟩

/-- The declaration of a service definition, if the resolution knows it. -/
def declarationOf (outcome : Except Error Resolved) (contract id : String) :
    Option Declaration := do
  let resolved ← outcome.toOption
  let choice ← resolved.services[contract]?
  let d ← choice.definitions[id]?
  return d.declaration

/-- A declaration that is found by contract and id is one of the decisions. -/
theorem exists_declares_of_declarationOf {outcome : Except Error Resolved} {contract id : String}
    {d : Declaration} (h : declarationOf outcome contract id = some d) :
    ∃ resolved, outcome = .ok resolved ∧ resolved.Declares d := by
  unfold declarationOf at h
  obtain ⟨resolved, hresolved, h⟩ := Option.bind_eq_some_iff.1 h
  obtain ⟨choice, hchoice, h⟩ := Option.bind_eq_some_iff.1 h
  obtain ⟨definition, hdefinition, h⟩ := Option.bind_eq_some_iff.1 h
  obtain rfl := Option.some.inj h
  cases outcome with
  | error e => cases hresolved
  | ok other =>
    obtain rfl := Option.some.inj hresolved
    exact ⟨other, rfl, .service contract id choice definition hchoice hdefinition⟩

/-- The module `a` has the parameter file that it names, but its constructor gets that of the other
module. -/
theorem instantiate_nestedModules :
    (∃ resolved, (Resolved.load (viewOf nestedModules) "" ⟨∅, ∅, ∅⟩).outcome = .ok resolved ∧
      resolved.Declares ofModuleA) ∧
    ofModuleA.ComesFrom "META-INF/spi/" nestedModules "a" ∧
    firstOf "a" "META-INF/spi/parameter/p" nestedModules =
      some ⟨"a", "META-INF/spi/parameter/p", "k=own".toUTF8⟩ ∧
    (ofModuleA.instantiate (viewOf nestedModules) showing "g").outcome = .ok ⟨"g", "other"⟩ := by
  refine ⟨?_, ?_, rfl, by decide +kernel⟩
  · have hdeclared : declarationOf (Resolved.load (viewOf nestedModules) "" ⟨∅, ∅, ∅⟩).outcome "g"
        "x" = some ofModuleA := by decide +kernel
    exact exists_declares_of_declarationOf hdeclared
  · exact ⟨_, List.mem_cons_self, rfl, ⟨.services, rfl⟩, rfl⟩

/-- Where its own file stands first, the constructor gets that. -/
theorem instantiate_drawsOn_nestedModules_reverse :
    ∃ resolved, (Resolved.load (viewOf nestedModules.reverse) "" ⟨∅, ∅, ∅⟩).outcome =
        .ok resolved ∧
      resolved.Declares ofModuleA ∧ ofModuleA.parameterFile? = some "p" ∧
      staysBelow "p" = true ∧
      (∃ owner, ofModuleA.DrawsOn nestedModules.reverse (viewOf nestedModules.reverse) showing "g"
        showK owner (normalizeRoot "") "p") ∧
      (ofModuleA.instantiate (viewOf nestedModules.reverse) showing "g").outcome =
        .ok ⟨"g", "own"⟩ := by
  have hdeclared : declarationOf (Resolved.load (viewOf nestedModules.reverse) ""
      ⟨∅, ∅, ∅⟩).outcome "g" "x" = some ofModuleA := by decide +kernel
  obtain ⟨resolved, hload, hdeclares⟩ := exists_declares_of_declarationOf hdeclared
  have hfile : ofModuleA.parameterFile? = some "p" := by decide +kernel
  have hbelow : staysBelow "p" = true := by decide +kernel
  refine ⟨resolved, hload, hdeclares, hfile, hbelow, ?_, by decide +kernel⟩
  exact instantiate_drawsOn hload hdeclares rfl rfl hfile hbelow "g"

end Declaration

end Wiring
