import Mathlib.Data.List.Basic
import Wiring.Instantiation.Build
import Wiring.Path
import Wiring.Proofs.Text.Trim

/-!
# Instantiation · Where parameters are looked for

The path at which the parameters of a declaration are looked for, and where it leads. A walk goes
along a path part by part: a name enters a directory, `..` leaves one, an empty part or `.` leads
nowhere, and an absolute path begins at the top of all files (`Place`, `Declaration.route`). What a
view is asked for is told by what its answers make a difference to (`Declaration.AsksFor`). Main
statement: a view is asked for the path of the trimmed argument below the parameter directory and
for nothing else, and only where every place on the way is within that directory; any other
argument that is not blank is refused, whatever the view is (`Declaration.parameters_looksWithin`).
-/

namespace Wiring

/-! ## Walks along paths -/

/-- Where a walk along a path stands. -/
inductive Place
  /-- In a directory below the start, given by the names on the way to it, the last one first. -/
  | below (names : List String)
  /-- Above the start. -/
  | above
  /-- On a way from the top of all files. -/
  | elsewhere
deriving DecidableEq, Repr

namespace Place

/-- One part of the path further. A walk that has left the start is not taken to come back. -/
def enter : Place → String → Place
  | below names, part =>
    if Path.isIdle part then below names
    else if part = ".." then
      match names with
      | [] => above
      | _ :: outer => below outer
    else below (part :: names)
  | place, _ => place

/-- Whether a place is a directory, given by the names on the way to it, or one below it. -/
def Within (directory : List String) (place : Place) : Prop :=
  ∃ names, place = below (names ++ directory)

/-- A directory lies within itself. -/
theorem within_below (directory : List String) : (below directory).Within directory :=
  ⟨[], rfl⟩

/-- A part that does not go up stays within every directory. -/
theorem Within.enter {directory : List String} {place : Place} (h : place.Within directory)
    {part : String} (hpart : part ≠ "..") : (place.enter part).Within directory := by
  obtain ⟨names, rfl⟩ := h
  unfold Place.enter
  dsimp only
  rw [if_neg hpart]
  split
  · exact ⟨names, rfl⟩
  · exact ⟨part :: names, rfl⟩

/-- **A walk that never goes up** stays within the directory where it begins, all the way. -/
theorem Within.scanl {directory : List String} {start : Place} (hstart : start.Within directory)
    {parts : List String} (hparts : ∀ part ∈ parts, part ≠ "..") :
    ∀ place ∈ parts.scanl Place.enter start, place.Within directory := by
  induction parts generalizing start with
  | nil =>
    intro place hplace
    rw [List.scanl_nil, List.mem_singleton] at hplace
    rwa [hplace]
  | cons part parts ih =>
    obtain ⟨hpart, hrest⟩ := List.forall_mem_cons.1 hparts
    intro place hplace
    rw [List.scanl_cons] at hplace
    rcases List.mem_cons.1 hplace with rfl | hplace
    · exact hstart
    · exact ih (hstart.enter hpart) hrest place hplace

end Place

namespace Declaration

/-- Whether a path begins with a separator. -/
def isAbsolute (path : String) : Bool :=
  path.toList.head?.any isSeparator

/-- The parts of a path between separators of either kind. -/
def parts (path : String) : List String :=
  Text.split isSeparator path

/-- The places that a walk along a path passes. An absolute path begins at the top of all files
instead of the start. -/
def route (start : Place) (path : String) : List Place :=
  (parts path).scanl Place.enter (if isAbsolute path then .elsewhere else start)

/-- A path stays below if it is relative and no part of it goes up. -/
theorem staysBelow_eq_true_iff {path : String} :
    staysBelow path = true ↔ isAbsolute path = false ∧ ".." ∉ parts path := by
  unfold staysBelow
  rw [Bool.and_eq_true, Bool.not_eq_true', Bool.not_eq_true', ← Bool.not_eq_true,
    ← Bool.not_eq_true (List.contains _ _), List.contains_iff_mem]
  exact and_congr_left' (Bool.not_eq_true _).to_iff

/-! ## The parameter directory -/

/-- The names on the way from the config root to the parameter directory. -/
def parameterNames : List String := ["parameter"]

/-- A file below the parameter directory has that directory as its first part. -/
theorem parts_parameterDirectory_append (file : String) :
    parts (parameterDirectory ++ file) = "parameter" :: parts file := by
  unfold parts Text.split parameterDirectory
  rw [String.toList_append]
  have hnone : ∀ c ∈ "parameter".toList, isSeparator c = false := by simp [isSeparator]
  have hslash : isSeparator '/' = true := rfl
  have hsplit : Text.splitAt isSeparator ("parameter/".toList ++ file.toList) =
      "parameter".toList :: Text.splitAt isSeparator file.toList :=
    Text.splitAt_append_cons hnone hslash file.toList
  rw [hsplit, List.map_cons, String.ofList_toList]

/-- A relative path below the parameter directory leads on from there. -/
theorem route_parameterDirectory_append {file : String} (h : isAbsolute file = false) :
    route (.below []) (parameterDirectory ++ file) =
      .below [] :: route (.below parameterNames) file := by
  have hrelative : isAbsolute (parameterDirectory ++ file) = false := by
    unfold isAbsolute parameterDirectory
    rw [String.toList_append]
    rfl
  unfold route
  rw [parts_parameterDirectory_append, hrelative, h, List.scanl_cons]
  rfl

/-- **A path that stays below** leads through places within the parameter directory only. -/
theorem within_of_staysBelow {file : String} (h : staysBelow file = true) :
    ∀ place ∈ route (.below parameterNames) file, place.Within parameterNames := by
  obtain ⟨hrelative, hparts⟩ := staysBelow_eq_true_iff.1 h
  unfold route
  rw [hrelative]
  refine (Place.within_below parameterNames).scanl fun part hpart => ?_
  rintro rfl
  exact hparts hpart

/-! ## What a view is asked for -/

/-- Whether a view is asked for a path when the parameters of a declaration are read: another
answer there can make a difference, while all else is as it was. -/
def AsksFor (d : Declaration) (path : String) : Prop :=
  ∃ view view' : View, view.traced = view'.traced ∧
    (∀ other, other ≠ path → view.find other = view'.find other) ∧
    d.parameters view ≠ d.parameters view'

/-- The parameter file is the argument without the blanks around it, unless nothing is left. -/
theorem parameterFile?_eq_some_iff {d : Declaration} {file : String} :
    d.parameterFile? = some file ↔
      ∃ arg, d.implementation.arg = some arg ∧ Text.trim arg = file ∧ file ≠ "" := by
  unfold parameterFile?
  rw [Option.filter_eq_some_iff, Option.map_eq_some_iff]
  simp only [Bool.not_eq_true', String.isEmpty_eq_false_iff]
  constructor
  · rintro ⟨⟨arg, harg, hfile⟩, hne⟩
    exact ⟨arg, harg, hfile, hne⟩
  · rintro ⟨arg, harg, hfile, hne⟩
    exact ⟨⟨arg, harg, hfile⟩, hne⟩

/-- A file that stays below the parameter directory is read. -/
theorem parameters_of_staysBelow {d : Declaration} {file : String}
    (hfile : d.parameterFile? = some file) (hbelow : staysBelow file = true) (view : View) :
    d.parameters view = d.readParameters view file := by
  unfold parameters
  rw [hfile]
  dsimp only
  rw [if_pos hbelow]

/-- An argument that leads out of the parameter directory is refused, whatever the view is. -/
theorem parameters_of_not_staysBelow {d : Declaration} {file : String}
    (hfile : d.parameterFile? = some file) (hbelow : staysBelow file = false) (view : View) :
    d.parameters view = .fail (.instantiation
      (.invalidParameterPath d.implementation.name file d.source.text)) := by
  unfold parameters
  rw [hfile]
  dsimp only
  rw [if_neg (by rw [hbelow]; exact Bool.false_ne_true)]

/-- Only the answer for the file's path counts. -/
theorem readParameters_congr {d : Declaration} {view view' : View} {file : String}
    (htraced : view.traced = view'.traced)
    (hfind : view.find (d.root ++ (parameterDirectory ++ file)) =
      view'.find (d.root ++ (parameterDirectory ++ file))) :
    d.readParameters view file = d.readParameters view' file := by
  unfold readParameters View.enumerate
  dsimp only
  rw [htraced, hfind]

/-- A view that cannot list the file's path fails the reading, for the cause it gives. -/
theorem readParameters_of_error {d : Declaration} {view : View} {file cause : String}
    (h : view.find (d.root ++ (parameterDirectory ++ file)) = .error cause) :
    d.readParameters view file = .fail (.instantiation (.parameterFailure d.implementation.name
      (d.root ++ (parameterDirectory ++ file)) d.source.text cause)) := by
  unfold readParameters View.enumerate
  dsimp only
  rw [h]
  rfl

/-- **A view is asked for** the path of the file that the argument names, if that stays below. -/
theorem asksFor_iff {d : Declaration} {path : String} :
    d.AsksFor path ↔ ∃ file, d.parameterFile? = some file ∧ staysBelow file = true ∧
      path = d.root ++ (parameterDirectory ++ file) := by
  constructor
  · rintro ⟨view, view', htraced, hothers, hdiffer⟩
    cases hfile : d.parameterFile? with
    | none =>
      refine absurd ?_ hdiffer
      unfold parameters
      rw [hfile]
    | some file =>
      cases hbelow : staysBelow file with
      | false =>
        refine absurd ?_ hdiffer
        rw [parameters_of_not_staysBelow hfile hbelow, parameters_of_not_staysBelow hfile hbelow]
      | true =>
        refine ⟨file, rfl, hbelow, ?_⟩
        by_contra hpath
        refine hdiffer ?_
        rw [parameters_of_staysBelow hfile hbelow, parameters_of_staysBelow hfile hbelow]
        exact readParameters_congr htraced (hothers _ (Ne.symm hpath))
  · rintro ⟨file, hfile, hbelow, rfl⟩
    -- two views that can list nothing, of which one tells another cause for this path
    let path := d.root ++ (parameterDirectory ++ file)
    let plain : View := ⟨fun _ => .error "plain", false⟩
    let special : View := ⟨fun other => .error (if other = path then "special" else "plain"), false⟩
    refine ⟨plain, special, rfl, ?_, ?_⟩
    · intro other hother
      show Except.error "plain" = Except.error (if other = path then "special" else "plain")
      rw [if_neg hother]
    · have hplain : plain.find path = .error "plain" := rfl
      have hspecial : special.find path = .error "special" :=
        congrArg Except.error (if_pos rfl)
      rw [parameters_of_staysBelow hfile hbelow, parameters_of_staysBelow hfile hbelow,
        readParameters_of_error hplain, readParameters_of_error hspecial]
      intro h
      have houtcome := Error.instantiation.inj (Except.error.inj (congrArg Report.outcome h))
      obtain ⟨-, -, -, hcause⟩ := InstantiationError.parameterFailure.inj houtcome
      exact absurd hcause (by decide)

/-! ## Main statement -/

/-- Where the parameters of a declaration are looked for. -/
structure LooksWithin (d : Declaration) : Prop where
  /-- A view is asked for nothing but the path of the trimmed argument below the parameter
  directory; a walk along that path enters the parameter directory first and is within it from then
  on, nor does the argument begin anew at the top of all files. -/
  path : ∀ path, d.AsksFor path → ∃ arg, d.implementation.arg = some arg ∧
    path = d.root ++ (parameterDirectory ++ Text.trim arg) ∧
    route (.below []) (parameterDirectory ++ Text.trim arg) =
      .below [] :: route (.below parameterNames) (Text.trim arg) ∧
    ∀ place ∈ route (.below parameterNames) (Text.trim arg), place.Within parameterNames
  /-- It is asked for that path exactly where the argument is not blank, is not absolute and has no
  part that goes up. -/
  asks_iff : ∀ arg, d.implementation.arg = some arg →
    ((∃ path, d.AsksFor path) ↔ Text.trim arg ≠ "" ∧ isAbsolute (Text.trim arg) = false ∧
      ".." ∉ parts (Text.trim arg))
  /-- Any other argument that is not blank is refused, whatever the view would answer. -/
  refused : ∀ arg, d.implementation.arg = some arg → Text.trim arg ≠ "" →
    (¬∃ path, d.AsksFor path) → ∀ view, d.parameters view = .fail (.instantiation
      (.invalidParameterPath d.implementation.name (Text.trim arg) d.source.text))
  /-- What a view is not asked for makes no difference. -/
  congr : ∀ view view' : View, view.traced = view'.traced →
    (∀ path, d.AsksFor path → view.find path = view'.find path) →
      d.parameters view = d.parameters view'

/-- **Parameters are looked for within the parameter directory.** Whatever the argument, the config
root and the source of a declaration are, reading its parameters asks a view for one path at most.
That is the trimmed argument below the parameter directory of the config root, and no place on the
way along it is above that directory or elsewhere. An argument that leads elsewhere is refused
before anything is asked for. -/
theorem parameters_looksWithin (d : Declaration) : d.LooksWithin := by
  refine ⟨?_, ?_, ?_, ?_⟩
  · intro path hasks
    obtain ⟨file, hfile, hbelow, rfl⟩ := asksFor_iff.1 hasks
    obtain ⟨arg, harg, rfl, -⟩ := parameterFile?_eq_some_iff.1 hfile
    exact ⟨arg, harg, rfl, route_parameterDirectory_append (staysBelow_eq_true_iff.1 hbelow).1,
      within_of_staysBelow hbelow⟩
  · intro arg harg
    simp only [asksFor_iff, parameterFile?_eq_some_iff, ← staysBelow_eq_true_iff]
    constructor
    · rintro ⟨path, file, ⟨other, hother, rfl, hne⟩, hbelow, -⟩
      obtain rfl := Option.some.inj (harg.symm.trans hother)
      exact ⟨hne, hbelow⟩
    · rintro ⟨hne, hbelow⟩
      exact ⟨_, Text.trim arg, ⟨arg, harg, rfl, hne⟩, hbelow, rfl⟩
  · intro arg harg hne hnone view
    have hfile : d.parameterFile? = some (Text.trim arg) :=
      parameterFile?_eq_some_iff.2 ⟨arg, harg, rfl, hne⟩
    cases hbelow : staysBelow (Text.trim arg) with
    | false => exact parameters_of_not_staysBelow hfile hbelow view
    | true => exact absurd ⟨_, asksFor_iff.2 ⟨_, hfile, hbelow, rfl⟩⟩ hnone
  · intro view view' htraced hsame
    cases hfile : d.parameterFile? with
    | none =>
      unfold parameters
      rw [hfile]
    | some file =>
      cases hbelow : staysBelow file with
      | false =>
        rw [parameters_of_not_staysBelow hfile hbelow, parameters_of_not_staysBelow hfile hbelow]
      | true =>
        rw [parameters_of_staysBelow hfile hbelow, parameters_of_staysBelow hfile hbelow]
        exact readParameters_congr htraced (hsame _ (asksFor_iff.2 ⟨file, hfile, hbelow, rfl⟩))

/-- A way down and up again is refused although it ends where it may. -/
example : staysBelow "x/../y" = false ∧
    route (.below parameterNames) "x/../y" = [.below ["parameter"], .below ["x", "parameter"],
      .below ["parameter"], .below ["y", "parameter"]] := by
  decide +kernel

end Declaration

end Wiring
