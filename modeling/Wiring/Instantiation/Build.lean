import Wiring.Enumerator
import Wiring.Definition.Implementation
import Wiring.Instantiation.Constructor
import Wiring.Properties.Text

/-!
# Instantiation · Building

Building the object that an implementation reference names. Exactly one constructor must be
registered under the name. One that takes parameters gets those in the file that the argument names
below the parameter directory of the config root, found in the group of the declaring resource; the
argument may not leave that directory. The object must be of the contract that was asked for.
-/

namespace Wiring

/-- What is built, and where that was declared. -/
structure Declaration where
  /-- The reference. -/
  implementation : Implementation
  /-- The config root below which the reference was found. -/
  root : String
  /-- The resource that holds the reference. -/
  source : Location
deriving DecidableEq, Repr

namespace Declaration

/-! ## Parameter files -/

/-- The directory of parameter files, relative to the config root. -/
def parameterDirectory : String := "parameter/"

/-- The two signs that separate the parts of a path. -/
def isSeparator (c : Char) : Bool :=
  c == '/' || c == '\\'

/-- Whether a path is relative and has no part that goes up. -/
def staysBelow (path : String) : Bool :=
  !(path.toList.head?.any isSeparator) && !(Text.split isSeparator path).contains ".."

/-- The parameter file that the argument names; a blank argument names none. -/
def parameterFile? (d : Declaration) : Option String :=
  (d.implementation.arg.map Text.trim).filter fun arg => !arg.isEmpty

/-- The first of some resources whose location is in the group of the declaring resource. -/
def inGroup? (d : Declaration) (resources : List Resource) : Option Resource :=
  resources.find? fun r => d.source.groupPrefix.toList.isPrefixOf r.location.text.toList

/-- Reads the parameters in a file below the parameter directory. -/
def readParameters (d : Declaration) (view : View) (file : String) : Report Parameters := do
  let name := d.implementation.name
  let source := d.source.text
  let relative := parameterDirectory ++ file
  let path := d.root ++ relative
  let candidates ← view.enumerate path fun cause =>
    .instantiation (.parameterFailure name path source cause)
  match d.inGroup? candidates with
  | none =>
    .fail (.instantiation (.missingParameters name (d.source.groupPrefix ++ relative) source))
  | some resource =>
    match Properties.ofBytes resource.bytes resource.location.text with
    | .error e => .fail (.instantiation (.invalidParameters name source e))
    | .ok properties =>
      let parameters := Parameters.ofProperties properties resource.location
      .say .info s!"Parameters loaded for {d.implementation}: {parameters.size} entries"
      .say .debug s!"Parameters of {d.implementation} read from {resource.location}"
      return parameters

/-- The parameters that the argument names; none without an argument. -/
def parameters (d : Declaration) (view : View) : Report Parameters := do
  let name := d.implementation.name
  match d.parameterFile? with
  | none =>
    .say .debug <| s!"{name} takes parameters but declares no parameter file, " ++
      s!"passing an empty set, declared in {d.source}"
    return Parameters.empty
  | some file =>
    if staysBelow file then d.readParameters view file
    else .fail (.instantiation (.invalidParameterPath name file d.source.text))

/-! ## Objects -/

/-- The one registration of the implementation's name. -/
def registration (d : Declaration) (factories : FactoryTable) :
    Except InstantiationError Registration :=
  match factories.lookup d.implementation.name with
  | [] => .error (.notRegistered d.implementation.name d.source.text)
  | [registration] => .ok registration
  | several =>
    .error (.multipleConstructors d.implementation.name several.length d.source.text)

/-- Calls a constructor with what it takes. -/
def construct (d : Declaration) (view : View) :
    Constructor → Report (Except String Instance)
  | .empty build => return build
  | .text build => return build d.implementation.arg
  | .parameters build => return build (← d.parameters view)

/-- Takes over what a constructor yields, if it is of the contract. -/
def accept (d : Declaration) (contract : String) :
    Except String Instance → Except InstantiationError Instance
  | .error cause => .error (.failed d.implementation.name d.source.text cause)
  | .ok object =>
    if object.contract = contract then .ok object
    else .error (.typeMismatch d.implementation.name contract d.source.text)

/-- Builds the object of a contract that a reference names. -/
def instantiate (d : Declaration) (view : View) (factories : FactoryTable) (contract : String) :
    Report Instance := do
  let registration ← .ofInstantiation (d.registration factories)
  let built ← d.construct view registration.constructor
  .ofInstantiation (d.accept contract built)

end Declaration

end Wiring
