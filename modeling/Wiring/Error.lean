/-!
# Errors

Everything that can go wrong while a configuration is read, resolved or built, as causes: malformed
text (`SyntaxError`), records that contradict each other (`ConflictError`), an object that cannot be
built (`InstantiationError`), and `Error`, which is any of these or a failed enumeration. The
wording is in the functions `message`; `Error.causes` lists the messages of what lies behind an
error, the nearest first.
-/

namespace Wiring

/-! ## Malformed text -/

/-- The shape that the key of an entry must have, by family of records. -/
inductive KeyFormat
  /-- Contract, id and level. -/
  | service
  /-- Contract and priority. -/
  | plugin
  /-- A contract alone. -/
  | contract
deriving DecidableEq, Repr

/-- The shape as it is shown in an error message. -/
def KeyFormat.text : KeyFormat → String
  | service => "interface>id>level=impl"
  | plugin => "interface>priority=impl"
  | contract => "interface"

/-- A text that cannot be read. `resource` names where the text stands. -/
inductive SyntaxError
  /-- A key has not the shape of its family. -/
  | illegalKey (key : String) (expected : KeyFormat) (resource : String)
  /-- A value is blank. -/
  | emptyValue (key : String) (resource : String)
  /-- The level of a service key is unknown. -/
  | undefinedLevel (level : String) (key : String) (resource : String)
  /-- The priority of a plugin key is no integer of 32 bits. -/
  | invalidPriority (priority : String) (key : String) (resource : String)
  /-- An implementation reference begins with an opening parenthesis. -/
  | missingImplementation (key : String) (resource : String)
  /-- An implementation reference has an opening parenthesis but none that closes at its end. -/
  | unterminatedArgument (key : String) (resource : String)
  /-- The line that starts at number `line` holds a character escape with bad digits. -/
  | malformedEscape (line : Nat) (digits : String) (resource : String)
  /-- The bytes of a resource are no UTF-8 text. -/
  | encoding (resource : String)
deriving DecidableEq, Repr

/-- The wording of a syntax error. -/
def SyntaxError.message : SyntaxError → String
  | illegalKey key expected resource =>
    s!"illegal key '{key}', expected format {expected.text}, in {resource}"
  | emptyValue key resource => s!"value of '{key}' is empty, in {resource}"
  | undefinedLevel level key resource =>
    s!"undefined level '{level}' in key '{key}', " ++
      s!"expected default/library/platform/application, in {resource}"
  | invalidPriority priority key resource =>
    s!"invalid priority '{priority}' in key '{key}', expected an integer, in {resource}"
  | missingImplementation key resource => s!"value of '{key}' starts with '(', in {resource}"
  | unterminatedArgument key resource =>
    s!"value of '{key}' has '(' but no ')' at the end, in {resource}"
  | malformedEscape line digits resource =>
    s!"malformed properties at line {line}: " ++
      s!"malformed \\uXXXX escape '\\u" ++ s!"{digits}', in {resource}"
  | encoding resource => s!"resource is not valid UTF-8: {resource}"

/-! ## Contradicting records -/

/-- Records that cannot all hold. -/
inductive ConflictError
  /-- Two service definitions of one contract have one id. -/
  | duplicateId (contract : String) (id : String) (first : String) (second : String)
  /-- Several service definitions share the highest level; `conflicts` shows each of them. -/
  | ambiguousLevel (contract : String) (conflicts : List String)
  /-- Two apply records of one contract name different ids. -/
  | applyDisagreement (contract : String) (firstId : String) (first : String)
      (secondId : String) (second : String)
deriving DecidableEq, Repr

/-- The wording of a conflict. -/
def ConflictError.message : ConflictError → String
  | duplicateId contract id first second =>
    s!"duplicate service id '{id}' for {contract}, defined in {first} and {second}"
  | ambiguousLevel contract conflicts =>
    s!"ambiguous services with the same level for {contract}, conflicts: " ++
      " | ".intercalate conflicts
  | applyDisagreement contract firstId first secondId second =>
    s!"apply records disagree for {contract}: " ++
      s!"'{firstId}' in {first} and '{secondId}' in {second}"

/-! ## Objects that cannot be built -/

/-- Why no object was built for an implementation that `resource` declares. -/
inductive InstantiationError
  /-- No constructor has the name. -/
  | notRegistered (implementation : String) (resource : String)
  /-- More than one constructor has the name. -/
  | multipleConstructors (implementation : String) (count : Nat) (resource : String)
  /-- The group of the declaring resource has no such parameter resource. -/
  | missingParameters (implementation : String) (expected : String) (resource : String)
  /-- The argument does not stay below the parameter directory. -/
  | invalidParameterPath (implementation : String) (arg : String) (resource : String)
  /-- The parameter resources could not be enumerated. -/
  | parameterFailure (implementation : String) (path : String) (resource : String)
      (cause : String)
  /-- The parameter resource could not be read as a property list. -/
  | invalidParameters (implementation : String) (resource : String) (cause : SyntaxError)
  /-- The constructor failed. -/
  | failed (implementation : String) (resource : String) (cause : String)
  /-- The object is of another contract than the one asked for. -/
  | typeMismatch (implementation : String) (contract : String) (resource : String)
deriving DecidableEq, Repr

/-- The wording of an instantiation error. -/
def InstantiationError.message : InstantiationError → String
  | notRegistered implementation resource =>
    s!"implementation {implementation} is not registered, declared in {resource}"
  | multipleConstructors implementation count resource =>
    s!"implementation {implementation} must have exactly one constructor, " ++
      s!"found {count}, declared in {resource}"
  | missingParameters implementation expected resource =>
    s!"implementation {implementation} takes parameters, " ++
      s!"expected a resource at {expected}, declared in {resource}"
  | invalidParameterPath implementation arg resource =>
    s!"parameter file '{arg}' of {implementation} must be relative to the parameter directory, " ++
      s!"declared in {resource}"
  | parameterFailure implementation path resource _ =>
    s!"failed to load parameters {path} for {implementation}, declared in {resource}"
  | invalidParameters implementation resource _ =>
    s!"invalid parameters for {implementation}, declared in {resource}"
  | failed implementation resource _ =>
    s!"constructor of {implementation} failed, declared in {resource}"
  | typeMismatch implementation contract resource =>
    s!"{implementation} is not an implementation of {contract}, declared in {resource}"

/-- The messages behind an instantiation error, the nearest first. -/
def InstantiationError.causes : InstantiationError → List String
  | parameterFailure _ _ _ cause => [cause]
  | invalidParameters _ _ cause => [cause.message]
  | failed _ _ cause => [cause]
  | _ => []

/-! ## Any error -/

/-- Any failure of reading, resolving or building. -/
inductive Error
  /-- Malformed text. -/
  | malformed (cause : SyntaxError)
  /-- Contradicting records. -/
  | conflict (cause : ConflictError)
  /-- An object that cannot be built. -/
  | instantiation (cause : InstantiationError)
  /-- The resources at a path could not be enumerated. -/
  | enumeration (path : String) (cause : String)
deriving DecidableEq, Repr

/-- The wording of an error. -/
def Error.message : Error → String
  | malformed cause => cause.message
  | conflict cause => cause.message
  | instantiation cause => cause.message
  | enumeration path _ => s!"failed to enumerate resources at {path}"

/-- The messages behind an error, the nearest first. -/
def Error.causes : Error → List String
  | malformed _ => []
  | conflict _ => []
  | instantiation cause => cause.causes
  | enumeration _ cause => [cause]

end Wiring
