import Wiring.Diagnostics.Report
import Wiring.FileTree

/-!
# Enumerators

An enumerator answers which resources there are at a relative path, over all modules it knows and in
their order. What it answers may depend on the files as they are now, so an enumerator is given as
the view it has of a file tree. Two kinds are defined: a table held in memory and a list of
directories. Its context id names an enumerator; loaders are cached under it.
-/

namespace Wiring

/-! ## Views -/

/-- What an enumerator answers at one moment. -/
structure View where
  /-- The resources at a path, or why they cannot be listed. -/
  find : String → Except String (List Resource)
  /-- Whether every resource found is put on record. -/
  traced : Bool

/-- The resources at a path, each put on record where the view is traced. -/
def View.enumerate (view : View) (path : String) (failure : String → Error) :
    Report (List Resource) :=
  match view.find path with
  | .error cause => .fail (failure cause)
  | .ok resources =>
    ⟨if view.traced then resources.map fun r => .found r.location else [], .ok resources⟩

/-- A context of modules and the view it has of the files. -/
structure Enumerator where
  /-- The name of the context. -/
  contextId : String
  /-- What is answered while the files are as given. -/
  view : FileTree → View

namespace Enumerator

/-- The same enumerator under another name. -/
def withContextId (e : Enumerator) (contextId : String) : Enumerator :=
  { e with contextId }

/-- The same enumerator, except that the given paths cannot be listed. -/
def withFailures (e : Enumerator) (failures : Table String) : Enumerator :=
  { e with
    view := fun tree =>
      { e.view tree with
        find := fun path =>
          match failures[path]? with
          | some cause => .error cause
          | none => (e.view tree).find path } }

/-! ## Tables in memory -/

/-- A resource that a module brings along. -/
structure Embedded where
  /-- The module. -/
  owner : String
  /-- The path within the module. -/
  path : String
  /-- The content. -/
  bytes : ByteArray

/-- The resource as an enumerator answers it. -/
def Embedded.resource (entry : Embedded) : Resource :=
  ⟨⟨s!"embedded:{entry.owner}/{entry.path}"⟩, entry.bytes⟩

/-- The enumerator over a table in memory. -/
def embedded (contextId : String) (entries : List Embedded) : Enumerator where
  contextId := contextId
  view _ :=
    { find := fun path => .ok ((entries.filter (·.path == path)).map Embedded.resource)
      traced := false }

/-! ## Directories -/

/-- The resource at a path within a directory, if there is a file. -/
def inDirectory? (tree : FileTree) (path root : String) : Option Resource :=
  let joined := Path.join root path
  (tree.file? joined).map fun bytes =>
    ⟨⟨joined.map fun c => if c = '\\' then '/' else c⟩, bytes⟩

/-- The context id of a list of directories. -/
def directoryContext (roots : List String) : String :=
  "dir:" ++ ";".intercalate roots

/-- The enumerator over module directories. -/
def directories (roots : List String) : Enumerator where
  contextId := directoryContext roots
  view tree :=
    { find := fun path => .ok (roots.filterMap (inDirectory? tree path))
      traced := true }

/-- The module directories directly below a directory, in ascending order of their names. -/
def discover? (tree : FileTree) (parent : String) : Option (List String) :=
  (tree.subdirectories? parent).map fun names => names.map (Path.join parent)

end Enumerator

end Wiring
