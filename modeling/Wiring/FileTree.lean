import Wiring.Path
import Wiring.Table

/-!
# File trees

The files and directories below one root, and the meaning of paths in them. A path that does not
start at the root starts at the working directory. It is walked piece by piece: an empty piece and
`.` stay, `..` goes up, any other piece must name an entry of the directory reached so far. So a
path can lead nowhere although the same path without its detours leads somewhere.

A file or directory is made at a path only where the pieces before the last one lead to a directory
and the last one is a name. `makeDirectories` makes as many of the directories on the way as it can,
and keeps them even where a later one cannot be made.
-/

namespace Wiring

/-- Files and directories; each is listed under its path from the root, which is written without
`.`, `..` and superfluous slashes. -/
structure FileTree where
  /-- The names on the way from the root to the working directory. -/
  working : List String
  /-- The contents of the files. -/
  files : Table ByteArray
  /-- The directories other than the root. -/
  directories : NameSet

namespace FileTree

/-- The key under which an entry is listed. -/
def key (names : List String) : String :=
  "/".intercalate names

/-- What a path leads to. -/
inductive Entry
  /-- A file with its content. -/
  | file (bytes : ByteArray)
  /-- The directory with the given names on the way to it. -/
  | directory (names : List String)

/-- Why a path leads nowhere. -/
inductive Obstacle
  /-- A directory has no entry of a name on the way. -/
  | missing
  /-- The path is no path or has too long a name, or there is already something on the way that
  makes it impossible. -/
  | barred
deriving DecidableEq, Repr

/-! ## Walking -/

/-- The entry of a name in a directory. -/
def child? (tree : FileTree) (names : List String) (name : String) : Option Entry :=
  let names := names ++ [name]
  match tree.files[key names]? with
  | some bytes => some (.file bytes)
  | none => if key names ∈ tree.directories then some (.directory names) else none

/-- The entry that is reached from another one by a single piece of a path. -/
def step (tree : FileTree) (entry : Entry) (piece : String) : Except Obstacle Entry :=
  match entry with
  | .file _ => .error .barred
  | .directory names =>
    if Path.isIdle piece then .ok (.directory names)
    else if piece = ".." then .ok (.directory names.dropLast)
    else if Path.longestName < piece.utf8ByteSize then .error .barred
    else
      match tree.child? names piece with
      | some entry => .ok entry
      | none => .error .missing

/-- The names on the way to the directory where a path starts. -/
def start (tree : FileTree) (path : String) : List String :=
  if path.startsWith "/" then [] else tree.working

/-- The entry that the pieces of a path lead to. -/
def walk (tree : FileTree) (path : String) (pieces : List String) : Except Obstacle Entry :=
  if path.isEmpty then .error .missing
  else if Path.isUsable path then pieces.foldlM tree.step (.directory (tree.start path))
  else .error .barred

/-- The entry at a path. -/
def entry (tree : FileTree) (path : String) : Except Obstacle Entry :=
  tree.walk path (Path.pieces path)

/-- The content of the file at a path. -/
def file? (tree : FileTree) (path : String) : Option ByteArray :=
  match tree.entry path with
  | .ok (.file bytes) => some bytes
  | _ => none

/-- The content of the file at a path from the working directory or else from the nearest directory
above it that has one there. -/
def fileUpwards? (tree : FileTree) (path : String) : Option ByteArray :=
  (List.range (tree.working.length + 1)).reverse.findSome? fun depth =>
    tree.file? (Path.join ("/" ++ key (tree.working.take depth)) path)

/-- Whether there is anything at a path. -/
def contains (tree : FileTree) (path : String) : Bool :=
  (tree.entry path).isOk

/-- The names of the directories directly below the directory at a path, in ascending order. -/
def subdirectories? (tree : FileTree) (path : String) : Option (List String) :=
  match tree.entry path with
  | .ok (.directory names) =>
    some (tree.directories.toList.filterMap fun directory =>
      let pieces := Path.pieces directory
      if pieces.dropLast = names then pieces.getLast? else none)
  | _ => none

/-- The paths from the working directory of the files below it, in ascending order. -/
def workingFiles (tree : FileTree) : List String :=
  tree.files.keys.filterMap fun path =>
    let pieces := Path.pieces path
    if tree.working.isPrefixOf pieces then some (key (pieces.drop tree.working.length)) else none

/-! ## Changes -/

/-- The directory in which the last piece of a path names an entry, and that name; the pieces are
given. -/
def place (tree : FileTree) (path : String) (pieces : List String) :
    Except Obstacle (List String × String) := do
  let name := pieces.getLast?.getD ""
  match ← tree.walk path pieces.dropLast with
  | .file _ => throw .barred
  | .directory names =>
    if Path.isIdle name || name == ".." || Path.longestName < name.utf8ByteSize then throw .barred
    return (names, name)

/-- The tree with the directory at a path, which must not exist. Slashes at the end do not count. -/
def makeDirectory (tree : FileTree) (path : String) : Except Obstacle FileTree := do
  let pieces := ((Path.pieces path).reverse.dropWhile String.isEmpty).reverse
  let (names, name) ← tree.place path pieces
  match tree.child? names name with
  | some _ => throw .barred
  | none => return { tree with directories := tree.directories.insert (key (names ++ [name])) }

/-- The tree with the directory at the first path, if it can be made after those at the other paths,
which lie around it. -/
def makeWithin (tree : FileTree) : List String → FileTree
  | [] => tree
  | path :: outer =>
    match tree.makeDirectory path with
    | .ok tree => tree
    | .error .barred => tree
    | .error .missing =>
      let tree := tree.makeWithin outer
      (tree.makeDirectory path).toOption.getD tree

/-- The tree with the directory at a path and those on the way to it, as far as they can be made. -/
def makeDirectories (tree : FileTree) (path : String) : FileTree :=
  tree.makeWithin (path :: (Path.ancestors path).drop 1)

/-- The tree with a file at a path, unless it cannot be there. -/
def put (tree : FileTree) (path : String) (bytes : ByteArray) : FileTree :=
  match tree.place path (Path.pieces path) with
  | .error _ => tree
  | .ok (names, name) =>
    match tree.child? names name with
    | some (.directory _) => tree
    | _ => { tree with files := tree.files.insert (key (names ++ [name])) bytes }

/-- The tree with a file at a path and the directories on the way to it, as far as they can be
made. -/
def write (tree : FileTree) (path : String) (bytes : ByteArray) : FileTree :=
  (tree.makeWithin ((Path.ancestors path).drop 1)).put path bytes

/-- The tree without the file at a path, if there is one. -/
def remove (tree : FileTree) (path : String) : FileTree :=
  match tree.place path (Path.pieces path) with
  | .error _ => tree
  | .ok (names, name) => { tree with files := tree.files.erase (key (names ++ [name])) }

/-- The tree without a file, and no directory but those on the way to the working directory. -/
def empty (working : List String) : FileTree :=
  (FileTree.mk working ∅ ∅).makeDirectories ("/" ++ key working)

end FileTree

end Wiring
