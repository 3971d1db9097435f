import Wiring.Text.Split

/-!
# Paths

Paths as texts: how they are joined, which paths lie around one, and what the name and the
extension of one are. A path is the names between its slashes, from the root if it starts with a
slash. A piece that is empty or `.` leads nowhere further, so such pieces at the end of a path do
not count when the name of its file or the path around it is asked for; `..` leads somewhere, but is
no name.
-/

namespace Wiring.Path

/-- The path `path` seen from the directory `base`; an absolute path stands for itself. -/
def join (base path : String) : String :=
  if base.isEmpty || path.startsWith "/" then path
  else if base.endsWith "/" then base ++ path
  else s!"{base}/{path}"

/-- The pieces between the slashes. -/
def pieces (path : String) : List String :=
  Text.split (· == '/') path

/-! ## Limits -/

/-- The size in bytes of the longest path that leads anywhere. -/
def longest : Nat := 4095

/-- The size in bytes of the longest name of a file or directory. -/
def longestName : Nat := 255

/-- Whether a text can be a path at all: it is not too long and holds no NUL character. -/
def isUsable (path : String) : Bool :=
  path.utf8ByteSize ≤ longest && path.toList.all (· != '\x00')

/-! ## Ends of paths -/

/-- Whether a piece leads from a directory to itself. -/
def isIdle (piece : String) : Bool :=
  piece == "" || piece == "."

/-- From the pieces of a path, the last one first, those of the path and of the ones around it that
end in a piece which leads somewhere, the longest first. -/
def around : List String → List (List String)
  | [] => []
  | piece :: outer => if isIdle piece then around outer else (piece :: outer) :: around outer

/-- The path and those around it, the longest first, as far as they end in a piece which leads
somewhere. -/
def ancestors (path : String) : List String :=
  (around (pieces path).reverse).map fun reversed => "/".intercalate reversed.reverse

/-- The path around a path: the root or the empty one at last. -/
def parent? (path : String) : Option String :=
  match ancestors path with
  | [] => none
  | [_] => some (if path.startsWith "/" then "/" else "")
  | _ :: parent :: _ => some parent

/-- The name at the end of a path, unless it goes up there. -/
def fileName? (path : String) : Option String :=
  ((pieces path).reverse.find? fun piece => !isIdle piece).filter (· != "..")

/-- What follows the last dot of the file name, unless the name has no other dot than one at its
start. -/
def extension? (path : String) : Option String := do
  let name ← fileName? path
  match Text.split (· == '.') name with
  | [] => none
  | [_] => none
  | ["", _] => none
  | _ :: pieces => pieces.getLast?

end Wiring.Path
