import Wiring.Digest.Sha256
import Wiring.Text.Blank

/-!
# Resources

A resource is a location and some bytes. Resources whose locations agree up to the last slash belong
to one group. The fingerprint of a resource is the SHA-256 digest of its bytes in hexadecimal. A
config root is a relative directory in a normal form: it has no slash in front and one at its end.
-/

namespace Wiring

/-! ## Locations -/

/-- Where a resource was found, as it is shown to people. -/
structure Location where
  /-- The shown form. -/
  text : String
deriving DecidableEq, Repr, Inhabited

instance : ToString Location := ⟨Location.text⟩

/-- The characters up to and including the last slash. -/
def uptoLastSlash (cs : List Char) : List Char :=
  (cs.reverse.dropWhile (· != '/')).reverse

/-- What the locations of one group have in common: everything up to the last slash. -/
def Location.groupPrefix (location : Location) : String :=
  .ofList (uptoLastSlash location.text.toList)

/-! ## Resources -/

/-- Bytes and where they were found. -/
structure Resource where
  /-- Where the resource was found. -/
  location : Location
  /-- The content. -/
  bytes : ByteArray

/-- The digest by which an excluded content is named. -/
def fingerprint (bytes : ByteArray) : String :=
  Digest.sha256Hex bytes

/-- The fingerprint of a resource's content. -/
def Resource.fingerprint (resource : Resource) : String :=
  Wiring.fingerprint resource.bytes

/-! ## Config roots -/

/-- The root that a blank text stands for. -/
def defaultRoot : String := "META-INF/spi/"

/-- The root below which a diagnostic sink is looked for. -/
def sinkRoot : String := "META-INF/spi-logger/"

/-- The normal form of a non-blank root: no slash in front, one slash at the end. -/
def closeRoot (cs : List Char) : List Char :=
  if cs.getLast? = some '/' then cs else cs ++ ['/']

/-- The normal form of a config root. Blanks around the text and slashes in front of it do not
count; if nothing else is left, it is the default root. -/
def normalizeRoot (root : String) : String :=
  match (Text.trimChars root.toList).dropWhile (· == '/') with
  | [] => defaultRoot
  | cs => .ofList (closeRoot cs)

end Wiring
