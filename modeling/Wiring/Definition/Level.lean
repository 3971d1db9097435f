import Wiring.Text.Blank

/-!
# Definition · Levels

The rank of a service definition. Where nothing else names the definition to apply, the highest rank
wins.
-/

namespace Wiring

/-- The rank of a service definition, in ascending order. -/
inductive Level
  /-- A built-in fallback. -/
  | default
  /-- An extension library. -/
  | library
  /-- The integrating platform. -/
  | platform
  /-- The final application. -/
  | application
deriving DecidableEq, Repr

namespace Level

/-- The position of a level in the ascending order. -/
def rank : Level → Nat
  | default => 0
  | library => 1
  | platform => 2
  | application => 3

instance : Ord Level := ⟨fun a b => compare a.rank b.rank⟩

/-- The name of a level. -/
def name : Level → String
  | default => "default"
  | library => "library"
  | platform => "platform"
  | application => "application"

instance : ToString Level := ⟨name⟩

/-- The level with a name, in capital or small letters. -/
def ofName? (text : String) : Option Level :=
  [default, library, platform, application].find? fun level => level.name == Text.asciiLower text

/-- The highest level of a list. -/
def highest? (levels : List Level) : Option Level :=
  levels.foldl (fun best level => match best with
    | none => some level
    | some b => some (if b.rank < level.rank then level else b)) none

end Level

end Wiring
