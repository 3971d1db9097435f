/-!
# Text · Slices by bytes

Parts of a text between two positions that count the bytes of the characters in UTF-8. A position
inside a character has no slice.
-/

namespace Wiring.Text

/-- How many bytes some characters take. -/
def byteSize (cs : List Char) : Nat :=
  cs.foldr (fun c size => c.utf8Size + size) 0

/-- The characters behind as many bytes. -/
def dropBytes? (n : Nat) (cs : List Char) : Option (List Char) :=
  if n = 0 then some cs
  else
    match cs with
    | [] => none
    | c :: rest => if c.utf8Size ≤ n then dropBytes? (n - c.utf8Size) rest else none

/-- The first characters that take as many bytes. -/
def takeBytes? (n : Nat) (cs : List Char) : Option (List Char) :=
  if n = 0 then some []
  else
    match cs with
    | [] => none
    | c :: rest =>
      if c.utf8Size ≤ n then (takeBytes? (n - c.utf8Size) rest).map (c :: ·) else none

/-- The characters between two byte positions. -/
def slice? (cs : List Char) (start stop : Nat) : Option (List Char) :=
  (dropBytes? start cs).bind (takeBytes? (stop - start))

end Wiring.Text
