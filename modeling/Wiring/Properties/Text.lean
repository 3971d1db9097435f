import Wiring.Error
import Wiring.Properties.Basic
import Wiring.Properties.Escape
import Wiring.Properties.Line

/-!
# Properties · Text form

Reading a property list from a text or from bytes, and writing it with one entry a line. `parse`
names the resource in its errors and counts lines from one.
-/

namespace Wiring.Properties

/-! ## Reading -/

/-- The key and the value that a logical line holds. -/
def entryOfLine (resource : String) (line : LogicalLine) :
    Except SyntaxError (String × String) :=
  let raw := splitEntry line.text
  let entry : Except (List Char) (String × String) := do
    let key ← unescape raw.1
    let value ← unescape raw.2
    return (.ofList key, .ofList value)
  entry.mapError fun digits => .malformedEscape line.number (.ofList digits) resource

/-- The entries of a text, line by line, keys that come again included. -/
def readEntries (text resource : String) : Except SyntaxError (List (String × String)) :=
  (logicalLines text.toList).mapM (entryOfLine resource)

/-- Reads a property list. -/
def parse (text resource : String) : Except SyntaxError Properties :=
  (readEntries text resource).map ofList

/-- Reads a property list from bytes, which must be UTF-8. -/
def ofBytes (bytes : ByteArray) (resource : String) : Except SyntaxError Properties :=
  match String.fromUTF8? bytes with
  | some text => parse text resource
  | none => .error (.encoding resource)

/-! ## Writing -/

/-- The line of one entry, without its end. -/
def writeEntry (entry : String × String) : List Char :=
  escapeKey entry.1.toList ++ '=' :: escapeValue entry.2.toList

/-- Writes a property list, one line an entry. -/
def toText (p : Properties) : String :=
  .ofList (p.entries.flatMap fun entry => writeEntry entry ++ ['\n'])

end Wiring.Properties
