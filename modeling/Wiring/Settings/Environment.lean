import Wiring.Settings.Quoted
import Wiring.Settings.Value
import Wiring.Text.Blank
import Wiring.Text.Numeral

/-!
# Settings · Environment variables

How environment variables become a settings tree. The name of a variable gives the path, the text
its value: truth values, integers, floats, lists in brackets, tables in braces, quoted texts and
characters are recognised, and any other text stands for itself. A text that is not read to its end
stands for itself as a whole.
-/

namespace Wiring.Settings.Environment

/-! ## Texts of values -/

/-- The blanks that may stand around a value. -/
def isSpace (c : Char) : Bool :=
  c == ' ' || c == '\t' || c == '\n' || c == '\r' || c == '\x0c'

/-- The characters that end a value without quotes. -/
def isDelimiter (c : Char) : Bool :=
  c == ',' || c == '\x7b' || c == '\x7d' || c == '[' || c == ']'

/-- The characters of a key without quotes. -/
def isKeyChar (c : Char) : Bool :=
  c.isAlphanum || c == '_' || c == '-'

/-- Drops leading blanks. -/
def skipSpace (cs : List Char) : List Char :=
  cs.dropWhile isSpace

/-- Whether some characters are a float with a point. -/
def isFloat (cs : List Char) : Bool :=
  cs.contains '.' && Text.isFloat cs

/-- The greatest unsigned integer of 64 bits. -/
def maxUnsigned : Nat := 18446744073709551615

/-- The least and the greatest signed integer of 64 bits. -/
def signedRange : Int × Int := (-9223372036854775808, 9223372036854775807)

/-- The value of a text without quotes. -/
def plainValue (cs : List Char) : Value :=
  if isFloat cs then .float
  else
    match Text.readNat? maxUnsigned cs with
    | some n => .integer n
    | none =>
      match Text.readInt? signedRange.1 signedRange.2 cs with
      | some n => .integer n
      | none => .text (.ofList cs)

/-- Reads a quoted text whose opening quote has been read. -/
def readText (cs : List Char) : Option (String × List Char) :=
  (readQuoted cs).map fun (text, rest) => (.ofList text, rest)

/-- Reads the key of a table entry. -/
def readKey (cs : List Char) : Option (String × List Char) :=
  match cs with
  | '"' :: rest => readText rest
  | _ =>
    let key := cs.takeWhile isKeyChar
    if key.isEmpty then none else some (.ofList key, cs.dropWhile isKeyChar)

mutual

/-- Reads a value and the blanks around it. -/
def readValue (fuel : Nat) (cs : List Char) : Option (Value × List Char) :=
  match fuel with
  | 0 => none
  | fuel + 1 => do
    let (value, rest) ← match skipSpace cs with
      | 't' :: 'r' :: 'u' :: 'e' :: rest => some (.bool true, rest)
      | 'f' :: 'a' :: 'l' :: 's' :: 'e' :: rest => some (.bool false, rest)
      | '\x7b' :: rest => (readFields fuel rest).map fun (fields, rest) => (.table fields, rest)
      | '[' :: rest => (readItems fuel rest).map fun (items, rest) => (.list items, rest)
      | '"' :: rest => (readText rest).map fun (text, rest) => (.text text, rest)
      | '\'' :: c :: '\'' :: rest => some (.char c, rest)
      | '\'' :: _ => none
      | cs =>
        let plain := cs.takeWhile (!isDelimiter ·)
        some (plainValue (Text.trimChars plain), cs.dropWhile (!isDelimiter ·))
    return (value, skipSpace rest)

/-- Reads the items of a list whose opening bracket has been read. -/
def readItems (fuel : Nat) (cs : List Char) : Option (List Value × List Char) :=
  match fuel, cs with
  | 0, _ => none
  | _, ']' :: rest => some ([], rest)
  | fuel + 1, cs => do
    let (value, rest) ← readValue fuel cs
    match rest with
    | ',' :: rest =>
      let (values, rest) ← readItems fuel rest
      return (value :: values, rest)
    | ']' :: rest => return ([value], rest)
    | _ => none

/-- Reads the entries of a table whose opening brace has been read. Of two entries with one key the
later counts. -/
def readFields (fuel : Nat) (cs : List Char) : Option (List (String × Value) × List Char) :=
  match fuel, cs with
  | 0, _ => none
  | _, '\x7d' :: rest => some ([], rest)
  | fuel + 1, cs => do
    let (key, rest) ← readKey (skipSpace cs)
    match skipSpace rest with
    | '=' :: rest =>
      let (value, rest) ← readValue fuel rest
      match rest with
      | ',' :: rest =>
        let (fields, rest) ← readFields fuel rest
        return (if (fields.lookup key).isSome then fields else (key, value) :: fields, rest)
      | '\x7d' :: rest => return ([(key, value)], rest)
      | _ => none
    | _ => none

end

/-- The value that the text of a variable stands for. -/
def valueOfText (text : String) : Value :=
  let cs := text.toList
  match readValue (2 * cs.length + 2) cs with
  | some (value, []) => value
  | _ => .text text

/-! ## Names of variables -/

/-- The characters with a point for every two underscores. -/
def pointUnderscores : List Char → List Char
  | '_' :: '_' :: cs => '.' :: pointUnderscores cs
  | c :: cs => c :: pointUnderscores cs
  | [] => []

/-- The path that a variable with a prefix is about: what follows the prefix, in small letters and
split at its points. A path with an empty key is none. -/
def path? (keyPrefix name : String) : Option (List String) :=
  let name := (Text.trim name).toList
  let front := keyPrefix.toList
  if front.map Char.toLower = (name.take front.length).map Char.toLower then
    let rest := Text.trim (.ofList (pointUnderscores (name.drop front.length)))
    let keys := Text.split (· == '.') (Text.asciiLower rest)
    if keys.contains "" then none else some keys
  else none

/-- The tree of one variable, if it has the prefix. -/
def settingOf? (keyPrefix : String) (entry : String × String) : Option Value :=
  (path? keyPrefix entry.1).map fun keys => Value.nest keys (valueOfText entry.2)

/-- The tree of all variables with a prefix, later ones on top. -/
def tree (keyPrefix : String) (entries : List (String × String)) : Value :=
  (entries.filterMap (settingOf? keyPrefix)).foldl Value.merge (.table [])

end Wiring.Settings.Environment
