import Wiring.Settings.Quoted
import Wiring.Settings.Toml.Moment
import Wiring.Settings.Toml.Number

/-!
# Settings · TOML · Scalars

Keys, quoted texts and plain values of a TOML file. Every reader takes the characters from a certain
point on and yields what it read with the rest, or nothing if the text is malformed there.
-/

namespace Wiring.Settings.Toml

/-! ## Characters -/

/-- The blanks within a line. -/
def isSpace (c : Char) : Bool :=
  c == ' ' || c == '\t'

/-- Drops leading blanks. -/
def skipSpace (cs : List Char) : List Char :=
  cs.dropWhile isSpace

/-- The characters of a key without quotes. -/
def isKeyChar (c : Char) : Bool :=
  c.isAlphanum || c == '_' || c == '-'

/-- The rest after a line end, if one stands here. -/
def lineEnd? : List Char → Option (List Char)
  | '\n' :: rest => some rest
  | '\r' :: '\n' :: rest => some rest
  | _ => none

/-- The rest after a comment, if one stands here; a comment ends before its line does. -/
def skipComment (cs : List Char) : Option (List Char) :=
  match cs with
  | '#' :: rest =>
    let after := rest.dropWhile isAllowed
    if after.isEmpty || (lineEnd? after).isSome then some after else none
  | _ => some cs

/-! ## Quoted texts -/

/-- Reads a text in double quotes, after the opening one. -/
def readBasic (cs : List Char) : Option (List Char × List Char) :=
  readQuoted cs

/-- Reads a text in single quotes, after the opening one. Nothing is escaped there. -/
def readLiteral (cs : List Char) : Option (List Char × List Char) :=
  match Text.splitOnce '\'' cs with
  | some (text, rest) => if text.all isAllowed then some (text, rest) else none
  | none => none

/-- Whether only blanks stand between here and the end of the line. -/
def endsLine (cs : List Char) : Bool :=
  (lineEnd? (skipSpace cs)).isSome

/-- Drops blanks and line ends. -/
def skipBlankLines : List Char → List Char
  | '\r' :: '\n' :: rest => skipBlankLines rest
  | '\n' :: rest | ' ' :: rest | '\t' :: rest => skipBlankLines rest
  | cs => cs

/-- Reads a text of several lines, after the opening quotes. At most two quotes of its kind stand
before the closing three. -/
def readLong (quote : Char) (escapes : Bool) (fuel : Nat) (cs : List Char) :
    Option (List Char × List Char) :=
  match fuel with
  | 0 => none
  | fuel + 1 =>
    match cs with
    | [] => none
    | c :: rest =>
      let quotes := (cs.takeWhile (· == quote)).length
      if 3 ≤ quotes then
        let kept := min quotes 5 - 3
        some (List.replicate kept quote, cs.drop (kept + 3))
      else if c = '\\' ∧ escapes then
        if endsLine rest then readLong quote escapes fuel (skipBlankLines rest)
        else do
          let (c, rest) ← readEscape rest
          let (text, rest) ← readLong quote escapes fuel rest
          return (c :: text, rest)
      else
        match lineEnd? cs with
        | some rest => do
          let (text, rest) ← readLong quote escapes fuel rest
          return ('\n' :: text, rest)
        | none => do
          if !isAllowed c then none
          let (text, rest) ← readLong quote escapes fuel rest
          return (c :: text, rest)

/-- Reads the inside of a text of several lines, whose first line end does not count. -/
def readLongText (quote : Char) (escapes : Bool) (cs : List Char) :
    Option (List Char × List Char) :=
  let start := (lineEnd? cs).getD cs
  readLong quote escapes (start.length + 1) start

/-- Reads a quoted text of any kind. -/
def readText : List Char → Option (List Char × List Char)
  | '"' :: '"' :: '"' :: rest => readLongText '"' true rest
  | '\'' :: '\'' :: '\'' :: rest => readLongText '\'' false rest
  | '"' :: rest => readBasic rest
  | '\'' :: rest => readLiteral rest
  | _ => none

/-! ## Keys -/

/-- Reads one part of a key. -/
def readKeyPart (cs : List Char) : Option (String × List Char) :=
  match cs with
  | '"' :: rest => (readBasic rest).map fun (text, rest) => (.ofList text, rest)
  | '\'' :: rest => (readLiteral rest).map fun (text, rest) => (.ofList text, rest)
  | _ =>
    let part := cs.takeWhile isKeyChar
    if part.isEmpty then none else some (.ofList part, cs.dropWhile isKeyChar)

/-- Reads at most as many parts between points as the fuel allows, and the blanks around them. -/
def readKeyParts (fuel : Nat) (cs : List Char) : Option (List String × List Char) :=
  match fuel with
  | 0 => none
  | fuel + 1 => do
    let (part, rest) ← readKeyPart (skipSpace cs)
    match skipSpace rest with
    | '.' :: rest =>
      let (parts, rest) ← readKeyParts fuel rest
      return (part :: parts, rest)
    | rest => return ([part], rest)

/-- How deep tables may go: a key has fewer parts than this, and fewer brackets and braces are open
at a time. -/
def depthLimit : Nat := 80

/-- Reads a key of parts between points, and the blanks around it. -/
def readKey (cs : List Char) : Option (List String × List Char) :=
  (readKeyParts (cs.length + 1) cs).filter fun (parts, _) => parts.length < depthLimit

/-! ## Plain values -/

/-- The value of a number, a moment or a truth value. -/
def plainValue? (cs : List Char) : Option Value :=
  match cs with
  | ['t', 'r', 'u', 'e'] => some (.bool true)
  | ['f', 'a', 'l', 's', 'e'] => some (.bool false)
  | '0' :: 'x' :: digits => (integer? 16 Text.hexValue? false digits).map .integer
  | '0' :: 'o' :: digits => (integer? 8 Text.digitValue? false digits).map .integer
  | '0' :: 'b' :: digits => (integer? 2 Text.digitValue? false digits).map .integer
  | _ =>
    let unsigned := Text.dropSign cs
    if (whole? unsigned).isSome then
      (integer? 10 Text.digitValue? (isNegative cs) unsigned).map .integer
    else if isFloat cs then some .float
    else (Moment.ofText? cs).map Moment.value

/-- The characters of numbers, moments and truth values. -/
def isPlainChar (c : Char) : Bool :=
  c.isAlphanum || c == '+' || c == '-' || c == '_' || c == '.' || c == ':'

/-- Whether some characters are a date. -/
def isDate (cs : List Char) : Bool :=
  (readDate cs).any fun (_, rest) => rest.isEmpty

/-- Reads a number, a moment or a truth value. A date may be followed by a blank and a time. -/
def readPlain (cs : List Char) : Option (Value × List Char) :=
  let token := cs.takeWhile isPlainChar
  let rest := cs.dropWhile isPlainChar
  let (token, rest) :=
    match rest with
    | ' ' :: c :: more =>
      if isDate token && c.isDigit then
        (token ++ ' ' :: (c :: more).takeWhile isPlainChar, (c :: more).dropWhile isPlainChar)
      else (token, rest)
    | _ => (token, rest)
  (plainValue? token).map fun value => (value, rest)

end Wiring.Settings.Toml
