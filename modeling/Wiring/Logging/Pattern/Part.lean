import Wiring.Text.Blank
import Wiring.Text.Integer

/-!
# Logging · Patterns · Parts

The single parts that a pattern is made of, and the flags that say which of them may stand where.
While blanks and comments may stand between parts, they may also stand between the digits of a code.
-/

namespace Wiring.Pattern

/-! ## Flags -/

/-- The flags that bear on whether a pattern is well formed. -/
structure Flags where
  /-- Whether capital and small letters are alike. -/
  ignoreCase : Bool
  /-- Whether characters beyond ASCII are characters of their own rather than bytes. -/
  wide : Bool
  /-- Whether blanks and comments may stand between the parts of a pattern. -/
  verbose : Bool
deriving DecidableEq, Repr

namespace Flags

/-- The flags at the start of a pattern. -/
def start : Flags := ⟨false, true, false⟩

/-- The letters of all flags. -/
def letters : List Char := ['i', 'm', 's', 'U', 'u', 'R', 'x']

/-- The flags with the one of a letter turned on or off. -/
def set (flags : Flags) (letter : Char) (on : Bool) : Flags :=
  match letter with
  | 'i' => { flags with ignoreCase := on }
  | 'u' => { flags with wide := on }
  | 'x' => { flags with verbose := on }
  | _ => flags

/-- Reads flags up to the colon or bracket that ends them. No letter stands twice, and behind the
minus sign, which turns flags off, at least one does. -/
def read (flags : Flags) (seen : List Char) : List Char → Option (Flags × List Char × List Char)
  | [] => none
  | c :: rest =>
    if c = ':' ∨ c = ')' then
      if seen.head? = some '-' then none else some (flags, seen, c :: rest)
    else if seen.contains c then none
    else if c = '-' then flags.read (c :: seen) rest
    else if letters.contains c then (flags.set c !(seen.contains '-')).read (c :: seen) rest
    else none

end Flags

/-- Drops a comment, after its mark, with the line end behind it. -/
def dropComment (cs : List Char) : List Char :=
  (cs.dropWhile (· != '\n')).drop 1

/-- Drops blanks and comments, as many as the fuel allows. -/
def dropFillers (fuel : Nat) (cs : List Char) : List Char :=
  match fuel, Text.trimStart cs with
  | fuel + 1, '#' :: rest => dropFillers fuel (dropComment rest)
  | _, cs => cs

/-- Drops blanks and comments where they may stand. -/
def skipFiller (flags : Flags) (cs : List Char) : List Char :=
  if flags.verbose then dropFillers cs.length cs else cs

/-- The next character that is neither a blank nor the mark of a comment. What a comment says
counts, so this is not always the character that is read next. -/
def peek? (flags : Flags) (cs : List Char) : Option Char :=
  if flags.verbose then
    match Text.trimStart cs with
    | '#' :: rest => (Text.trimStart rest).head?
    | rest => rest.head?
  else cs.head?

/-! ## Single parts -/

/-- A single part of a pattern. -/
inductive Part
  /-- A character that stands for itself. It may be given by its code of two digits. -/
  | literal (c : Char) (isByte : Bool)
  /-- A class of characters by its letter: digits, blanks or characters of words. -/
  | shorthand (negated : Bool)
  /-- The start or the end of a text. -/
  | anchor
  /-- The border of a word. -/
  | border
deriving DecidableEq, Repr

/-- Reads as many hexadecimal digits. -/
def readDigits (flags : Flags) : Nat → List Char → Option (List Char × List Char)
  | 0, cs => some ([], cs)
  | count + 1, cs =>
    match skipFiller flags cs with
    | [] => none
    | c :: rest =>
      if (Text.hexValue? c).isSome then
        (readDigits flags count rest).map fun read => (c :: read.1, read.2)
      else none

/-- Reads a character by as many hexadecimal digits of its code point. -/
def readCode (flags : Flags) (count : Nat) (cs : List Char) : Option (Part × List Char) := do
  let (digits, rest) ← readDigits flags count cs
  let c ← (Text.digitsValue? 16 Text.hexValue? 0 digits).bind Text.scalar?
  return (.literal c (count == 2), rest)

/-- Reads what follows a backslash. Marks stand for themselves, as letters only known ones do. -/
def readEscape (flags : Flags) : List Char → Option (Part × List Char)
  | [] => none
  | c :: rest =>
    if c = 'x' then readCode flags 2 rest
    else if c = 'u' then readCode flags 4 rest
    else if c = 'U' then readCode flags 8 rest
    else if ['d', 's', 'w'].contains c then some (.shorthand false, rest)
    else if ['D', 'S', 'W'].contains c then some (.shorthand true, rest)
    else if ['A', 'z'].contains c then some (.anchor, rest)
    else if ['b', 'B', '<', '>'].contains c then some (.border, rest)
    else if ['a', 'f', 't', 'n', 'r', 'v'].contains c then some (.literal c false, rest)
    else if c.toNat < 0x80 ∧ !c.isAlphanum then some (.literal c false, rest)
    else none

/-- Whether a part may stand outside of a class. -/
def Part.isAllowed (flags : Flags) : Part → Bool
  | literal c isByte =>
    if flags.wide then !flags.ignoreCase else !(isByte && 0x80 ≤ c.toNat)
  | shorthand negated => !flags.wide && !negated
  | anchor => true
  | border => !flags.wide

/-- Whether a part may stand in a class. -/
def Part.isMember (flags : Flags) : Part → Bool
  | literal c _ => if flags.wide then !flags.ignoreCase else c.toNat < 0x80
  | shorthand negated => !flags.wide && !negated
  | anchor | border => false

end Wiring.Pattern
