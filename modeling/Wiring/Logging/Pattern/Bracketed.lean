import Wiring.Logging.Pattern.Nesting
import Wiring.Logging.Pattern.Part

/-!
# Logging · Patterns · Classes

Classes of characters in brackets. A class lists characters, ranges, classes by name and classes in
brackets; two hyphens, ampersands or tildes are operators between what stands on their sides. What a
class comes to is its nesting, since that is what the pattern around it needs to know.
-/

namespace Wiring.Pattern

/-! ## Members -/

/-- Reads a part of a class. -/
def readMember (flags : Flags) (cs : List Char) : Option (Part × List Char) :=
  match cs with
  | [] => none
  | '\\' :: rest => readEscape flags rest
  | c :: rest => some (.literal c false, rest)

/-- Whether a part and another one are the ends of a range. -/
def isRange : Part → Part → Bool
  | .literal low _, .literal high _ => low ≤ high
  | _, _ => false

/-- Reads a member of a class or a range of them. A hyphen makes a range unless it is the last
character of the class or one of two. -/
def readMembers (flags : Flags) (cs : List Char) : Option (List Char) := do
  let (first, rest) ← readMember flags cs
  if !first.isMember flags then none
  match skipFiller flags rest with
  | '-' :: more =>
    if [some ']', some '-'].contains (peek? flags more) then return '-' :: more
    else
      let (last, rest) ← readMember flags (skipFiller flags more)
      if isRange first last && last.isMember flags then return rest else none
  | rest => return rest

/-- The names of classes. -/
def classNames : List String :=
  ["alnum", "alpha", "ascii", "blank", "cntrl", "digit", "graph", "lower", "print", "punct",
    "space", "upper", "word", "xdigit"]

/-- Reads a class by its name between colons, after the opening bracket: whether it is negated, and
the rest. -/
def readNamed (cs : List Char) : Option (Bool × List Char) :=
  match cs with
  | ':' :: rest =>
    let negated := rest.head? == some '^'
    let front := if negated then rest.drop 1 else rest
    let name := front.takeWhile (· != ':')
    match front.dropWhile (· != ':') with
    | ':' :: ']' :: rest =>
      if classNames.contains (.ofList name) then some (negated, rest) else none
    | _ => none
  | _ => none

/-! ## Classes in brackets -/

/-- What has been read of a class. -/
structure Bracket where
  /-- How deep what stands before the last operator is nested, if there is an operator. -/
  left : Option Nat
  /-- How deep each member since then is nested. -/
  members : List Nat
deriving DecidableEq, Repr

namespace Bracket

/-- The class with one more member. -/
def add (bracket : Bracket) (depth : Nat) : Bracket :=
  { bracket with members := depth :: bracket.members }

/-- How deep what stands in the class is nested. -/
def depth (bracket : Bracket) : Nat :=
  match bracket.left with
  | none => nesting bracket.members
  | some left => max left (nesting bracket.members) + 1

/-- The class after an operator. -/
def operate (bracket : Bracket) : Bracket :=
  ⟨some bracket.depth, []⟩

end Bracket

/-- Reads the hyphens at the start of a class: how many there are, and the rest. -/
def readHyphens (fuel : Nat) (flags : Flags) (cs : List Char) : Nat × List Char :=
  match fuel, cs with
  | fuel + 1, '-' :: rest =>
    let (count, rest) := readHyphens fuel flags (skipFiller flags rest)
    (count + 1, rest)
  | _, cs => (0, cs)

/-- Reads the start of a class, after its opening bracket: the sign that negates it, and hyphens or
else a bracket that stand for themselves since they come first. -/
def openClass (flags : Flags) (cs : List Char) : Option (Bracket × List Char) := do
  let start := skipFiller flags cs
  let negated := start.head? == some '^'
  if negated && !flags.wide then none
  let members := if negated then skipFiller flags (start.drop 1) else start
  let (count, rest) :=
    match members with
    | ']' :: rest => (1, skipFiller flags rest)
    | _ => readHyphens members.length flags members
  if 0 < count && !(Part.literal '-' false).isMember flags then none
  return (⟨none, List.replicate count 0⟩, rest)

/-- Reads a class up to its closing bracket: how deep it is nested, and the rest. What has been read
of it is given, and of the classes around it, the innermost first. -/
def readClass (fuel : Nat) (flags : Flags) (bracket : Bracket) (outer : List Bracket)
    (cs : List Char) : Option (Nat × List Char) :=
  match fuel with
  | 0 => none
  | fuel + 1 =>
    match skipFiller flags cs with
    | [] => none
    | ']' :: rest =>
      let depth := bracket.depth + 1
      match outer with
      | [] => some (depth, rest)
      | around :: outer => readClass fuel flags (around.add depth) outer rest
    | '[' :: rest =>
      match readNamed rest with
      | some (negated, rest) =>
        if (flags.wide && flags.ignoreCase) || (!flags.wide && negated) then none
        else readClass fuel flags (bracket.add 0) outer rest
      | none =>
        (openClass flags rest).bind fun (inner, rest) =>
          readClass fuel flags inner (bracket :: outer) rest
    | '&' :: '&' :: rest | '-' :: '-' :: rest | '~' :: '~' :: rest =>
      readClass fuel flags bracket.operate outer rest
    | cs => (readMembers flags cs).bind fun rest => readClass fuel flags (bracket.add 0) outer rest

end Wiring.Pattern
