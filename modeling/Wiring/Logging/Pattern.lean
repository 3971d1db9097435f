import Wiring.Logging.Pattern.Bracketed
import Wiring.Text.Letters

/-!
# Logging · Patterns

Which texts are patterns that the values of span fields can be matched with. A pattern is a regular
expression with alternatives, groups, repetitions and classes of characters. `isPattern` says
whether one is well formed; what it matches does not matter here.

While characters beyond ASCII count as characters, three things are refused, since nothing is known
about such characters: classes by a letter, borders of words, and capitals that are like small
letters. A flag turns that off. The three then have their ASCII forms, and what could match a part
of a character beyond ASCII is refused instead. A count in braces cannot be closed, since a
condition ends at its first closing brace. What is read keeps track of how deep the pattern is
nested, since one that is nested too deep is refused as well.
-/

namespace Wiring.Pattern

/-! ## Scopes -/

/-- What has been read of a group, or of the pattern outside of all groups. -/
structure Scope where
  /-- The flags in force. -/
  flags : Flags
  /-- How deep each alternative before the last one is nested. -/
  alternatives : List Nat
  /-- How deep each part of the last alternative is nested, the last part first. -/
  parts : List Nat
  /-- Whether there is something that a repetition can be about. -/
  repeatable : Bool
deriving DecidableEq, Repr

namespace Scope

/-- The scope of which nothing has been read. -/
def start (flags : Flags) : Scope := ⟨flags, [], [], false⟩

/-- The scope with one more part. -/
def add (scope : Scope) (depth : Nat) : Scope :=
  { scope with parts := depth :: scope.parts, repeatable := true }

/-- The scope with its last part repeated, if there is one that can be. -/
def repeated? (scope : Scope) : Option Scope :=
  match scope.repeatable, scope.parts with
  | true, depth :: parts => some { scope with parts := (depth + 1) :: parts }
  | _, _ => none

/-- The scope with other flags from here on. -/
def withFlags (scope : Scope) (flags : Flags) : Scope :=
  { scope with flags, parts := 0 :: scope.parts, repeatable := false }

/-- The scope at the start of another alternative. -/
def branch (scope : Scope) : Scope :=
  { scope with
    alternatives := nesting scope.parts :: scope.alternatives, parts := [], repeatable := false }

/-- How deep what stands in the scope is nested. -/
def depth (scope : Scope) : Nat :=
  nesting (nesting scope.parts :: scope.alternatives)

end Scope

/-! ## Groups -/

/-- How far a pattern has been read. -/
structure State where
  /-- The innermost open group. -/
  scope : Scope
  /-- What is around it, the innermost first. -/
  outer : List Scope
  /-- The names of groups. -/
  names : List (List Char)
deriving DecidableEq, Repr

namespace State

/-- The state at the start of a pattern. -/
def start : State := ⟨.start .start, [], []⟩

/-- The state with one more part. -/
def add (state : State) (depth : Nat) : State :=
  { state with scope := state.scope.add depth }

/-- The state within a group that opens here. -/
def enter (state : State) (flags : Flags) : State :=
  { state with scope := .start flags, outer := state.scope :: state.outer }

/-- The state behind the group that closes here, if one is open. -/
def leave? (state : State) : Option State :=
  match state.outer with
  | [] => none
  | scope :: outer => some { state with scope := scope.add (state.scope.depth + 1), outer }

/-- Whether the pattern may end here. -/
def isFinal (state : State) : Bool :=
  state.outer.isEmpty && state.scope.depth ≤ nestingLimit

end State

/-- Whether some characters are a name of a group. -/
def isGroupName (cs : List Char) : Bool :=
  match cs with
  | [] => false
  | c :: rest =>
    (c == '_' || Text.isLetter c) &&
      rest.all fun c => ['_', '.', '[', ']'].contains c || Text.isLetterOrNumber c

/-- Reads the name of a group up to its end, and enters the group. Each name stands once. -/
def State.enterNamed (state : State) (cs : List Char) : Option (State × List Char) :=
  let name := cs.takeWhile (· != '>')
  match cs.dropWhile (· != '>') with
  | '>' :: rest =>
    if isGroupName name && !state.names.contains name then
      some ({ state.enter state.scope.flags with names := name :: state.names }, rest)
    else none
  | _ => none

/-- Reads flags, which hold from here on or in a group that opens here. -/
def State.readFlags (state : State) (cs : List Char) : Option (State × List Char) := do
  match ← state.scope.flags.read [] cs with
  | (flags, _, ':' :: rest) => return (state.enter flags, rest)
  | (flags, seen, ')' :: rest) =>
    if seen.isEmpty then none
    else return ({ state with scope := state.scope.withFlags flags }, rest)
  | _ => none

/-- Reads what follows an opening bracket. -/
def State.openGroup (state : State) (cs : List Char) : Option (State × List Char) :=
  match skipFiller state.scope.flags cs with
  | '?' :: 'P' :: '<' :: rest | '?' :: '<' :: rest => state.enterNamed rest
  | '?' :: rest => state.readFlags rest
  | rest => some (state.enter state.scope.flags, rest)

/-! ## Patterns -/

/-- Drops the mark behind a repetition that asks for few of it. -/
def dropLazy : List Char → List Char
  | '?' :: rest => rest
  | cs => cs

/-- Whether a pattern is well formed from here on. -/
def isRest (fuel : Nat) (state : State) (cs : List Char) : Bool :=
  match fuel with
  | 0 => false
  | fuel + 1 =>
    let flags := state.scope.flags
    let single (part : Part) (rest : List Char) : Bool :=
      part.isAllowed flags && isRest fuel (state.add 0) rest
    match skipFiller flags cs with
    | [] => state.isFinal
    | '(' :: rest => (state.openGroup rest).any fun (state, rest) => isRest fuel state rest
    | ')' :: rest => state.leave?.any fun state => isRest fuel state rest
    | '|' :: rest => isRest fuel { state with scope := state.scope.branch } rest
    | '[' :: rest =>
      ((openClass flags rest).bind fun (bracket, members) =>
        readClass rest.length flags bracket [] members).any fun (depth, rest) =>
          isRest fuel (state.add depth) rest
    | '*' :: rest | '+' :: rest | '?' :: rest =>
      state.scope.repeated?.any fun scope => isRest fuel { state with scope } (dropLazy rest)
    | '\x7b' :: _ => false
    | '^' :: rest | '$' :: rest => single .anchor rest
    | '.' :: rest => flags.wide && isRest fuel (state.add 0) rest
    | '\\' :: rest => (readEscape flags rest).any fun (part, rest) => single part rest
    | c :: rest => single (.literal c false) rest

/-- Whether some characters are a pattern. -/
def isPattern (cs : List Char) : Bool :=
  isRest (cs.length + 1) .start cs

end Wiring.Pattern
