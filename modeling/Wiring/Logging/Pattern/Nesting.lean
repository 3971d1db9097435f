/-!
# Logging · Patterns · Nesting

How deep a pattern is nested. A group, a repetition and a class are one level deeper than what is
in them, and so are several parts side by side, several alternatives, several members of a class and
the two sides of an operator between classes. A pattern that is nested too deep is refused.
-/

namespace Wiring.Pattern

/-- The deepest nesting that a pattern may have. -/
def nestingLimit : Nat := 250

/-- How deep things side by side are nested, given how deep each is: one alone is as deep as it
is. -/
def nesting : List Nat → Nat
  | [] => 0
  | [depth] => depth
  | depths => depths.max?.getD 0 + 1

end Wiring.Pattern
