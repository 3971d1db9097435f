import Wiring.Logging.Subscriber

/-!
# Logging · Effective levels

From which level on the entries of a target are logged, as a subscriber selects them. The base level
is a directive about every entry. Of the directives that cover an entry the most specific one
decides: the one with the longest target, and then the one that asks for the most fields. Of two
that are equally specific the later one decides.

Directives that name a span, or a value that a field of a span must have, only add to what is logged
within such spans. They have no part in what is said here, which is about entries outside of them.
-/

namespace Wiring

namespace Directive

/-- The directive about every entry. -/
def base (level : LogLevel) : Directive := ⟨none, none, [], .upTo level⟩

/-- The fields that a directive asks for. -/
def fields (d : Directive) : List String := d.conditions.map (·.field)

/-- Whether a directive is about entries wherever they are logged, rather than within spans. -/
def isStatic (d : Directive) : Bool :=
  d.span.isNone && d.conditions.all (·.value.isNone)

/-- Whether a directive is about the entries of a target that have some fields: the target begins
with that of the directive, and no field that the directive asks for is missing. -/
def covers (d : Directive) (target : String) (fields : List String) : Bool :=
  d.isStatic && d.target.all (fun front => front.toList.isPrefixOf target.toList) &&
    d.fields.all fields.contains

/-- Compares how specific directives are: by the length of their targets, no target being shorter
than any other, then by the number of fields, and at last by the names of the fields. -/
def compareSpecific : Directive → Directive → Ordering :=
  compareLex (compareOn fun d => d.target.map String.length)
    (compareLex (compareOn fun d => d.fields.length) (compareOn fields))

/-- The one of two directives that decides: the later one, unless it is less specific. -/
def prevailing (earlier later : Directive) : Directive :=
  if later.compareSpecific earlier = .lt then earlier else later

end Directive

namespace Subscriber

/-- The directives of a subscriber that can be read. -/
def rules (s : Subscriber) : List Directive :=
  s.directives.filterMap Directive.parse?

/-- The directive that decides about the entries of a target that have some fields. -/
def deciding (s : Subscriber) (target : String) (fields : List String) : Directive :=
  (s.rules.filter (·.covers target fields)).foldl Directive.prevailing (.base s.config.level)

/-- From which level on the entries of a target that have some fields are logged. -/
def levelFor (s : Subscriber) (target : String) (fields : List String) : LevelFilter :=
  (s.deciding target fields).level

end Subscriber

end Wiring
