import Wiring.Instantiation.Constructor

/-!
# Catalogue

The implementations that come with the program: greeters, filters and diagnostic sinks, with
constructors of every shape, some of which fail. One name stands for two constructors and can
therefore never be built.
-/

namespace Wiring

/-! ## Contracts -/

/-- The contract of objects that greet. -/
def greeterContract : String := "demo.Greeter"

/-- The contract of objects that filter. -/
def filterContract : String := "demo.Filter"

/-- A contract that nothing serves. -/
def unboundContract : String := "demo.Unbound"

/-- The contract of objects that receive what loaders say. -/
def sinkContract : String := "spi.DiagnosticSink"

namespace Catalogue

/-! ## Descriptions -/

/-- A text in square brackets behind a tag. -/
def tagged (tag text : String) : String := s!"{tag}:[{text}]"

/-- The number of parameters, the parameters by key, and where they were read. -/
def showParameters (p : Parameters) : String :=
  let pairs := ";".intercalate (p.values.toList.map fun pair => s!"{pair.1}={pair.2}")
  let place := match p.location with
    | some location => location.text
    | none => "none"
  s!"{p.size}\x7b{pairs}\x7d@{place}"

/-- What an object says of itself; a sink says only that it is one. -/
def describe (object : Instance) : String :=
  if object.contract = sinkContract then "sink" else object.label

/-! ## Constructors -/

/-- A greeter. -/
def greeter (label : String) : Except String Instance := .ok ⟨greeterContract, label⟩

/-- A filter. -/
def filter (label : String) : Except String Instance := .ok ⟨filterContract, label⟩

/-- A sink. -/
def sink (label : String) : Except String Instance := .ok ⟨sinkContract, label⟩

/-- The label of an object that takes a text, and says so when it gets none. -/
def optionalLabel (tag : String) : Option String → String
  | some text => tagged tag text
  | none => s!"{tag}:none"

/-- A greeter that cannot do without a text. -/
def fallible : Option String → Except String Instance
  | some text => greeter (tagged "fallible" text)
  | none => .error "a salutation is required"

/-- A greeter that cannot do with an empty text. -/
def fallibleBoxed (text : Option String) : Except String Instance :=
  match text.getD "" with
  | "" => .error "empty text"
  | text => greeter (tagged "fallible-boxed" text)

/-- A greeter that fails when its parameters tell it to. -/
def configuredFallible (p : Parameters) : Except String Instance :=
  match p.get? "fail" with
  | some reason => .error reason
  | none => greeter ("ok:" ++ p.getD "salutation" "?")

/-! ## Registrations -/

/-- All registrations of the program. -/
def registrations : List Registration :=
  [⟨"demo.Plain", greeterContract, .empty (greeter "plain")⟩,
    ⟨"demo.Borrowed", greeterContract, .text fun t => greeter (tagged "borrowed" (t.getD ""))⟩,
    ⟨"demo.Optional", greeterContract, .text fun t => greeter (optionalLabel "optional" t)⟩,
    ⟨"demo.Owned", greeterContract, .text fun t => greeter (tagged "owned" (t.getD ""))⟩,
    ⟨"demo.OptionalOwned", greeterContract,
      .text fun t => greeter (optionalLabel "optional-owned" t)⟩,
    ⟨"demo.Boxed", greeterContract, .empty (greeter "boxed")⟩,
    ⟨"demo.Fallible", greeterContract, .text fallible⟩,
    ⟨"demo.FallibleBoxed", greeterContract, .text fallibleBoxed⟩,
    ⟨"demo.Configured", greeterContract,
      .parameters fun p => greeter s!"configured:{showParameters p}"⟩,
    ⟨"demo.ConfiguredFallible", greeterContract, .parameters configuredFallible⟩,
    ⟨"demo.Twice", greeterContract, .empty (greeter "twice")⟩,
    ⟨"demo.Twice", greeterContract, .text fun _ => greeter "twice"⟩,
    ⟨"demo.Tagged", filterContract, .text fun t => filter (optionalLabel "tagged" t)⟩,
    ⟨"demo.Audit", filterContract, .empty (filter "audit")⟩,
    ⟨"demo.Refused", filterContract, .empty (.error "refused")⟩,
    ⟨"demo.Ruled", filterContract, .parameters fun p => filter s!"ruled:{showParameters p}"⟩,
    ⟨"test.Sink", sinkContract, .text fun t => sink (t.getD "sink")⟩,
    ⟨"test.SinkParams", sinkContract, .parameters fun p => sink (p.getD "label" "unlabelled")⟩,
    ⟨"test.SinkFail", sinkContract, .empty (.error "sink refused")⟩]

/-- The registrations of the program under a name. -/
def named (name : String) : List Registration :=
  registrations.filter (·.name == name)

/-- The factory table with everything that comes with the program. -/
def all : FactoryTable := ⟨registrations⟩

/-- The factory table with what comes with the program under each of some names, in their order. -/
def select (names : List String) : FactoryTable :=
  ⟨names.flatMap named⟩

end Catalogue

end Wiring
