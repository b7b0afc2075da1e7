import TypeCatalog.Limits
import TypeCatalog.Query.Options
import TypeCatalog.Schema.Scalar

namespace TypeCatalog

/-!
# Parameters of tools

A tool takes named arguments.  Binding checks them one by one in the order of the parameters, fills
in what is left out, and then refuses arguments that no parameter takes.
-/

/-- A parameter: its name, the check of an argument for it, and the value that stands for a missing
argument, if there may be none. -/
structure Parameter where
  name : String
  check : Schema.Check Value
  default? : Option Value

namespace Parameter

/-- Arguments by the names of their parameters. -/
abbrev Arguments : Type :=
  List (String × Value)

/-- A parameter that takes a text and must be given. -/
def requiredText (name : String) : Parameter :=
  ⟨name, fun value => (Schema.text value).map .text, none⟩

/-- A parameter that takes a truth value. -/
def truth
    (name : String)
    (default : Bool) : Parameter :=
  ⟨name, fun value => (Schema.truth value).map .bool, some (.bool default)⟩

/-- A parameter that takes nothing or what passes a check. -/
def optionalOf
    {α : Type}
    (name : String)
    (check : Schema.Check α)
    (toValue : α → Value) : Parameter :=
  ⟨name, fun value => (Schema.nullable check value).map fun found => (found.map toValue).getD .null,
    some .null⟩

/-- A parameter that takes nothing or a truth value. -/
def optionalTruth (name : String) : Parameter :=
  optionalOf name Schema.truth .bool

/-- A parameter that takes nothing or a text. -/
def optionalText (name : String) : Parameter :=
  optionalOf name Schema.text .text

/-- A parameter that takes nothing or one of some words. -/
def optionalWord
    (name : String)
    (words : List String) : Parameter :=
  optionalOf name (Schema.literal (words.map fun word => (word, word))) .text

/-- A parameter that takes nothing or a list of texts. -/
def optionalTexts (name : String) : Parameter :=
  optionalOf name (Schema.listOf "list" Schema.text) .ofTexts

/-- The argument for a parameter. -/
def bind
    (given : List (Key × Value))
    (parameter : Parameter) : Schema.Checked (String × Value) :=
  match Value.lookup? given parameter.name, parameter.default? with
  | some value, _ =>
    ((parameter.check value).under (.field parameter.name)).map fun bound =>
      (parameter.name, bound)
  | none, some value => .ok (parameter.name, value)
  | none, none =>
    .rejected [⟨[.field parameter.name], "Missing required argument", .map given⟩]

/-- The arguments for all parameters. -/
def bindKnown
    (given : List (Key × Value)) : List Parameter → Schema.Checked Arguments
  | [] => .ok []
  | parameter :: rest =>
    Schema.Checked.combine List.cons (bind given parameter) (bindKnown given rest)

/-- Refuses arguments that no parameter takes. -/
def refuseUnknown
    (given : List (Key × Value))
    (parameters : List Parameter) : Schema.Checked Unit :=
  match given.filter fun entry =>
      !parameters.any fun parameter => entry.1 == Key.text parameter.name with
  | [] => .ok ()
  | unknown =>
    .rejected
      (unknown.map fun entry =>
        ⟨[Schema.stepOfKey entry.1], "Unexpected keyword argument", entry.2⟩)

/-- Binds arguments to parameters. -/
def bindAll
    (parameters : List Parameter)
    (given : List (Key × Value)) : Schema.Checked Arguments :=
  Schema.Checked.combine (fun bound _ => bound) (bindKnown given parameters)
    (refuseUnknown given parameters)

/-- The argument under a name. -/
def argument
    (bound : Arguments)
    (name : String) : Value :=
  (bound.lookup name).getD .null

/-- The truth value under a name. -/
def truthArgument
    (bound : Arguments)
    (name : String) : Bool :=
  match argument bound name with
  | .bool truth => truth
  | _ => false

/-- The query options among arguments; those without a value are left out. -/
def optionsArgument (bound : Arguments) : Value :=
  .record
    (bound.filter fun entry =>
      FilterOptions.fieldNames.contains entry.1 &&
        (match entry.2 with
        | .null => false
        | _ => true))

end Parameter

end TypeCatalog
