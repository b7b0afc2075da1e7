import TypeCatalog.Crash
import TypeCatalog.Value.Display

namespace TypeCatalog.Schema

/-!
# Checks

Checks of values, and defaults for the items of values before they are checked.
-/

/-!
## Checked values

Checking a value against a model gives the model or all issues that were found, each with the
path to the faulty part.  Issues of several parts are collected in the order of the parts; a crash
in any part ends the whole check.
-/

/-- One step of a path into a value. -/
inductive Step where
  | field (name : String)
  | position (index : Int)
deriving Repr, DecidableEq

/-- One thing that is wrong with a value. -/
structure Issue where
  path : List Step
  message : String
  input : Value
deriving Repr

/-- The outcome of a check. -/
inductive Checked (α : Type) where
  | ok (result : α)
  | rejected (issues : List Issue)
  | crashed (crash : Crash)
deriving Repr

namespace Checked

/-- Applies a function to the result. -/
def map
    {α β : Type}
    (f : α → β) : Checked α → Checked β
  | .ok result => .ok (f result)
  | .rejected issues => .rejected issues
  | .crashed crash => .crashed crash

/-- Combines two checks; the issues of the first come first. -/
def combine
    {α β γ : Type}
    (f : α → β → γ) : Checked α → Checked β → Checked γ
  | .crashed crash, _ => .crashed crash
  | _, .crashed crash => .crashed crash
  | .rejected first, .rejected second => .rejected (first ++ second)
  | .rejected issues, .ok _ => .rejected issues
  | .ok _, .rejected issues => .rejected issues
  | .ok first, .ok second => .ok (f first second)

instance : Functor Checked where
  map := map

instance : Applicative Checked where
  pure := .ok
  seq f x := combine (fun g y => g y) f (x ())

/-- Continues with a result. -/
def andThen
    {α β : Type}
    (checked : Checked α)
    (next : α → Checked β) : Checked β :=
  match checked with
  | .ok result => next result
  | .rejected issues => .rejected issues
  | .crashed crash => .crashed crash

/-- One issue with the value itself. -/
def reject
    {α : Type}
    (message : String)
    (input : Value) : Checked α :=
  .rejected [⟨[], message, input⟩]

/-- One issue raised by a rule of the program. -/
def rejectRule
    {α : Type}
    (reason : String)
    (input : Value) : Checked α :=
  reject ("Value error, " ++ reason) input

/-- Puts a step in front of the paths of all issues. -/
def under
    {α : Type}
    (step : Step) : Checked α → Checked α
  | .rejected issues =>
    .rejected (issues.map fun issue => ⟨step :: issue.path, issue.message, issue.input⟩)
  | checked => checked

end Checked

/-- A check of a value. -/
abbrev Check (α : Type) : Type :=
  Value → Checked α

/-- The step for a key of a mapping. -/
def stepOfKey : Key → Step
  | .text content => .field content
  | .int number => .position number
  | .bool truth => .position (if truth then 1 else 0)
  | key => .field key.inspect

/-- Checks the items of a list one after the other. -/
def checkItems
    {α : Type}
    (check : Check α) : Nat → List Value → Checked (List α)
  | _, [] => .ok []
  | index, item :: rest =>
    Checked.combine List.cons ((check item).under (.position index))
      (checkItems check (index + 1) rest)

/-- A list of a fixed content, whose word in the message is given.  Sets and pairs are taken as
lists. -/
def listOf
    {α : Type}
    (word : String)
    (check : Check α) : Check (List α)
  | .list items => checkItems check 0 items
  | .again (.list items) => checkItems check 0 items
  | .pair first second => checkItems check 0 [first, second]
  | .set members => checkItems check 0 (members.map Key.toValue)
  | value => .reject ("Input should be a valid " ++ word) value

/-- A sequence. -/
def sequenceOf
    {α : Type}
    (check : Check α) : Check (List α) :=
  listOf "tuple" check

/-- Nothing, or a value that passes a check. -/
def nullable
    {α : Type}
    (check : Check α) : Check (Option α)
  | .null => .ok none
  | value => (check value).map some

/-- Any value. -/
def anything : Check Value :=
  .ok

/-- A required field. -/
def required
    {α : Type}
    (entries : List (Key × Value))
    (name : String)
    (check : Check α) : Checked α :=
  match Value.lookup? entries name with
  | some value => (check value).under (.field name)
  | none => .rejected [⟨[.field name], "Field required", .map entries⟩]

/-- A field with a value for when it is missing. -/
def optional
    {α : Type}
    (entries : List (Key × Value))
    (name : String)
    (otherwise : α)
    (check : Check α) : Checked α :=
  match Value.lookup? entries name with
  | some value => (check value).under (.field name)
  | none => .ok otherwise

/-- A mapping that is read as a model of a given name. -/
def recordOf
    {α : Type}
    (model : String)
    (read : List (Key × Value) → Checked α) : Check α
  | .map entries => read entries
  | .again (.map entries) => read entries
  | value => .reject ("Input should be a valid dictionary or instance of " ++ model) value

/-!
## Defaults for items

Some models complete the items of a list before the items are checked: parameters get their
position, members the type that declares them.  What an item says itself is kept.
-/

/-- The items that a value runs through: those of a list, the keys of a mapping, the characters of
a text, the numbers of bytes. -/
def itemsOf : Value → Checked (List Value)
  | .list items => .ok items
  | .again (.list items) => .ok items
  | .pair first second => .ok [first, second]
  | .set members => .ok (members.map Key.toValue)
  | .map entries => .ok (entries.map fun entry => entry.1.toValue)
  | .again (.map entries) => .ok (entries.map fun entry => entry.1.toValue)
  | .text content => .ok (content.toList.map fun c => .text (String.singleton c))
  | .unpaired points => .ok (points.map fun point => .ofWritten (.ofPoints [point]))
  | .bytes octets => .ok (octets.map fun octet => .ofNat octet)
  | value => .crashed ⟨.wrongType, "'" ++ value.formWord ++ "' object is not iterable"⟩

/-- Adds what is missing to an item that is a mapping. -/
def complete
    (defaults : List (Key × Value)) : Value → Value
  | .map entries => .map (Value.insertAll defaults entries)
  | .again (.map []) => .again (.map [])
  | .again (.map entries) => .map (Value.insertAll defaults entries)
  | item => item

/-- Completes the items of one field, if it holds any. -/
def completeItems
    (name : String)
    (defaults : Nat → List (Key × Value))
    (entries : List (Key × Value)) : Checked (List (Key × Value)) :=
  match Value.lookup? entries name with
  | none => .ok entries
  | some value =>
    if value.isSomething then
      (itemsOf value).map fun items =>
        Value.insert entries (.text name)
          (.list (items.mapIdx fun index item => complete (defaults index) item))
    else
      .ok entries

/-- The default that numbers items from zero. -/
def positionDefault (index : Nat) : List (Key × Value) :=
  [(.text "position", .int index)]

end TypeCatalog.Schema
