import TypeCatalog.Metadata.TypeDefinition
import TypeCatalog.Text.LetterCase
import TypeCatalog.Text.Order

namespace TypeCatalog

/-!
# Finding a type by name

A name is looked for in four ways, and the first way that finds a type decides: as a full name, as
a simple name, and, when it has a separator, with `.` read as `+` and with `+` read as `.`.  Among
several types the one with the least full name is taken.
-/

/-- The outcome of a search. -/
inductive Lookup (α : Type) where
  | found (result : α)
  | notFound (query : String)
  | invalid (reason : String)
deriving Repr

namespace Lookup

/-- Applies a function to what was found. -/
def map
    {α β : Type}
    (f : α → β) : Lookup α → Lookup β
  | .found result => .found (f result)
  | .notFound query => .notFound query
  | .invalid reason => .invalid reason

end Lookup

namespace TypeDefinition

/-- Types in the order of their full names. -/
def sortByFullName (types : List TypeDefinition) : List TypeDefinition :=
  types.mergeSort fun first second => Text.atMost first.fullName second.fullName

/-- The type among sorted candidates that a trimmed name means. -/
def findAmong?
    (candidates : List TypeDefinition)
    (query : String)
    (caseSensitive : Bool) : Option TypeDefinition :=
  let fold := Text.foldFor caseSensitive
  let target := fold query
  let separated := query.toList.contains '.' || query.toList.contains '+'
  (candidates.find? fun type => fold type.fullName == target)
    <|> (candidates.find? fun type => fold type.simpleName == target)
    <|> (if separated then
        (candidates.find? fun type =>
          fold type.fullName == Text.replaceCharacter '.' '+' target)
          <|> (candidates.find? fun type =>
            Text.replaceCharacter '+' '.' (fold type.fullName) ==
              Text.replaceCharacter '+' '.' target)
      else
        none)

/-- The type that a name means. -/
def find
    (types : List TypeDefinition)
    (typeName : String)
    (caseSensitive : Bool) : Lookup TypeDefinition :=
  let query := Text.trim typeName
  if query.isEmpty then
    .invalid "type name must not be empty"
  else
    match findAmong? (sortByFullName types) query caseSensitive with
    | some type => .found type
    | none => .notFound query

end TypeDefinition

end TypeCatalog
