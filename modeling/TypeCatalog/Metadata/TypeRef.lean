import TypeCatalog.Metadata.Kinds
import TypeCatalog.Metadata.Shorthand
import TypeCatalog.Schema.Scalar
import TypeCatalog.Text.Split

namespace TypeCatalog.QualifiedName

/-!
# Qualified names

A full name is a namespace, a dot, and the names of the enclosing types and of the type itself
with `+` between them.  Generic types carry the number of their parameters after a tick.
-/

/-- The last name in a full name: what follows the last dot and, in that, the last `+`. -/
def simpleName (fullName : String) : String :=
  Text.afterLast '+' (Text.afterLast '.' fullName)

/-- The namespace in a full name: what precedes the last dot of the outermost type's name. -/
def namespaceOf (fullName : String) : String :=
  (Text.beforeLast? '.' (Text.beforeFirst '+' fullName)).getD ""

/-- A name without its tick and what follows the tick. -/
def stripArity (name : String) : String :=
  Text.beforeFirst '`' name

end TypeCatalog.QualifiedName

namespace TypeCatalog

/-!
# References to types

A reference as signatures, base lists and constraints hold it.  A reference that wraps another one
has an element; every other one has a full name.
-/

/-- A reference to a type. -/
structure TypeRef where
  kind : ReferenceKind
  fullName : String
  element? : Option TypeRef
  rank : Nat
  arguments : List TypeRef
deriving Repr

namespace TypeRef

instance : Inhabited TypeRef := ⟨⟨.named, "", none, 1, []⟩⟩

/-- The last name in the full name. -/
def simpleName (reference : TypeRef) : String :=
  QualifiedName.simpleName reference.fullName

/-- The namespace in the full name. -/
def namespaceOf (reference : TypeRef) : String :=
  QualifiedName.namespaceOf reference.fullName

/-- Whether this is a reference to a place that holds a value. -/
def isByReference (reference : TypeRef) : Bool :=
  reference.kind = .byReference

/-- What a reference lacks, if anything. -/
def shapeFault? (reference : TypeRef) : Option String :=
  if reference.kind.wraps then
    match reference.element? with
    | none => some (reference.kind.word ++ " reference requires an element type")
    | some _ => none
  else if reference.fullName.isEmpty then
    some "named reference requires full_name"
  else
    none

/-- Accepts a reference that lacks nothing. -/
def checkShape
    (input : Value)
    (reference : TypeRef) : Schema.Checked TypeRef :=
  match reference.shapeFault? with
  | some reason => .rejectRule reason input
  | none => .ok reference

/-- The message for references or types that stand inside one another too deep. -/
def tooDeepMessage : String :=
  "Recursion error - maximum validation depth exceeded"

/-- The message for a reference that stands inside itself. -/
def endlessMessage : String :=
  "Recursion error - cyclic reference detected"

/-- What a shorthand text stands for, without its parts. -/
def leafOf
    (kind : ReferenceKind)
    (fullName : String) : Schema.Checked TypeRef :=
  checkShape .null ⟨kind, fullName, none, 1, []⟩

mutual

/-- The reference that a shorthand text stands for, where there is room for so many references
inside one another. -/
def ofShorthand : Nat → Shorthand → Schema.Checked TypeRef
  | 0, _ => .reject tooDeepMessage .null
  | _ + 1, .named fullName => leafOf .named fullName
  | _ + 1, .genericParameter fullName => leafOf .genericParameter fullName
  | room + 1, .constructed fullName arguments =>
    (ofShorthands room 0 arguments).andThen fun checked =>
      checkShape .null ⟨.named, fullName, none, 1, checked⟩
  | room + 1, .array element rank =>
    ((ofShorthand room element).under (.field "element")).map fun checked =>
      ⟨.array, "", some checked, rank, []⟩
  | room + 1, .pointer element =>
    ((ofShorthand room element).under (.field "element")).map fun checked =>
      ⟨.pointer, "", some checked, 1, []⟩
  | room + 1, .byReference element =>
    ((ofShorthand room element).under (.field "element")).map fun checked =>
      ⟨.byReference, "", some checked, 1, []⟩

/-- The arguments of a constructed generic type. -/
def ofShorthands
    (room index : Nat) : List Shorthand → Schema.Checked (List TypeRef)
  | [] => .ok []
  | argument :: rest =>
    Schema.Checked.combine List.cons
      (((ofShorthand room argument).under (.position index)).under (.field "type_arguments"))
      (ofShorthands room (index + 1) rest)

end

/-- The reference that a text stands for. -/
def ofText
    (room : Nat)
    (content : String) : Schema.Checked TypeRef :=
  match Shorthand.parse content with
  | .ok shorthand => ofShorthand room shorthand
  | .error fault =>
    match fault.reason? with
    | some reason => .rejectRule reason (.text content)
    | none => .crashed fault.crash

/-- The outcome for a text that holds something that is no character: its shorthand is read
first. -/
def ofUnpaired
    (room : Nat)
    (points : List Nat) : Schema.Checked TypeRef :=
  (ofText room (Text.ofPoints points)).andThen fun _ =>
    .reject Schema.notCharactersMessage (.unpaired points)

/-- Checks a value as a reference, where there is room for so many references inside one another. -/
def checkWithin : Nat → Schema.Check TypeRef
  | 0, value => .reject tooDeepMessage value
  | room + 1, .text content => ofText (room + 1) content
  | room + 1, .unpaired points => ofUnpaired (room + 1) points
  | room + 1, value =>
    if value.isEndless then
      .reject endlessMessage value
    else
      (Schema.recordOf "RawTypeRef"
        (fun entries =>
          TypeRef.mk
            <$> Schema.optional entries "kind" .named
              (Schema.choice (ReferenceKind.all.map fun kind => (kind.word, kind)))
            <*> Schema.optional entries "full_name" "" Schema.text
            <*> Schema.optional entries "element" none (Schema.nullable (checkWithin room))
            <*> Schema.optional entries "rank" 1
              (fun rank => (Schema.wholeFrom 1 rank).map Int.toNat)
            <*> Schema.optional entries "type_arguments" []
              (Schema.sequenceOf (checkWithin room)))
        value).andThen (checkShape value)

/-- Checks a value as a reference. -/
def check : Schema.Check TypeRef :=
  checkWithin Limits.checkedDepth

/-- Checks a value as a reference inside something else, which takes one place of the room. -/
def checkInside (room : Nat) : Schema.Check TypeRef :=
  checkWithin (room - 1)

mutual

/-- A reference as a value. -/
def toValue : TypeRef → Value
  | ⟨kind, fullName, element?, rank, arguments⟩ =>
    .record
      [("kind", .text kind.word), ("full_name", .text fullName),
        ("element", optionToValue element?), ("rank", .ofNat rank),
        ("type_arguments", .list (listToValue arguments))]

/-- A reference, if any, as a value. -/
def optionToValue : Option TypeRef → Value
  | none => .null
  | some reference => toValue reference

/-- References as values. -/
def listToValue : List TypeRef → List Value
  | [] => []
  | reference :: rest => toValue reference :: listToValue rest

end

end TypeRef

namespace Shorthand

mutual

/-- What a shorthand text says, as a value with only the fields that it says something about. -/
def toValue : Shorthand → Value
  | .named fullName => .record [("kind", .text "named"), ("full_name", .text fullName)]
  | .constructed fullName arguments =>
    .record
      [("kind", .text "named"), ("full_name", .text fullName),
        ("type_arguments", .list (listToValue arguments))]
  | .genericParameter fullName =>
    .record [("kind", .text "generic_parameter"), ("full_name", .text fullName)]
  | .array element rank =>
    .record [("kind", .text "array"), ("element", toValue element), ("rank", .ofNat rank)]
  | .pointer element => .record [("kind", .text "pointer"), ("element", toValue element)]
  | .byReference element => .record [("kind", .text "byref"), ("element", toValue element)]

/-- Several of them. -/
def listToValue : List Shorthand → List Value
  | [] => []
  | shorthand :: rest => toValue shorthand :: listToValue rest

end

end Shorthand

end TypeCatalog
