import TypeCatalog.Crash
import TypeCatalog.Value.Display

namespace TypeCatalog

/-!
# Kinds

The closed sets of words that metadata uses.  Every kind has one word; the list of all of them is
in the order in which messages name them.
-/

/-- Who may use a type or a member. -/
inductive Accessibility where
  | «public»
  | «private»
  | «protected»
  | internal
  | protectedInternal
  | privateProtected
deriving Repr, DecidableEq

namespace Accessibility

/-- The keyword in source. -/
def word : Accessibility → String
  | .public => "public"
  | .private => "private"
  | .protected => "protected"
  | .internal => "internal"
  | .protectedInternal => "protected internal"
  | .privateProtected => "private protected"

/-- All of them. -/
def all : List Accessibility :=
  [.public, .private, .protected, .internal, .protectedInternal, .privateProtected]

end Accessibility

/-- What a type is. -/
inductive TypeKind where
  | classType
  | interfaceType
  | enumType
  | structType
  | delegateType
  | arrayType
  | pointerType
  | byReference
  | genericParameter
  | unknown
deriving Repr, DecidableEq

namespace TypeKind

/-- The word for a kind. -/
def word : TypeKind → String
  | .classType => "class"
  | .interfaceType => "interface"
  | .enumType => "enum"
  | .structType => "struct"
  | .delegateType => "delegate"
  | .arrayType => "array"
  | .pointerType => "pointer"
  | .byReference => "byref"
  | .genericParameter => "generic_parameter"
  | .unknown => "unknown"

/-- All of them. -/
def all : List TypeKind :=
  [.classType, .interfaceType, .enumType, .structType, .delegateType, .arrayType, .pointerType,
    .byReference, .genericParameter, .unknown]

end TypeKind

/-- What a member is. -/
inductive MemberKind where
  | method
  | property
  | field
  | event
  | constructor
deriving Repr, DecidableEq

namespace MemberKind

/-- The word for a kind. -/
def word : MemberKind → String
  | .method => "method"
  | .property => "property"
  | .field => "field"
  | .event => "event"
  | .constructor => "constructor"

/-- All of them. -/
def all : List MemberKind :=
  [.method, .property, .field, .event, .constructor]

/-- The kind with a word. -/
def ofWord? (word : String) : Option MemberKind :=
  all.find? fun kind => kind.word == word

/-- The kind whose word a value is. -/
def ofValue (value : Value) : Except Crash MemberKind :=
  let kind? :=
    match value with
    | .text word => ofWord? word
    | _ => none
  match kind? with
  | some kind => .ok kind
  | none => .error ⟨.invalidValue, value.inspect ++ " is not a valid MemberKind"⟩

end MemberKind

/-- How the arguments of a generic parameter may vary. -/
inductive Variance where
  | invariant
  | covariant
  | contravariant
deriving Repr, DecidableEq

namespace Variance

/-- The word for a variance. -/
def word : Variance → String
  | .invariant => "none"
  | .covariant => "covariant"
  | .contravariant => "contravariant"

/-- All of them. -/
def all : List Variance :=
  [.invariant, .covariant, .contravariant]

end Variance

/-- What a reference to a type is built as. -/
inductive ReferenceKind where
  | named
  | array
  | pointer
  | byReference
  | genericParameter
deriving Repr, DecidableEq

namespace ReferenceKind

/-- The word for a kind of reference. -/
def word : ReferenceKind → String
  | .named => "named"
  | .array => "array"
  | .pointer => "pointer"
  | .byReference => "byref"
  | .genericParameter => "generic_parameter"

/-- All of them. -/
def all : List ReferenceKind :=
  [.named, .array, .pointer, .byReference, .genericParameter]

/-- Whether a reference of this kind is built around another one. -/
def wraps : ReferenceKind → Bool
  | .array | .pointer | .byReference => true
  | .named | .genericParameter => false

end ReferenceKind

end TypeCatalog
