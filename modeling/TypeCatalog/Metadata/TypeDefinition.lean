import TypeCatalog.Metadata.Member

namespace TypeCatalog

/-!
# Type definitions and their visibility

Types with their members, and which of them are shown.
-/

/-!
## Type definitions

A type with all members that are visible on it and with the types nested in it.
-/

/-- A type definition. -/
structure TypeDefinition where
  fullName : String
  kind : TypeKind
  accessibility : Accessibility
  token : Int
  isAbstract : Bool
  isSealed : Bool
  isGenericDefinition : Bool
  declaringType? : Option String
  baseType? : Option TypeRef
  interfaces : List TypeRef
  attributes : List AttributeFact
  genericParameters : List GenericParameterFact
  members : List MemberFact
  docs? : Option DocBlock
  nestedTypes : List TypeDefinition
deriving Repr

namespace TypeDefinition

/-- The last name in the full name. -/
def simpleName (type : TypeDefinition) : String :=
  QualifiedName.simpleName type.fullName

/-- The namespace in the full name. -/
def namespaceOf (type : TypeDefinition) : String :=
  QualifiedName.namespaceOf type.fullName

/-- Whether the type is nested in another one. -/
def isNested (type : TypeDefinition) : Bool :=
  type.declaringType?.isSome || type.fullName.toList.contains '+'

/-- Whether the type holds static members only. -/
def isStatic (type : TypeDefinition) : Bool :=
  type.isAbstract && type.isSealed && type.kind != .interfaceType

/-- The default that says which type declares an item. -/
def ownerDefault
    (entries : List (Key × Value))
    (_ : Nat) : List (Key × Value) :=
  [(.text "declaring_type", (Value.lookup? entries "full_name").getD .null)]

/-- Members and nested types that do not say which type declares them belong to this one, and
generic parameters are numbered. -/
def completeEntries (entries : List (Key × Value)) : Schema.Checked (List (Key × Value)) :=
  ((Schema.completeItems "members" (ownerDefault entries) entries).andThen
    (Schema.completeItems "nested_types" (ownerDefault entries))).andThen
      (Schema.completeItems "generic_parameters" Schema.positionDefault)

/-- Checks a value as a type definition, where there is room for so many types inside one
another. -/
def checkWithin : Nat → Schema.Check TypeDefinition
  | 0, value => .reject TypeRef.tooDeepMessage value
  | room + 1, value =>
    if value.isEndless then
      .reject TypeRef.tooDeepMessage value
    else
      Schema.recordOf "RawType"
        (fun given => (completeEntries given).andThen fun entries =>
          TypeDefinition.mk
            <$> Schema.required entries "full_name" Schema.text
            <*> Schema.optional entries "kind" .classType
              (Schema.choice (TypeKind.all.map fun kind => (kind.word, kind)))
            <*> Schema.optional entries "accessibility" .public MemberFact.checkAccessibility
            <*> Schema.optional entries "token" 0 Schema.whole
            <*> Schema.optional entries "is_abstract" false Schema.truth
            <*> Schema.optional entries "is_sealed" false Schema.truth
            <*> Schema.optional entries "is_generic_definition" false Schema.truth
            <*> Schema.optional entries "declaring_type" none (Schema.nullable Schema.text)
            <*> Schema.optional entries "base_type" none
              (Schema.nullable (TypeRef.checkInside room))
            <*> Schema.optional entries "interfaces" []
              (Schema.sequenceOf (TypeRef.checkInside room))
            <*> Schema.optional entries "attributes" [] (Schema.sequenceOf AttributeFact.check)
            <*> Schema.optional entries "generic_parameters" []
              (Schema.sequenceOf (GenericParameterFact.check room))
            <*> Schema.optional entries "members" []
              (Schema.sequenceOf (MemberFact.checkWithin room))
            <*> Schema.optional entries "docs" none (Schema.nullable DocBlock.check)
            <*> Schema.optional entries "nested_types" []
              (Schema.sequenceOf (checkWithin room)))
        value

/-- Checks a value as a type definition. -/
def check : Schema.Check TypeDefinition :=
  checkWithin (Limits.checkedDepth - 1)

mutual

/-- A type definition as a value. -/
def toValue : TypeDefinition → Value
  | ⟨fullName, kind, accessibility, token, isAbstract, isSealed, isGenericDefinition,
      declaringType?, baseType?, interfaces, attributes, genericParameters, members, docs?,
      nestedTypes⟩ =>
    .record
      [("full_name", .text fullName), ("kind", .text kind.word),
        ("accessibility", .text accessibility.word), ("token", .int token),
        ("is_abstract", .bool isAbstract), ("is_sealed", .bool isSealed),
        ("is_generic_definition", .bool isGenericDefinition),
        ("declaring_type", .ofText? declaringType?),
        ("base_type", TypeRef.optionToValue baseType?),
        ("interfaces", .list (TypeRef.listToValue interfaces)),
        ("attributes", .list (attributes.map AttributeFact.toValue)),
        ("generic_parameters", .list (genericParameters.map GenericParameterFact.toValue)),
        ("members", .list (members.map MemberFact.toValue)),
        ("docs", (docs?.map DocBlock.toValue).getD .null),
        ("nested_types", .list (listToValue nestedTypes))]

/-- Type definitions as values. -/
def listToValue : List TypeDefinition → List Value
  | [] => []
  | type :: rest => toValue type :: listToValue rest

end

mutual

/-- A type and all types nested in it, each before those nested in it. -/
def flatten : TypeDefinition → List TypeDefinition
  | ⟨fullName, kind, accessibility, token, isAbstract, isSealed, isGenericDefinition,
      declaringType?, baseType?, interfaces, attributes, genericParameters, members, docs?,
      nestedTypes⟩ =>
    ⟨fullName, kind, accessibility, token, isAbstract, isSealed, isGenericDefinition,
      declaringType?, baseType?, interfaces, attributes, genericParameters, members, docs?,
      nestedTypes⟩ :: flattenAll nestedTypes

/-- All types of a list and all types nested in them. -/
def flattenAll : List TypeDefinition → List TypeDefinition
  | [] => []
  | type :: rest => flatten type ++ flattenAll rest

end

/-- Gives members without a token their place in the list as one. -/
def numberMembers (members : List MemberFact) : List MemberFact :=
  members.mapIdx fun index member =>
    if member.token = 0 then { member with token := index + 1 } else member

mutual

/-- Gives a type without a token its place as one, and does the same for its members and for the
types nested in it. -/
def number
    (position : Int) : TypeDefinition → TypeDefinition
  | ⟨fullName, kind, accessibility, token, isAbstract, isSealed, isGenericDefinition,
      declaringType?, baseType?, interfaces, attributes, genericParameters, members, docs?,
      nestedTypes⟩ =>
    ⟨fullName, kind, accessibility, if token = 0 then position else token, isAbstract, isSealed,
      isGenericDefinition, declaringType?, baseType?, interfaces, attributes, genericParameters,
      numberMembers members, docs?, numberAll 1 nestedTypes⟩

/-- Numbers the types of a list from a position on. -/
def numberAll
    (position : Int) : List TypeDefinition → List TypeDefinition
  | [] => []
  | type :: rest => number position type :: numberAll (position + 1) rest

end

end TypeDefinition

/-- A module: its name, its version and its top-level types. -/
structure ModuleDefinition where
  name : String
  version : String
  types : List TypeDefinition
deriving Repr

namespace ModuleDefinition

/-- Checks a value as a module. -/
def check : Schema.Check ModuleDefinition :=
  Schema.recordOf "RawModule" fun entries =>
    ModuleDefinition.mk
      <$> Schema.required entries "name" Schema.text
      <*> Schema.optional entries "version" "" Schema.text
      <*> Schema.optional entries "types" [] (Schema.sequenceOf TypeDefinition.check)

/-- A module as a value. -/
def toValue (definition : ModuleDefinition) : Value :=
  .record
    [("name", .text definition.name), ("version", .text definition.version),
      ("types", .list (TypeDefinition.listToValue definition.types))]

/-- All types, nested ones included, each before those nested in it. -/
def allTypes (definition : ModuleDefinition) : List TypeDefinition :=
  TypeDefinition.flattenAll definition.types

/-- Gives every type and every member without a token its place in its list as one. -/
def assignDeclarationOrder (definition : ModuleDefinition) : ModuleDefinition :=
  { definition with types := TypeDefinition.numberAll 1 definition.types }

end ModuleDefinition

/-!
## Visibility

Which members of a type a query sees, by accessibility, by being static and by being inherited.
-/

/-- The members that a query asks for. -/
structure Visibility where
  publicMembers : Bool
  nonPublicMembers : Bool
  staticMembers : Bool
  instanceMembers : Bool
  inheritedMembers : Bool
  declaredOnly : Bool
deriving Repr, DecidableEq

namespace Visibility

/-- Public members, static ones and others, that the type itself declares. -/
def standard : Visibility :=
  ⟨true, false, true, true, false, true⟩

/-- A visibility as a value. -/
def toValue (visibility : Visibility) : Value :=
  .record
    [("public", .bool visibility.publicMembers), ("non_public", .bool visibility.nonPublicMembers),
      ("static", .bool visibility.staticMembers), ("instance", .bool visibility.instanceMembers),
      ("inherited", .bool visibility.inheritedMembers),
      ("declared_only", .bool visibility.declaredOnly)]

/-- Whether a member of the type with a full name is asked for. -/
def admits
    (visibility : Visibility)
    (member : MemberFact)
    (typeName : String) : Bool :=
  (if member.accessibility = .public then visibility.publicMembers
    else visibility.nonPublicMembers) &&
  (if member.isStatic then visibility.staticMembers else visibility.instanceMembers) &&
  (member.declaringType == typeName ||
    visibility.inheritedMembers || !visibility.declaredOnly)

/-- The members of a type that are asked for. -/
def membersOf
    (visibility : Visibility)
    (type : TypeDefinition) : List MemberFact :=
  type.members.filter fun member => visibility.admits member type.fullName

end Visibility

end TypeCatalog
