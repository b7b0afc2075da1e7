import TypeCatalog.Describe.Documentation
import TypeCatalog.Describe.Parts
import TypeCatalog.Metadata.TypeDefinition
import TypeCatalog.Text.Order

namespace TypeCatalog

/-!
# Descriptors of types

What is shown of a type and of the types nested in it.  A type that bears the name of a type
around it is not shown, so no path through nested types meets a name twice.
-/

/-- A type as it is shown. -/
structure TypeDescriptor where
  fullName : String
  simpleName : String
  namespaceName : String
  kind : TypeKind
  accessibility : Accessibility
  moduleName : String
  order : Int
  isAbstract : Bool
  isSealed : Bool
  isStatic : Bool
  isGeneric : Bool
  isNested : Bool
  declaringType? : Option String
  baseType? : Option String
  interfaces : List String
  attributes : List AttributeDescriptor
  genericParameters : List GenericParameterDescriptor
  nestedTypes : List TypeDescriptor
  docs? : Option DocsDescriptor
deriving Repr

namespace TypeDescriptor

/-- The key by which siblings are sorted: the token, then the full name. -/
def siblingKey (descriptor : TypeDescriptor) : Text.RankKey :=
  ⟨descriptor.order, descriptor.fullName, ""⟩

/-- Siblings in order. -/
def sortSiblings (descriptors : List TypeDescriptor) : List TypeDescriptor :=
  descriptors.mergeSort fun first second => first.siblingKey.atMost second.siblingKey

/-- A type with described nested types. -/
def ofDefinition
    (moduleName : String)
    (type : TypeDefinition)
    (nestedTypes : List TypeDescriptor) : TypeDescriptor :=
  ⟨type.fullName,
    type.simpleName,
    type.namespaceOf,
    type.kind,
    type.accessibility,
    moduleName,
    type.token,
    type.isAbstract,
    type.isSealed,
    type.isStatic,
    type.isGenericDefinition || !type.genericParameters.isEmpty,
    type.isNested,
    type.declaringType?,
    type.baseType?.map TypeRef.fullText,
    type.interfaces.map TypeRef.fullText,
    AttributeDescriptor.describeAll type.attributes,
    GenericParameterDescriptor.describeAll type.genericParameters,
    nestedTypes,
    DocsDescriptor.describe type.docs?⟩

mutual

/-- Describes a type inside types with the given names. -/
def describeWithin
    (moduleName : String)
    (outer : List String) : TypeDefinition → TypeDescriptor
  | ⟨fullName, kind, accessibility, token, isAbstract, isSealed, isGenericDefinition,
      declaringType?, baseType?, interfaces, attributes, genericParameters, members, docs?,
      nestedTypes⟩ =>
    ofDefinition moduleName
      ⟨fullName, kind, accessibility, token, isAbstract, isSealed, isGenericDefinition,
        declaringType?, baseType?, interfaces, attributes, genericParameters, members, docs?,
        nestedTypes⟩
      (sortSiblings (describeNested moduleName (fullName :: outer) nestedTypes))

/-- Describes those types of a list that do not bear a name of a type around them. -/
def describeNested
    (moduleName : String)
    (outer : List String) : List TypeDefinition → List TypeDescriptor
  | [] => []
  | type :: rest =>
    if outer.contains type.fullName then
      describeNested moduleName outer rest
    else
      describeWithin moduleName outer type :: describeNested moduleName outer rest

end

/-- Describes a type. -/
def describe
    (moduleName : String)
    (type : TypeDefinition) : TypeDescriptor :=
  describeWithin moduleName [] type

/-- The fields of a type but the nested types. -/
def ownFields (descriptor : TypeDescriptor) : List (String × Value) :=
  [("full_name", .text descriptor.fullName), ("name", .text descriptor.simpleName),
    ("namespace", .text descriptor.namespaceName), ("kind", .text descriptor.kind.word),
    ("accessibility", .text descriptor.accessibility.word),
    ("module", .text descriptor.moduleName), ("is_abstract", .bool descriptor.isAbstract),
    ("is_sealed", .bool descriptor.isSealed), ("is_static", .bool descriptor.isStatic),
    ("is_generic", .bool descriptor.isGeneric), ("is_nested", .bool descriptor.isNested),
    ("declaring_type", .ofText? descriptor.declaringType?),
    ("base_type", .ofText? descriptor.baseType?),
    ("interfaces", .ofTexts descriptor.interfaces),
    ("attributes", .list (descriptor.attributes.map AttributeDescriptor.toValue)),
    ("generic_parameters",
      .list (descriptor.genericParameters.map GenericParameterDescriptor.toValue))]

/-- A type as a value without its nested types. -/
def toOwnValue (descriptor : TypeDescriptor) : Value :=
  .record descriptor.ownFields

mutual

/-- A type as a value. -/
def toValue : TypeDescriptor → Value
  | ⟨fullName, simpleName, namespaceName, kind, accessibility, moduleName, order, isAbstract,
      isSealed, isStatic, isGeneric, isNested, declaringType?, baseType?, interfaces, attributes,
      genericParameters, nestedTypes, docs?⟩ =>
    .record
      (ownFields
        ⟨fullName, simpleName, namespaceName, kind, accessibility, moduleName, order, isAbstract,
          isSealed, isStatic, isGeneric, isNested, declaringType?, baseType?, interfaces,
          attributes, genericParameters, nestedTypes, docs?⟩ ++
        [("nested_types", .list (listToValue nestedTypes))])

/-- Types as values. -/
def listToValue : List TypeDescriptor → List Value
  | [] => []
  | descriptor :: rest => toValue descriptor :: listToValue rest

end

end TypeDescriptor

end TypeCatalog
