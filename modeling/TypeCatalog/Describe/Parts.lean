import TypeCatalog.Json.Printer
import TypeCatalog.Metadata.Facts
import TypeCatalog.Metadata.Member
import TypeCatalog.Metadata.TypeRef

namespace TypeCatalog

/-!
# Descriptors of parts of types and members

References to types as text, and what is shown of parameters and attributes.
-/

/-!
## Type references as text

A reference is shown in two ways: the way it is written in source, with keywords for the basic
types and without namespaces, and in full.  The full text of a reference is shorthand for it.
-/

namespace TypeRef

/-- The keywords of the basic types. -/
def keywords : List (String × String) :=
  [("System.Boolean", "bool"), ("System.Byte", "byte"), ("System.SByte", "sbyte"),
    ("System.Char", "char"), ("System.Decimal", "decimal"), ("System.Double", "double"),
    ("System.Single", "float"), ("System.Int32", "int"), ("System.UInt32", "uint"),
    ("System.Int64", "long"), ("System.UInt64", "ulong"), ("System.Int16", "short"),
    ("System.UInt16", "ushort"), ("System.Object", "object"), ("System.String", "string"),
    ("System.Void", "void")]

/-- The keyword of a basic type, if it is one. -/
def keyword? (fullName : String) : Option String :=
  (keywords.find? fun entry => entry.1 == fullName).map Prod.snd

/-- The word for no type at all. -/
def absentText : String := "void"

/-- The marks of an array of a rank. -/
def arrayMarks (rank : Nat) : String :=
  "[" ++ String.ofList (List.replicate (rank - 1) ',') ++ "]"

mutual

/-- A reference as it is written in source. -/
def sourceText : TypeRef → String
  | ⟨kind, fullName, element?, rank, arguments⟩ =>
    match kind with
    | .byReference => elementSourceText element? ++ "&"
    | .pointer => elementSourceText element? ++ "*"
    | .array => elementSourceText element? ++ arrayMarks rank
    | .genericParameter => fullName
    | .named =>
      match argumentSourceTexts arguments with
      | [] =>
        (keyword? fullName).getD (QualifiedName.stripArity (QualifiedName.simpleName fullName))
      | texts =>
        QualifiedName.stripArity (QualifiedName.simpleName fullName) ++ "<" ++
          ", ".intercalate texts ++ ">"

/-- The element of a reference as it is written in source. -/
def elementSourceText : Option TypeRef → String
  | none => absentText
  | some element => sourceText element

/-- Arguments as they are written in source. -/
def argumentSourceTexts : List TypeRef → List String
  | [] => []
  | argument :: rest => sourceText argument :: argumentSourceTexts rest

end

mutual

/-- A reference in full. -/
def fullText : TypeRef → String
  | ⟨kind, fullName, element?, rank, arguments⟩ =>
    match kind with
    | .byReference => elementFullText element? ++ "&"
    | .pointer => elementFullText element? ++ "*"
    | .array => elementFullText element? ++ arrayMarks rank
    | .genericParameter | .named =>
      match argumentFullTexts arguments with
      | [] => fullName
      | texts => fullName ++ "<" ++ ", ".intercalate texts ++ ">"

/-- The element of a reference in full. -/
def elementFullText : Option TypeRef → String
  | none => ""
  | some element => fullText element

/-- Arguments in full. -/
def argumentFullTexts : List TypeRef → List String
  | [] => []
  | argument :: rest => fullText argument :: argumentFullTexts rest

end

/-- A reference, if any, as it is written in source. -/
def sourceTextOf : Option TypeRef → String :=
  elementSourceText

end TypeRef

/-!
## Descriptors of parts

What is shown of attributes, generic parameters, parameters and literal values.  An owner whose
attributes cannot all be read is shown without any.
-/

/-- An attribute as it is shown. -/
structure AttributeDescriptor where
  typeName : String
  constructorArguments : List Value
  namedArguments : List (String × Value)
deriving Repr

/-- A generic parameter as it is shown. -/
structure GenericParameterDescriptor where
  name : String
  position : Int
  constraints : List String
  referenceTypeConstraint : Bool
  valueTypeConstraint : Bool
  defaultConstructorConstraint : Bool
  variance : Variance
deriving Repr

/-- A parameter as it is shown. -/
structure ParameterDescriptor where
  name : String
  position : Int
  typeName : String
  defaultValue? : Option String
  isOptional : Bool
  isOut : Bool
  isRef : Bool
  isIn : Bool
  isParams : Bool
  attributes : List AttributeDescriptor
deriving Repr

/-- A default or constant value the way it appears in source. -/
def literalText? : Value → Option String
  | .null => none
  | .bool truth => some (if truth then "true" else "false")
  | .text content => some (Json.stringText content)
  | value => some value.display

namespace AttributeDescriptor

/-- Describes an attribute, unless its data could not be resolved. -/
def describe? (fact : AttributeFact) : Option AttributeDescriptor :=
  match fact.loadError? with
  | some error =>
    if error.isEmpty then
      some ⟨fact.typeName, fact.constructorArguments, fact.namedArguments⟩
    else
      none
  | none => some ⟨fact.typeName, fact.constructorArguments, fact.namedArguments⟩

/-- Describes the attributes of one owner: all of them, or none when one cannot be read. -/
def describeAll (facts : List AttributeFact) : List AttributeDescriptor :=
  (facts.mapM describe?).getD []

/-- An attribute as a value. -/
def toValue (descriptor : AttributeDescriptor) : Value :=
  .record
    [("type", .text descriptor.typeName),
      ("constructor_arguments", .list descriptor.constructorArguments),
      ("named_arguments", .record descriptor.namedArguments)]

end AttributeDescriptor

namespace GenericParameterDescriptor

/-- Describes a generic parameter. -/
def describe (fact : GenericParameterFact) : GenericParameterDescriptor :=
  ⟨fact.name, fact.position, fact.constraints.map TypeRef.sourceText,
    fact.referenceTypeConstraint, fact.valueTypeConstraint, fact.defaultConstructorConstraint,
    fact.variance⟩

/-- Generic parameters in the order of their positions. -/
def inOrder (facts : List GenericParameterFact) : List GenericParameterFact :=
  facts.mergeSort fun first second => decide (first.position ≤ second.position)

/-- Describes generic parameters in the order of their positions. -/
def describeAll (facts : List GenericParameterFact) : List GenericParameterDescriptor :=
  (inOrder facts).map describe

/-- A generic parameter as a value. -/
def toValue (descriptor : GenericParameterDescriptor) : Value :=
  .record
    [("name", .text descriptor.name), ("position", .int descriptor.position),
      ("constraints", .ofTexts descriptor.constraints),
      ("reference_type_constraint", .bool descriptor.referenceTypeConstraint),
      ("value_type_constraint", .bool descriptor.valueTypeConstraint),
      ("default_constructor_constraint", .bool descriptor.defaultConstructorConstraint),
      ("variance", .text descriptor.variance.word)]

end GenericParameterDescriptor

namespace ParameterDescriptor

/-- Describes a parameter. -/
def describe (fact : ParameterFact) : ParameterDescriptor :=
  ⟨if fact.name.isEmpty then "param" else fact.name,
    fact.position,
    fact.typeRef.sourceText,
    if fact.hasDefault then literalText? fact.defaultValue else none,
    fact.isOptional,
    fact.isOut,
    fact.typeRef.isByReference && !fact.isOut && !fact.isIn,
    fact.isIn,
    fact.isParams,
    AttributeDescriptor.describeAll fact.attributes⟩

/-- Describes parameters in the order of their positions. -/
def describeAll (facts : List ParameterFact) : List ParameterDescriptor :=
  (facts.mergeSort fun first second => decide (first.position ≤ second.position)).map describe

/-- A parameter as a value. -/
def toValue (descriptor : ParameterDescriptor) : Value :=
  .record
    [("name", .text descriptor.name), ("position", .int descriptor.position),
      ("type", .text descriptor.typeName), ("default_value", .ofText? descriptor.defaultValue?),
      ("is_optional", .bool descriptor.isOptional), ("is_out", .bool descriptor.isOut),
      ("is_ref", .bool descriptor.isRef), ("is_in", .bool descriptor.isIn),
      ("is_params", .bool descriptor.isParams),
      ("attributes", .list (descriptor.attributes.map AttributeDescriptor.toValue))]

/-- Drops the mark of a reference at the end of a type's text. -/
def withoutMark (typeName : String) : String :=
  if typeName.toList.getLast? = some '&' then String.ofList typeName.toList.dropLast else typeName

/-- A parameter in a signature. -/
def signatureText (parameter : ParameterDescriptor) : String :=
  let direction :=
    if parameter.isOut then ["out"]
    else if parameter.isIn then ["in"]
    else if parameter.isRef then ["ref"]
    else []
  let typeName :=
    if direction.isEmpty then parameter.typeName else withoutMark parameter.typeName
  let words :=
    direction ++ (if parameter.isParams then ["params"] else []) ++ [typeName, parameter.name]
  " ".intercalate words ++
    (match parameter.isOptional, parameter.defaultValue? with
    | true, some value => " = " ++ value
    | _, _ => "")

/-- Parameters in a signature. -/
def signatureTexts (parameters : List ParameterDescriptor) : String :=
  ", ".intercalate (parameters.map signatureText)

end ParameterDescriptor

end TypeCatalog
