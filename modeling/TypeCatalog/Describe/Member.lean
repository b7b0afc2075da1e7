import TypeCatalog.Describe.Documentation
import TypeCatalog.Describe.Parts
import TypeCatalog.Metadata.TypeDefinition

namespace TypeCatalog

/-!
# Descriptors of members and their signatures

What is shown of a member.
-/

/-!
## Signatures

A member the way its declaration reads in source, without a body.
-/

namespace MemberFact

/-- Whether the root definition of the member stands on another type. -/
def isOverride (member : MemberFact) : Bool :=
  match member.baseDeclaringType? with
  | some base => base != member.declaringType
  | none => false

/-- The one modifier of a member that may have several: the first that applies. -/
def modifier? (member : MemberFact) : Option String :=
  if member.isAbstract then some "abstract"
  else if member.isVirtual && !member.isFinal && !member.isOverride then some "virtual"
  else if member.isOverride then some "override"
  else if member.isFinal && member.isVirtual then some "sealed"
  else none

/-- The words at the start of a signature. -/
def leadingWords
    (member : MemberFact)
    (isStatic : Bool)
    (modifier? : Option String) : List String :=
  [member.accessibility.word] ++ (if isStatic then ["static"] else []) ++ modifier?.toList

/-- The words at the start of a signature with a modifier. -/
def modifiedWords (member : MemberFact) : List String :=
  member.leadingWords member.isStatic member.modifier?

/-- The type of a member as it is written in source. -/
def typeText (member : MemberFact) : String :=
  TypeRef.sourceTextOf member.typeRef?

/-- Whether a field is a constant. -/
def isConstant (member : MemberFact) : Bool :=
  member.isLiteral && !member.isInitOnly

/-- The signature of a method. -/
def methodSignature
    (member : MemberFact)
    (parameters : List ParameterDescriptor)
    (genericNames : List String) : String :=
  let generics :=
    if genericNames.isEmpty then "" else "<" ++ ", ".intercalate genericNames ++ ">"
  " ".intercalate
    (member.modifiedWords ++
      [member.typeText,
        member.name ++ generics ++ "(" ++ ParameterDescriptor.signatureTexts parameters ++ ")"])

/-- The signature of a property. -/
def propertySignature
    (member : MemberFact)
    (parameters : List ParameterDescriptor) : String :=
  let name :=
    if parameters.isEmpty then member.name
    else "this[" ++ ParameterDescriptor.signatureTexts parameters ++ "]"
  let accessors :=
    "\x7b " ++ (if member.canRead then "get; " else "") ++
      (if member.canWrite then "set; " else "") ++ "\x7d"
  " ".intercalate (member.modifiedWords ++ [member.typeText, name, accessors])

/-- The signature of a field.  A constant is static without saying so. -/
def fieldSignature (member : MemberFact) : String :=
  " ".intercalate
    (member.leadingWords (member.isStatic && !member.isConstant) none ++
      (if member.isConstant then ["const"] else if member.isInitOnly then ["readonly"] else []) ++
      (if member.isVolatile then ["volatile"] else []) ++ [member.typeText, member.name])

/-- The signature of an event. -/
def eventSignature (member : MemberFact) : String :=
  " ".intercalate (member.modifiedWords ++ ["event", member.typeText, member.name])

/-- The signature of a constructor, which has the name of its type. -/
def constructorSignature
    (member : MemberFact)
    (parameters : List ParameterDescriptor) : String :=
  " ".intercalate
    (member.leadingWords member.isStatic none ++
      [QualifiedName.stripArity (QualifiedName.simpleName member.declaringType) ++ "(" ++
        ParameterDescriptor.signatureTexts parameters ++ ")"])

/-- Whether a method implements access to a property or an event. -/
def isAccessor (member : MemberFact) : Bool :=
  member.kind = .method && member.isSpecialName &&
    ["get_", "set_", "add_", "remove_"].any fun start => Text.startsWith member.name start

/-- Whether a method implements an operator. -/
def isOperator (member : MemberFact) : Bool :=
  member.isSpecialName && member.isStatic &&
    (Text.startsWith member.name "op_" || member.name == "True" || member.name == "False")

end MemberFact

/-!
## Descriptors of members

What is shown of a member: fields that every member has, and a part of its own for each kind.
-/

/-- What is shown of the members of one kind only. -/
inductive MemberPart where
  | method
      (parameters : List ParameterDescriptor)
      (genericNames : List String)
      (isOperator isExtension : Bool)
  | property
      (canRead canWrite : Bool)
      (parameters : List ParameterDescriptor)
      (getter? setter? : Option Accessibility)
  | field
      (isConstant isReadOnly isVolatile : Bool)
      (constantValue : Value)
  | event (add? remove? : Option Accessibility)
  | constructor (parameters : List ParameterDescriptor) (isStaticInitializer : Bool)
deriving Repr

/-- The kind of member that a part belongs to. -/
def MemberPart.kind : MemberPart → MemberKind
  | .method .. => .method
  | .property .. => .property
  | .field .. => .field
  | .event .. => .event
  | .constructor .. => .constructor

/-- A member as it is shown. -/
structure MemberDescriptor where
  part : MemberPart
  name : String
  typeName : String
  accessibility : Accessibility
  signature : String
  declaringType : String
  order : Int
  isStatic : Bool
  isVirtual : Bool
  isAbstract : Bool
  isSealed : Bool
  isOverride : Bool
  attributes : List AttributeDescriptor
  docs? : Option DocsDescriptor
deriving Repr

namespace MemberDescriptor

/-- The kind of the member. -/
def kind (descriptor : MemberDescriptor) : MemberKind :=
  descriptor.part.kind

/-- The name that filters and sorting use.  Constructors share one name, so their signature stands
for it. -/
def nameKey (descriptor : MemberDescriptor) : String :=
  match descriptor.part with
  | .constructor .. => descriptor.signature
  | _ => descriptor.name

/-- The part of a member that its kind alone has. -/
def partOf (member : MemberFact) : MemberPart :=
  match member.kind with
  | .method =>
    .method (ParameterDescriptor.describeAll member.parameters)
      ((GenericParameterDescriptor.inOrder member.genericParameters).map
        GenericParameterFact.name)
      member.isOperator member.isExtension
  | .property =>
    .property member.canRead member.canWrite (ParameterDescriptor.describeAll member.parameters)
      member.getterAccessibility? member.setterAccessibility?
  | .field =>
    .field member.isConstant member.isInitOnly member.isVolatile
      (if member.isConstant then member.constantValue else .null)
  | .event => .event member.addAccessibility? member.removeAccessibility?
  | .constructor =>
    .constructor (ParameterDescriptor.describeAll member.parameters) member.isStatic

/-- The signature of a member with a part. -/
def signatureOf
    (member : MemberFact) : MemberPart → String
  | .method parameters genericNames _ _ => member.methodSignature parameters genericNames
  | .property _ _ parameters _ _ => member.propertySignature parameters
  | .field .. => member.fieldSignature
  | .event .. => member.eventSignature
  | .constructor parameters _ => member.constructorSignature parameters

/-- Describes a member. -/
def describe (member : MemberFact) : MemberDescriptor :=
  let part := partOf member
  ⟨part,
    member.name,
    if member.kind = .constructor then TypeRef.absentText else member.typeText,
    member.accessibility,
    signatureOf member part,
    member.declaringType,
    member.token,
    member.isStatic,
    member.isVirtual && !member.isFinal,
    member.isAbstract,
    member.isFinal && member.isVirtual,
    member.isOverride,
    AttributeDescriptor.describeAll member.attributes,
    DocsDescriptor.describe member.docs?⟩

/-- The fields of a part. -/
def partFields
    (typeName : String) : MemberPart → List (String × Value)
  | .method parameters genericNames isOperator isExtension =>
    [("parameters", .list (parameters.map ParameterDescriptor.toValue)),
      ("generic_parameters", .ofTexts genericNames), ("is_operator", .bool isOperator),
      ("is_extension", .bool isExtension)]
  | .property canRead canWrite parameters getter? setter? =>
    [("can_read", .bool canRead), ("can_write", .bool canWrite),
      ("is_indexer", .bool !parameters.isEmpty),
      ("indexer_parameters", .list (parameters.map ParameterDescriptor.toValue)),
      ("getter_accessibility", MemberFact.accessibilityValue getter?),
      ("setter_accessibility", MemberFact.accessibilityValue setter?)]
  | .field isConstant isReadOnly isVolatile constantValue =>
    [("is_const", .bool isConstant), ("is_readonly", .bool isReadOnly),
      ("is_volatile", .bool isVolatile), ("constant_value", constantValue)]
  | .event add? remove? =>
    [("handler_type", .text typeName), ("add_accessibility", MemberFact.accessibilityValue add?),
      ("remove_accessibility", MemberFact.accessibilityValue remove?)]
  | .constructor parameters isStaticInitializer =>
    [("parameters", .list (parameters.map ParameterDescriptor.toValue)),
      ("is_static_initializer", .bool isStaticInitializer)]

/-- A member as a value. -/
def toValue (descriptor : MemberDescriptor) : Value :=
  .record
    ([("kind", .text descriptor.kind.word), ("name", .text descriptor.name),
      ("type", .text descriptor.typeName),
      ("accessibility", .text descriptor.accessibility.word),
      ("signature", .text descriptor.signature),
      ("declaring_type", .text descriptor.declaringType),
      ("is_static", .bool descriptor.isStatic), ("is_virtual", .bool descriptor.isVirtual),
      ("is_abstract", .bool descriptor.isAbstract), ("is_sealed", .bool descriptor.isSealed),
      ("is_override", .bool descriptor.isOverride),
      ("attributes", .list (descriptor.attributes.map AttributeDescriptor.toValue))] ++
      partFields descriptor.typeName descriptor.part)

/-- Describes the members of certain kinds in a list; methods that implement access to a property
or an event are not shown. -/
def describeAll
    (kinds : List MemberKind)
    (members : List MemberFact) : List MemberDescriptor :=
  (members.filter fun member => kinds.contains member.kind && !member.isAccessor).map describe

end MemberDescriptor

end TypeCatalog
