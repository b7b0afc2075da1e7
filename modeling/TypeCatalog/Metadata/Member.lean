import TypeCatalog.Metadata.Facts
import TypeCatalog.Schema.Checked

namespace TypeCatalog

/-!
# Members

A member as it is seen on a type, declared there or inherited.
-/

/-- A member.  The declaring type is the full name of the type that declares it; the base
declaring type names the type with the root definition of a virtual member. -/
structure MemberFact where
  kind : MemberKind
  name : String
  declaringType : String
  accessibility : Accessibility
  token : Int
  typeRef? : Option TypeRef
  parameters : List ParameterFact
  genericParameters : List GenericParameterFact
  attributes : List AttributeFact
  docs? : Option DocBlock
  isStatic : Bool
  isVirtual : Bool
  isAbstract : Bool
  isFinal : Bool
  isSpecialName : Bool
  baseDeclaringType? : Option String
  isExtension : Bool
  canRead : Bool
  canWrite : Bool
  getterAccessibility? : Option Accessibility
  setterAccessibility? : Option Accessibility
  isLiteral : Bool
  isInitOnly : Bool
  isVolatile : Bool
  constantValue : Value
  addAccessibility? : Option Accessibility
  removeAccessibility? : Option Accessibility
deriving Repr

namespace MemberFact

/-- Checks a value as an accessibility. -/
def checkAccessibility : Schema.Check Accessibility :=
  Schema.choice (Accessibility.all.map fun accessibility => (accessibility.word, accessibility))

/-- Reads a member from the entries of a mapping, where there is room for so many references inside
one another. -/
def ofEntries
    (room : Nat)
    (entries : List (Key × Value)) : Schema.Checked MemberFact :=
  MemberFact.mk
    <$> Schema.required entries "kind"
      (Schema.choice (MemberKind.all.map fun kind => (kind.word, kind)))
    <*> Schema.required entries "name" Schema.text
    <*> Schema.required entries "declaring_type" Schema.text
    <*> Schema.optional entries "accessibility" .public checkAccessibility
    <*> Schema.optional entries "token" 0 Schema.whole
    <*> Schema.optional entries "type" none (Schema.nullable (TypeRef.checkInside room))
    <*> Schema.optional entries "parameters" [] (Schema.sequenceOf (ParameterFact.check room))
    <*> Schema.optional entries "generic_parameters" []
      (Schema.sequenceOf (GenericParameterFact.check room))
    <*> Schema.optional entries "attributes" [] (Schema.sequenceOf AttributeFact.check)
    <*> Schema.optional entries "docs" none (Schema.nullable DocBlock.check)
    <*> Schema.optional entries "is_static" false Schema.truth
    <*> Schema.optional entries "is_virtual" false Schema.truth
    <*> Schema.optional entries "is_abstract" false Schema.truth
    <*> Schema.optional entries "is_final" false Schema.truth
    <*> Schema.optional entries "is_special_name" false Schema.truth
    <*> Schema.optional entries "base_declaring_type" none (Schema.nullable Schema.text)
    <*> Schema.optional entries "is_extension" false Schema.truth
    <*> Schema.optional entries "can_read" false Schema.truth
    <*> Schema.optional entries "can_write" false Schema.truth
    <*> Schema.optional entries "getter_accessibility" none (Schema.nullable checkAccessibility)
    <*> Schema.optional entries "setter_accessibility" none (Schema.nullable checkAccessibility)
    <*> Schema.optional entries "is_literal" false Schema.truth
    <*> Schema.optional entries "is_init_only" false Schema.truth
    <*> Schema.optional entries "is_volatile" false Schema.truth
    <*> Schema.optional entries "constant_value" .null Schema.anything
    <*> Schema.optional entries "add_accessibility" none (Schema.nullable checkAccessibility)
    <*> Schema.optional entries "remove_accessibility" none (Schema.nullable checkAccessibility)

/-- Checks a value as a member, where there is room for so many references inside one another.
Parameters that do not say their position get the one at which they stand. -/
def checkWithin (room : Nat) : Schema.Check MemberFact :=
  Schema.recordOf "RawMember" fun entries =>
    ((Schema.completeItems "parameters" Schema.positionDefault entries).andThen
      (Schema.completeItems "generic_parameters" Schema.positionDefault)).andThen
        (ofEntries room)

/-- Checks a value as a member. -/
def check : Schema.Check MemberFact :=
  checkWithin Limits.checkedDepth

/-- An accessibility, if any, as a value. -/
def accessibilityValue : Option Accessibility → Value
  | some accessibility => .text accessibility.word
  | none => .null

/-- A member as a value. -/
def toValue (member : MemberFact) : Value :=
  .record
    [("kind", .text member.kind.word), ("name", .text member.name),
      ("declaring_type", .text member.declaringType),
      ("accessibility", .text member.accessibility.word), ("token", .int member.token),
      ("type", TypeRef.optionToValue member.typeRef?),
      ("parameters", .list (member.parameters.map ParameterFact.toValue)),
      ("generic_parameters", .list (member.genericParameters.map GenericParameterFact.toValue)),
      ("attributes", .list (member.attributes.map AttributeFact.toValue)),
      ("docs", (member.docs?.map DocBlock.toValue).getD .null),
      ("is_static", .bool member.isStatic), ("is_virtual", .bool member.isVirtual),
      ("is_abstract", .bool member.isAbstract), ("is_final", .bool member.isFinal),
      ("is_special_name", .bool member.isSpecialName),
      ("base_declaring_type", .ofText? member.baseDeclaringType?),
      ("is_extension", .bool member.isExtension), ("can_read", .bool member.canRead),
      ("can_write", .bool member.canWrite),
      ("getter_accessibility", accessibilityValue member.getterAccessibility?),
      ("setter_accessibility", accessibilityValue member.setterAccessibility?),
      ("is_literal", .bool member.isLiteral), ("is_init_only", .bool member.isInitOnly),
      ("is_volatile", .bool member.isVolatile), ("constant_value", member.constantValue),
      ("add_accessibility", accessibilityValue member.addAccessibility?),
      ("remove_accessibility", accessibilityValue member.removeAccessibility?)]

end MemberFact

end TypeCatalog
