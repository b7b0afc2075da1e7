import TypeCatalog.Proofs.Describe.NestedTypes

namespace TypeCatalog

/-!
# Attributes that cannot be read

An attribute with a load error cannot be read.  The type, the member or the parameter that it stands
on is then shown without attributes, and everything else is shown as if all attributes could be
read: other owners keep their attributes, and what cannot be described fails in the same way.
-/

/-! ## Load errors -/

namespace AttributeFact

/-- Whether an attribute has a load error; an empty one is none. -/
def isUnreadable (fact : AttributeFact) : Bool :=
  fact.loadError?.any fun error => !error.isEmpty

/-- An attribute without its load error. -/
def withoutLoadError (fact : AttributeFact) : AttributeFact :=
  { fact with loadError? := none }

end AttributeFact

/-- A parameter without the load errors of its attributes. -/
def ParameterFact.withoutLoadErrors (fact : ParameterFact) : ParameterFact :=
  { fact with attributes := fact.attributes.map AttributeFact.withoutLoadError }

/-- A member without the load errors of its attributes and of those of its parameters. -/
def MemberFact.withoutLoadErrors (member : MemberFact) : MemberFact :=
  { member with
    parameters := member.parameters.map ParameterFact.withoutLoadErrors
    attributes := member.attributes.map AttributeFact.withoutLoadError }

namespace TypeDefinition

mutual

/-- A type without load errors anywhere in it. -/
def withoutLoadErrors : TypeDefinition → TypeDefinition
  | ⟨fullName, kind, accessibility, token, isAbstract, isSealed, isGenericDefinition,
      declaringType?, baseType?, interfaces, attributes, genericParameters, members, docs?,
      nestedTypes⟩ =>
    ⟨fullName, kind, accessibility, token, isAbstract, isSealed, isGenericDefinition,
      declaringType?, baseType?, interfaces, attributes.map AttributeFact.withoutLoadError,
      genericParameters, members.map MemberFact.withoutLoadErrors, docs?,
      listWithoutLoadErrors nestedTypes⟩

/-- Types without load errors anywhere in them. -/
def listWithoutLoadErrors : List TypeDefinition → List TypeDefinition
  | [] => []
  | type :: rest => withoutLoadErrors type :: listWithoutLoadErrors rest

end

end TypeDefinition

/-- A module without load errors. -/
def ModuleDefinition.withoutLoadErrors (definition : ModuleDefinition) : ModuleDefinition :=
  { definition with types := TypeDefinition.listWithoutLoadErrors definition.types }

/-- Whether each attribute of a parameter can be read. -/
def ParameterFact.Readable (fact : ParameterFact) : Prop :=
  fact.attributes.any AttributeFact.isUnreadable = false

/-- Whether each attribute of a member and of its parameters can be read. -/
def MemberFact.Readable (member : MemberFact) : Prop :=
  member.attributes.any AttributeFact.isUnreadable = false ∧
    ∀ parameter ∈ member.parameters, parameter.Readable

/-- Whether each attribute of a type and of its members can be read. -/
def TypeDefinition.Readable (type : TypeDefinition) : Prop :=
  type.attributes.any AttributeFact.isUnreadable = false ∧
    ∀ member ∈ type.members, member.Readable

/-- Whether each attribute in a module can be read. -/
def ModuleDefinition.Readable (definition : ModuleDefinition) : Prop :=
  ∀ type ∈ definition.allTypes, type.Readable

namespace TypeDefinition

section Fields

variable (type : TypeDefinition)

@[simp]
theorem fullName_withoutLoadErrors : type.withoutLoadErrors.fullName = type.fullName := by
  cases type
  rfl

@[simp]
theorem siblingKey_withoutLoadErrors : type.withoutLoadErrors.siblingKey = type.siblingKey := by
  cases type
  rfl

@[simp]
theorem shownReferences_withoutLoadErrors :
    type.withoutLoadErrors.shownReferences = type.shownReferences := by
  cases type
  rfl

@[simp]
theorem members_withoutLoadErrors :
    type.withoutLoadErrors.members = type.members.map MemberFact.withoutLoadErrors := by
  cases type
  rfl

end Fields

theorem listWithoutLoadErrors_eq_map (types : List TypeDefinition) :
    listWithoutLoadErrors types = types.map withoutLoadErrors := by
  induction types with
  | nil =>
      rfl
  | cons type rest inductionHypothesis =>
      rw [listWithoutLoadErrors, inductionHypothesis, List.map_cons]

theorem nestedTypes_withoutLoadErrors (type : TypeDefinition) :
    type.withoutLoadErrors.nestedTypes = type.nestedTypes.map withoutLoadErrors := by
  cases type
  exact listWithoutLoadErrors_eq_map _

theorem flatten_withoutLoadErrors (type : TypeDefinition) :
    type.withoutLoadErrors.flatten = type.flatten.map withoutLoadErrors := by
  induction type using nestedInduction with
  | nest type inductionHypothesis =>
      rw [flatten_eq, flatten_eq, nestedTypes_withoutLoadErrors, List.flatMap_map, List.map_cons,
        List.map_flatMap]
      congr 1
      exact List.flatMap_congr inductionHypothesis

/-- What is nested in a type that is nested in another one is nested in that one. -/
theorem mem_flatten_trans
    {type found inner : TypeDefinition}
    (isFound : found ∈ type.flatten)
    (isInner : inner ∈ found.flatten) :
    inner ∈ type.flatten := by
  induction type using nestedInduction with
  | nest type inductionHypothesis =>
      rw [flatten_eq, List.mem_cons, List.mem_flatMap] at isFound
      rcases isFound with rfl | ⟨nested, member, isFound⟩
      · exact isInner
      · rw [flatten_eq, List.mem_cons, List.mem_flatMap]
        exact .inr ⟨nested, member, inductionHypothesis nested member isFound⟩

end TypeDefinition

theorem ModuleDefinition.allTypes_withoutLoadErrors (definition : ModuleDefinition) :
    definition.withoutLoadErrors.allTypes =
      definition.allTypes.map TypeDefinition.withoutLoadErrors := by
  rw [allTypes, withoutLoadErrors, TypeDefinition.listWithoutLoadErrors_eq_map,
    TypeDefinition.flattenAll_eq_flatMap, List.flatMap_map, allTypes,
    TypeDefinition.flattenAll_eq_flatMap, List.map_flatMap]
  exact List.flatMap_congr fun type _ => type.flatten_withoutLoadErrors

/-! ## Attributes of one owner -/

namespace AttributeDescriptor

/-- What is left of the attributes that an owner shows if one of its attributes cannot be read. -/
def leftOf
    (facts : List AttributeFact)
    (shown : List AttributeDescriptor) : List AttributeDescriptor :=
  if facts.any AttributeFact.isUnreadable then [] else shown

theorem leftOf_eq_self
    {facts : List AttributeFact}
    (readable : facts.any AttributeFact.isUnreadable = false)
    (shown : List AttributeDescriptor) :
    leftOf facts shown = shown := by
  rw [leftOf, readable, if_neg Bool.false_ne_true]

theorem describe?_eq (fact : AttributeFact) :
    describe? fact = if fact.isUnreadable then none else describe? fact.withoutLoadError := by
  rw [describe?, AttributeFact.isUnreadable]
  cases fact.loadError? with
  | none =>
      rfl
  | some error =>
      cases isEmpty : error.isEmpty <;> simp [isEmpty, describe?, AttributeFact.withoutLoadError]

theorem mapM_describe?_eq (facts : List AttributeFact) :
    facts.mapM describe? =
      if facts.any AttributeFact.isUnreadable then none
      else (facts.map AttributeFact.withoutLoadError).mapM describe? := by
  induction facts with
  | nil =>
      rfl
  | cons fact rest inductionHypothesis =>
      rw [List.mapM_cons, inductionHypothesis, describe?_eq, List.any_cons, List.map_cons,
        List.mapM_cons]
      cases fact.isUnreadable with
      | true => rfl
      | false =>
          cases rest.any AttributeFact.isUnreadable with
          | true => cases describe? fact.withoutLoadError <;> rfl
          | false => rfl

/-- An owner shows all of its attributes, or none if one of them cannot be read. -/
theorem describeAll_eq_leftOf (facts : List AttributeFact) :
    describeAll facts = leftOf facts (describeAll (facts.map AttributeFact.withoutLoadError)) := by
  rw [describeAll, mapM_describe?_eq, leftOf, describeAll]
  split <;> rfl

end AttributeDescriptor

/-! ## Parameters -/

namespace ParameterFact

/-- Parameters in the order of their positions. -/
def inOrder (facts : List ParameterFact) : List ParameterFact :=
  facts.mergeSort fun first second => decide (first.position ≤ second.position)

theorem inOrder_map_withoutLoadErrors (facts : List ParameterFact) :
    inOrder (facts.map withoutLoadErrors) = (inOrder facts).map withoutLoadErrors := by
  symm
  apply List.map_mergeSort
  intro first _ second _
  rfl

theorem firstFault?_map_withoutLoadErrors (facts : List ParameterFact) :
    firstFault? (facts.map withoutLoadErrors) = firstFault? facts := by
  change (inOrder _).findSome? describeFault? = (inOrder facts).findSome? describeFault?
  rw [inOrder_map_withoutLoadErrors, List.findSome?_map]
  rfl

/-- Whether the type of a parameter has a text, and its default value as well. -/
def HasTexts (fact : ParameterFact) : Prop :=
  fact.typeRef.textFault? = none ∧
    (fact.hasDefault = true → fact.defaultValue.hasLongNumber = false)

theorem describeFault?_eq_none_iff (fact : ParameterFact) :
    fact.describeFault? = none ↔ fact.HasTexts := by
  rw [describeFault?, Option.or_eq_none_iff, HasTexts]
  cases fact.hasDefault <;> cases fact.defaultValue.hasLongNumber <;> simp

theorem firstFault?_eq_none_iff (facts : List ParameterFact) :
    firstFault? facts = none ↔ ∀ fact ∈ facts, fact.HasTexts := by
  simp only [firstFault?, List.findSome?_eq_none_iff, List.mem_mergeSort,
    describeFault?_eq_none_iff]

end ParameterFact

namespace ParameterDescriptor

/-- What is left of a parameter that is shown if one of its attributes cannot be read. -/
def leftOf
    (fact : ParameterFact)
    (descriptor : ParameterDescriptor) : ParameterDescriptor :=
  { descriptor with
    attributes := AttributeDescriptor.leftOf fact.attributes descriptor.attributes }

/-- What is left of each of the parameters that are shown. -/
def leftOfEach
    (facts : List ParameterFact)
    (descriptors : List ParameterDescriptor) : List ParameterDescriptor :=
  List.zipWith leftOf (ParameterFact.inOrder facts) descriptors

theorem describe_eq_leftOf (fact : ParameterFact) :
    describe fact = leftOf fact (describe fact.withoutLoadErrors) := by
  rw [describe, AttributeDescriptor.describeAll_eq_leftOf]
  rfl

theorem describe_withoutLoadErrors
    {fact : ParameterFact}
    (readable : fact.Readable) :
    describe fact.withoutLoadErrors = describe fact := by
  rw [describe_eq_leftOf fact, leftOf, AttributeDescriptor.leftOf_eq_self readable]

theorem describeAll_map_withoutLoadErrors (facts : List ParameterFact) :
    describeAll (facts.map ParameterFact.withoutLoadErrors) =
      (ParameterFact.inOrder facts).map fun fact => describe fact.withoutLoadErrors := by
  change (ParameterFact.inOrder _).map describe = _
  rw [ParameterFact.inOrder_map_withoutLoadErrors, List.map_map]
  rfl

theorem describeAll_eq_leftOfEach (facts : List ParameterFact) :
    describeAll facts =
      leftOfEach facts (describeAll (facts.map ParameterFact.withoutLoadErrors)) := by
  rw [describeAll_map_withoutLoadErrors, leftOfEach, List.zipWith_map_right, List.zipWith_self]
  exact List.map_congr_left fun fact _ => describe_eq_leftOf fact

theorem describeAll_of_readable
    {facts : List ParameterFact}
    (readable : ∀ fact ∈ facts, fact.Readable) :
    describeAll (facts.map ParameterFact.withoutLoadErrors) = describeAll facts := by
  rw [describeAll_map_withoutLoadErrors]
  refine List.map_congr_left fun fact member => describe_withoutLoadErrors (readable fact ?_)
  exact List.mem_mergeSort.mp member

/-- A signature shows no attributes. -/
theorem signatureTexts_map_withoutLoadErrors (facts : List ParameterFact) :
    signatureTexts (describeAll (facts.map ParameterFact.withoutLoadErrors)) =
      signatureTexts (describeAll facts) := by
  rw [describeAll_map_withoutLoadErrors, signatureTexts, signatureTexts, List.map_map]
  change _ = ", ".intercalate (((ParameterFact.inOrder facts).map describe).map signatureText)
  rw [List.map_map]
  rfl

theorem isEmpty_describeAll_map_withoutLoadErrors (facts : List ParameterFact) :
    (describeAll (facts.map ParameterFact.withoutLoadErrors)).isEmpty =
      (describeAll facts).isEmpty := by
  rw [describeAll_map_withoutLoadErrors, List.isEmpty_map]
  exact List.isEmpty_map.symm

end ParameterDescriptor

/-! ## Members -/

namespace MemberFact

/-- The parameters that a member shows. -/
def shownParameters (member : MemberFact) : List ParameterFact :=
  match member.kind with
  | .method | .property | .constructor => member.parameters
  | .field | .event => []

/-- Whether the types and default values that a member shows have texts. -/
def HasTexts (member : MemberFact) : Prop :=
  (∀ reference ∈ member.typeRef?, reference.textFault? = none) ∧
    ∀ parameter ∈ member.shownParameters, parameter.HasTexts

theorem describeFault?_withoutLoadErrors (member : MemberFact) :
    member.withoutLoadErrors.describeFault? = member.describeFault? := by
  have parameterFault := ParameterFact.firstFault?_map_withoutLoadErrors member.parameters
  rw [describeFault?, describeFault?, withoutLoadErrors]
  simp only [parameterFault]

theorem describeFault?_eq_none_iff (member : MemberFact) :
    member.describeFault? = none ↔ member.HasTexts := by
  have typeHasText :
      TypeRef.elementFault? member.typeRef? = none ↔
        ∀ reference ∈ member.typeRef?, reference.textFault? = none := by
    rw [TypeRef.elementFault?_eq_findSome?, List.findSome?_eq_none_iff]
    simp
  rw [describeFault?, Option.or_eq_none_iff, typeHasText, HasTexts, shownParameters]
  cases member.kind <;> simp [ParameterFact.firstFault?_eq_none_iff]

/-- The members of certain kinds that are shown of a list. -/
def shownAmong
    (kinds : List MemberKind)
    (members : List MemberFact) : List MemberFact :=
  members.filter fun member => kinds.contains member.kind && !member.isAccessor

theorem firstFault?_eq
    (kinds : List MemberKind)
    (members : List MemberFact) :
    firstFault? kinds members = (shownAmong kinds members).findSome? describeFault? :=
  rfl

theorem shownAmong_map_withoutLoadErrors
    (kinds : List MemberKind)
    (members : List MemberFact) :
    shownAmong kinds (members.map withoutLoadErrors) =
      (shownAmong kinds members).map withoutLoadErrors := by
  rw [shownAmong, List.filter_map]
  rfl

/-- What cannot be described of members is not in their attributes. -/
theorem firstFault?_map_withoutLoadErrors
    (kinds : List MemberKind)
    (members : List MemberFact) :
    firstFault? kinds (members.map withoutLoadErrors) = firstFault? kinds members := by
  have sameFaults : describeFault? ∘ withoutLoadErrors = describeFault? :=
    funext describeFault?_withoutLoadErrors
  rw [firstFault?_eq, shownAmong_map_withoutLoadErrors, List.findSome?_map, sameFaults,
    firstFault?_eq]

end MemberFact

theorem Visibility.membersOf_withoutLoadErrors
    (visibility : Visibility)
    (type : TypeDefinition) :
    visibility.membersOf type.withoutLoadErrors =
      (visibility.membersOf type).map MemberFact.withoutLoadErrors := by
  rw [membersOf, TypeDefinition.members_withoutLoadErrors,
    TypeDefinition.fullName_withoutLoadErrors, List.filter_map]
  rfl

/-- What is left of the parameters in a part if attributes of them cannot be read. -/
def MemberPart.leftOf
    (facts : List ParameterFact) : MemberPart → MemberPart
  | .method parameters genericNames isOperator isExtension =>
    .method (ParameterDescriptor.leftOfEach facts parameters) genericNames isOperator isExtension
  | .property canRead canWrite parameters getter? setter? =>
    .property canRead canWrite (ParameterDescriptor.leftOfEach facts parameters) getter? setter?
  | .constructor parameters isStaticInitializer =>
    .constructor (ParameterDescriptor.leftOfEach facts parameters) isStaticInitializer
  | .field isConstant isReadOnly isVolatile constantValue =>
    .field isConstant isReadOnly isVolatile constantValue
  | .event add? remove? => .event add? remove?

namespace MemberDescriptor

/-- What is left of a member that is shown if attributes of it or of its parameters cannot be
read. -/
def leftOf
    (member : MemberFact)
    (descriptor : MemberDescriptor) : MemberDescriptor :=
  { descriptor with
    part := descriptor.part.leftOf member.parameters
    attributes := AttributeDescriptor.leftOf member.attributes descriptor.attributes }

theorem partOf_eq_leftOf (member : MemberFact) :
    partOf member = (partOf member.withoutLoadErrors).leftOf member.parameters := by
  have parametersLeft := ParameterDescriptor.describeAll_eq_leftOfEach member.parameters
  rw [partOf, partOf, MemberFact.withoutLoadErrors]
  cases member.kind <;> simp only [MemberPart.leftOf, ← parametersLeft] <;> rfl

/-- A signature shows no attributes. -/
theorem signatureOf_withoutLoadErrors (member : MemberFact) :
    signatureOf member.withoutLoadErrors (partOf member.withoutLoadErrors) =
      signatureOf member (partOf member) := by
  have texts := ParameterDescriptor.signatureTexts_map_withoutLoadErrors member.parameters
  have someShown := ParameterDescriptor.isEmpty_describeAll_map_withoutLoadErrors member.parameters
  have sameWords (part : MemberPart) :
      signatureOf member.withoutLoadErrors part = signatureOf member part := by
    cases part <;> rfl
  rw [sameWords, partOf, partOf, MemberFact.withoutLoadErrors]
  cases member.kind with
  | method => simp only [signatureOf, MemberFact.methodSignature, texts]
  | property => simp only [signatureOf, MemberFact.propertySignature, texts, someShown]
  | constructor => simp only [signatureOf, MemberFact.constructorSignature, texts]
  | field | event => rfl

/-- A member is shown as without load errors, but for attributes. -/
theorem describe_eq_leftOf (member : MemberFact) :
    describe member = leftOf member (describe member.withoutLoadErrors) := by
  rw [describe, ← signatureOf_withoutLoadErrors, partOf_eq_leftOf,
    AttributeDescriptor.describeAll_eq_leftOf]
  rfl

theorem describe_withoutLoadErrors
    {member : MemberFact}
    (readable : member.Readable) :
    describe member.withoutLoadErrors = describe member := by
  have parameters := ParameterDescriptor.describeAll_of_readable readable.2
  have samePart : partOf member.withoutLoadErrors = partOf member := by
    rw [partOf, partOf, MemberFact.withoutLoadErrors]
    cases member.kind <;> simp only [parameters] <;> rfl
  rw [describe_eq_leftOf member, leftOf, AttributeDescriptor.leftOf_eq_self readable.1]
  change describe member.withoutLoadErrors =
    { describe member.withoutLoadErrors with
      part := (partOf member.withoutLoadErrors).leftOf member.parameters }
  rw [← partOf_eq_leftOf, ← samePart]
  rfl

end MemberDescriptor

/-! ## Types -/

namespace TypeDefinition

/-- The nested types that are shown are chosen and sorted without regard to attributes. -/
theorem shownNested_withoutLoadErrors
    (outer : List String)
    (type : TypeDefinition) :
    type.withoutLoadErrors.shownNested outer =
      (type.shownNested outer).map withoutLoadErrors := by
  rw [shownNested, shownNested, nestedTypes_withoutLoadErrors, List.filter_map]
  simp only [Function.comp_def, fullName_withoutLoadErrors]
  symm
  apply List.map_mergeSort
  intro first _ second _
  rw [siblingKey_withoutLoadErrors, siblingKey_withoutLoadErrors]

/-- What cannot be described of a type is not in its attributes. -/
theorem faultWithin?_withoutLoadErrors
    (outer : List String)
    (type : TypeDefinition) :
    faultWithin? outer type.withoutLoadErrors = faultWithin? outer type := by
  induction type using nestedInduction generalizing outer with
  | nest type inductionHypothesis =>
      have sameFaults :
          (type.shownNested outer).map
              (faultWithin? (type.fullName :: outer) ∘ withoutLoadErrors) =
            (type.shownNested outer).map (faultWithin? (type.fullName :: outer)) := by
        refine List.map_congr_left fun nested isShown => inductionHypothesis nested ?_ _
        exact ((showsNested_shownNested outer type).mem_iff.mp isShown).1
      have sameFault := congrArg (List.findSome? id) sameFaults
      rw [List.findSome?_map, List.findSome?_map] at sameFault
      rw [faultWithin?_eq, faultWithin?_eq, shownNested_withoutLoadErrors, List.findSome?_map,
        fullName_withoutLoadErrors, shownReferences_withoutLoadErrors]
      exact congrArg (Option.or · _) sameFault

end TypeDefinition

namespace TypeDescriptor

/-- Whether a description is what is left of another one of the same type if some attributes cannot
be read: the attributes of each type are gone where one of them cannot be read, and nothing else. -/
inductive LeftOf : List String → TypeDefinition → TypeDescriptor → TypeDescriptor → Prop
  | node
      {outer : List String}
      {type : TypeDefinition}
      {shown : List TypeDefinition}
      (descriptor : TypeDescriptor)
      (before after : TypeDefinition → TypeDescriptor)
      (shows : type.ShowsNested outer shown)
      (leftOfNested : ∀ nested ∈ shown,
        LeftOf (type.fullName :: outer) nested (before nested) (after nested)) :
      LeftOf outer type
        { descriptor with nestedTypes := shown.map before }
        { descriptor with
          attributes := AttributeDescriptor.leftOf type.attributes descriptor.attributes
          nestedTypes := shown.map after }

theorem ofDefinition_eq
    (moduleName : String)
    (type : TypeDefinition)
    (nested : List TypeDescriptor) :
    ofDefinition moduleName type nested =
      { ofDefinition moduleName type [] with nestedTypes := nested } := by
  simp only [ofDefinition]

theorem ofDefinition_eq_leftOf
    (moduleName : String)
    (type : TypeDefinition)
    (nested : List TypeDescriptor) :
    ofDefinition moduleName type nested =
      { ofDefinition moduleName type.withoutLoadErrors [] with
        attributes :=
          AttributeDescriptor.leftOf type.attributes
            (ofDefinition moduleName type.withoutLoadErrors []).attributes
        nestedTypes := nested } := by
  cases type
  simp only [ofDefinition, TypeDefinition.withoutLoadErrors, TypeDefinition.simpleName,
    TypeDefinition.namespaceOf, TypeDefinition.isStatic, TypeDefinition.isNested,
    ← AttributeDescriptor.describeAll_eq_leftOf]

/-- A type is described as without load errors, but for attributes. -/
theorem leftOf_describeWithin
    (moduleName : String)
    (type : TypeDefinition)
    (outer : List String) :
    LeftOf outer type (describeWithin moduleName outer type.withoutLoadErrors)
      (describeWithin moduleName outer type) := by
  induction type using TypeDefinition.nestedInduction generalizing outer with
  | nest type inductionHypothesis =>
      have shows := TypeDefinition.showsNested_shownNested outer type
      rw [describeWithin_eq, describeWithin_eq moduleName outer type,
        ofDefinition_eq_leftOf moduleName type, ofDefinition_eq moduleName type.withoutLoadErrors,
        TypeDefinition.shownNested_withoutLoadErrors, List.map_map,
        TypeDefinition.fullName_withoutLoadErrors]
      exact .node (ofDefinition moduleName type.withoutLoadErrors []) _ _ shows
        fun nested isShown => inductionHypothesis nested (shows.mem_iff.mp isShown).1 _

/-- Where all attributes can be read, nothing is gone. -/
theorem LeftOf.eq
    {outer : List String}
    {type : TypeDefinition}
    {before after : TypeDescriptor}
    (leftOf : LeftOf outer type before after)
    (readable : ∀ found ∈ type.flatten, found.Readable) :
    after = before := by
  induction leftOf with
  | @node outer type shown descriptor before after shows _ inductionHypothesis =>
      rw [TypeDefinition.flatten_eq] at readable
      obtain ⟨ownReadable, nestedReadable⟩ := List.forall_mem_cons.mp readable
      have nestedEq : shown.map after = shown.map before := by
        refine List.map_congr_left fun nested isShown => inductionHypothesis nested isShown ?_
        exact fun found isFound => nestedReadable found
          (List.mem_flatMap_of_mem (shows.mem_iff.mp isShown).1 isFound)
      rw [nestedEq, AttributeDescriptor.leftOf_eq_self ownReadable.1]

end TypeDescriptor

/-! ## Modules -/

/-- Whether a member is described as the same member without unreadable attributes, but for the
attributes of owners that have unreadable ones. -/
structure MemberFact.DescribedAlike (plain marked : MemberFact) : Prop where
  fault_eq : marked.describeFault? = plain.describeFault?
  fault_eq_none_iff : marked.describeFault? = none ↔ marked.HasTexts
  length_parameters : marked.parameters.length = plain.parameters.length
  describe_eq : MemberDescriptor.describe marked = .leftOf marked (.describe plain)

/-- Whether a type and its members are described as the same type without unreadable attributes, but
for the attributes of owners that have unreadable ones. -/
structure TypeDefinition.DescribedAlike
    (moduleName : String)
    (plain marked : TypeDefinition) : Prop where
  fault_eq : marked.describeFault? = plain.describeFault?
  fault_eq_none_iff :
    marked.describeFault? = none ↔
      ∀ found, Shows [] marked found →
        ∀ reference ∈ found.shownReferences, reference.textFault? = none
  leftOf_describe :
    TypeDescriptor.LeftOf [] marked (.describe moduleName plain) (.describe moduleName marked)
  memberFault_eq : ∀ (visibility : Visibility) (kinds : List MemberKind),
    MemberFact.firstFault? kinds (visibility.membersOf marked) =
      MemberFact.firstFault? kinds (visibility.membersOf plain)
  membersAlike : ∀ (visibility : Visibility) (kinds : List MemberKind),
    List.Forall₂ MemberFact.DescribedAlike
      (MemberFact.shownAmong kinds (visibility.membersOf plain))
      (MemberFact.shownAmong kinds (visibility.membersOf marked))
  describeAll_eq : ∀ (visibility : Visibility) (kinds : List MemberKind),
    MemberDescriptor.describeAll kinds (visibility.membersOf marked) =
      List.zipWith .leftOf (MemberFact.shownAmong kinds (visibility.membersOf marked))
        (MemberDescriptor.describeAll kinds (visibility.membersOf plain))

theorem MemberFact.describedAlike
    {plain marked : MemberFact}
    (alike : plain.withoutLoadErrors = marked.withoutLoadErrors)
    (readable : plain.Readable) :
    plain.DescribedAlike marked where
  fault_eq := by
    rw [← marked.describeFault?_withoutLoadErrors, ← alike, describeFault?_withoutLoadErrors]
  fault_eq_none_iff := marked.describeFault?_eq_none_iff
  length_parameters := by
    have sameParameters := congrArg (List.length ∘ MemberFact.parameters) alike
    simpa [withoutLoadErrors] using sameParameters.symm
  describe_eq := by
    rw [MemberDescriptor.describe_eq_leftOf, ← alike,
      MemberDescriptor.describe_withoutLoadErrors readable]

private theorem forall₂_of_map_eq
    {α β : Type}
    {f : α → β}
    {holds : α → Prop}
    {one other : List α}
    (same : one.map f = other.map f)
    (each : ∀ item ∈ one, holds item) :
    List.Forall₂ (fun first second => holds first ∧ f first = f second) one other := by
  have mapped : List.Forall₂ Eq (one.map f) (other.map f) := by
    rw [same, List.forall₂_eq_eq_eq]
  have pairs := List.forall₂_map_right_iff.mp (List.forall₂_map_left_iff.mp mapped)
  exact (List.forall₂_and_left _ _).mpr ⟨each, pairs⟩

private theorem map_describe_eq_zipWith
    {plain marked : List MemberFact}
    (alike : List.Forall₂ MemberFact.DescribedAlike plain marked) :
    marked.map MemberDescriptor.describe =
      List.zipWith .leftOf marked (plain.map MemberDescriptor.describe) := by
  induction alike with
  | nil =>
      rfl
  | cons first _ inductionHypothesis =>
      rw [List.map_cons, List.map_cons, List.zipWith_cons_cons, first.describe_eq,
        inductionHypothesis]

section Alike

variable
  {plain marked : TypeDefinition}
  (alike : plain.withoutLoadErrors = marked.withoutLoadErrors)
include alike

private theorem Visibility.sameMembers (visibility : Visibility) :
    (visibility.membersOf plain).map MemberFact.withoutLoadErrors =
      (visibility.membersOf marked).map MemberFact.withoutLoadErrors := by
  rw [← membersOf_withoutLoadErrors, alike, membersOf_withoutLoadErrors]

theorem Visibility.forall₂_shownAmong
    (readable : plain.Readable)
    (visibility : Visibility)
    (kinds : List MemberKind) :
    List.Forall₂ MemberFact.DescribedAlike
      (MemberFact.shownAmong kinds (visibility.membersOf plain))
      (MemberFact.shownAmong kinds (visibility.membersOf marked)) := by
  have sameShown :
      (MemberFact.shownAmong kinds (visibility.membersOf plain)).map
          MemberFact.withoutLoadErrors =
        (MemberFact.shownAmong kinds (visibility.membersOf marked)).map
          MemberFact.withoutLoadErrors := by
    rw [← MemberFact.shownAmong_map_withoutLoadErrors, visibility.sameMembers alike,
      MemberFact.shownAmong_map_withoutLoadErrors]
  have membersReadable :
      ∀ member ∈ MemberFact.shownAmong kinds (visibility.membersOf plain), member.Readable :=
    fun member isShown =>
      readable.2 member (List.mem_of_mem_filter (List.mem_of_mem_filter isShown))
  refine (forall₂_of_map_eq sameShown membersReadable).imp ?_
  rintro plainMember markedMember ⟨memberReadable, membersAlike⟩
  exact MemberFact.describedAlike membersAlike memberReadable

theorem TypeDefinition.describedAlike
    (readable : ∀ found ∈ plain.flatten, found.Readable)
    (moduleName : String) :
    DescribedAlike moduleName plain marked := by
  have plainReadable : plain.Readable :=
    readable plain (by rw [flatten_eq]; exact List.mem_cons_self)
  constructor
  case fault_eq =>
    rw [describeFault?, ← faultWithin?_withoutLoadErrors, ← alike,
      faultWithin?_withoutLoadErrors, describeFault?]
  case fault_eq_none_iff =>
    exact faultWithin?_eq_none_iff marked []
  case leftOf_describe =>
    have plainAsMarked := TypeDescriptor.leftOf_describeWithin moduleName plain []
    have marks := TypeDescriptor.leftOf_describeWithin moduleName marked []
    rwa [← alike, ← plainAsMarked.eq readable] at marks
  case memberFault_eq =>
    intro visibility kinds
    rw [← MemberFact.firstFault?_map_withoutLoadErrors, ← visibility.sameMembers alike,
      MemberFact.firstFault?_map_withoutLoadErrors]
  case membersAlike =>
    exact Visibility.forall₂_shownAmong alike plainReadable
  case describeAll_eq =>
    intro visibility kinds
    exact map_describe_eq_zipWith (visibility.forall₂_shownAmong alike plainReadable kinds)

end Alike

/-- If some attributes of a module cannot be read, its types and members are described as if they
could be, and fail to be described as they did: only the types, members and parameters that carry
such an attribute are shown without attributes. -/
theorem ModuleDefinition.unreadable_attributes_contained
    {plain marked : ModuleDefinition}
    (alike : plain.withoutLoadErrors = marked.withoutLoadErrors)
    (readable : plain.Readable) :
    marked.name = plain.name ∧
      List.Forall₂ (TypeDefinition.DescribedAlike plain.name) plain.allTypes marked.allTypes := by
  have sameName : plain.withoutLoadErrors.name = marked.withoutLoadErrors.name :=
    congrArg name alike
  have sameTypes :
      plain.allTypes.map TypeDefinition.withoutLoadErrors =
        marked.allTypes.map TypeDefinition.withoutLoadErrors := by
    rw [← allTypes_withoutLoadErrors, alike, allTypes_withoutLoadErrors]
  have nestedReadable :
      ∀ type ∈ plain.allTypes, ∀ found ∈ type.flatten, found.Readable := by
    intro type member found isFound
    refine readable found ?_
    rw [allTypes, TypeDefinition.flattenAll_eq_flatMap, List.mem_flatMap] at member ⊢
    obtain ⟨outermost, isOutermost, inOutermost⟩ := member
    exact ⟨outermost, isOutermost, TypeDefinition.mem_flatten_trans inOutermost isFound⟩
  refine ⟨sameName.symm, (forall₂_of_map_eq sameTypes nestedReadable).imp ?_⟩
  rintro plainType markedType ⟨typeReadable, typesAlike⟩
  exact TypeDefinition.describedAlike typesAlike typeReadable plain.name

/-- A type with an attribute and a method with another one and a parameter, and a type in it; the
attributes of the outer type and of the parameter may have a load error. -/
def ModuleDefinition.attributed
    (loadError? : Option String)
    (baseType? : Option TypeRef) : ModuleDefinition :=
  let marked : AttributeFact := ⟨"X", [], [], loadError?⟩
  let kept : AttributeFact := ⟨"Y", [], [], none⟩
  let parameter : ParameterFact :=
    ⟨"p", ⟨.named, "P", none, 1, []⟩, 0, false, false, .null, false, false, false,
      [kept, marked]⟩
  let method : MemberFact :=
    ⟨.method, "F", "A", .public, 1, none, [parameter], [], [kept], none, false, false, false,
      false, false, none, false, false, false, none, none, false, false, false, .null, none, none⟩
  let inner : TypeDefinition :=
    { TypeDefinition.holding "A+B" 1 none [] with attributes := [kept] }
  ⟨"M", "",
    [{ TypeDefinition.holding "A" 1 baseType? [inner] with
      attributes := [marked, kept]
      members := [method] }]⟩

theorem ModuleDefinition.attributed_withoutLoadErrors
    (loadError? : Option String)
    (baseType? : Option TypeRef) :
    (attributed loadError? baseType?).withoutLoadErrors = attributed none baseType? :=
  rfl

theorem ModuleDefinition.readable_attributed (baseType? : Option TypeRef) :
    (attributed none baseType?).Readable := by
  simp [Readable, attributed, allTypes, TypeDefinition.flattenAll, TypeDefinition.flatten,
    TypeDefinition.holding, TypeDefinition.Readable, MemberFact.Readable, ParameterFact.Readable,
    AttributeFact.isUnreadable]

/-- The outer type loses its attributes, the type in it and the method keep theirs. -/
theorem ModuleDefinition.unreadable_attributes_contained_in_outer_type :
    let plain := attributed none none
    let marked := attributed (some "lost") none
    plain.withoutLoadErrors = marked.withoutLoadErrors ∧ plain.Readable ∧
      List.Forall₂ (TypeDefinition.DescribedAlike "M") plain.allTypes marked.allTypes ∧
      (marked.allTypes.map fun type =>
        (TypeDescriptor.describe "M" type).attributes.map AttributeDescriptor.typeName) =
          [[], ["Y"]] ∧
      (marked.allTypes.flatMap fun type => type.members.map fun member =>
        (MemberDescriptor.describe member).attributes.map AttributeDescriptor.typeName) =
          [["Y"]] := by
  intro plain marked
  have alike : plain.withoutLoadErrors = marked.withoutLoadErrors :=
    (attributed_withoutLoadErrors _ _).trans (attributed_withoutLoadErrors _ _).symm
  have readable : plain.Readable :=
    readable_attributed none
  refine ⟨alike, readable, (unreadable_attributes_contained alike readable).2, ?_, ?_⟩
  · decide +kernel
  · decide +kernel

/-- Whether or not its attributes can be read, a type whose base type has no text is not
described. -/
theorem ModuleDefinition.attributed_type_is_not_described :
    let plain := attributed none (some .vastArray)
    let marked := attributed (some "lost") (some .vastArray)
    plain.withoutLoadErrors = marked.withoutLoadErrors ∧ plain.Readable ∧
      marked.allTypes.map TypeDefinition.describeFault? =
        [some ⟨.overflow, "cannot fit 'int' into an index-sized integer"⟩, none] := by
  refine ⟨?_, readable_attributed _, by decide +kernel⟩
  exact (attributed_withoutLoadErrors _ _).trans (attributed_withoutLoadErrors _ _).symm

end TypeCatalog
