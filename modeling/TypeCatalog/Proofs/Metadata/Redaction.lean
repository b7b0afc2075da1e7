import TypeCatalog.Answer.TypeView
import TypeCatalog.Describe.Fault
import TypeCatalog.Query.Lookup

namespace TypeCatalog

/-!
# Redactions

A redaction leaves out some of what a module says about members and documentation.  Types keep their
names, their nesting and their order, so a name means the redaction of the type that it meant.
-/

/-- What is left of the members of a type and of its documentation. -/
structure Redaction where
  members : List MemberFact → List MemberFact
  docs? : Option DocBlock → Option DocBlock

/-- A member without its documentation. -/
def MemberFact.withoutDocs (member : MemberFact) : MemberFact :=
  { member with docs? := none }

namespace Redaction

/-- Leaves out the members that are not public. -/
def ofHidden : Redaction :=
  ⟨List.filter fun member => member.accessibility = .public, id⟩

/-- Leaves out all documentation. -/
def ofDocs : Redaction :=
  ⟨List.map MemberFact.withoutDocs, fun _ => none⟩

mutual

/-- What is left of a type and of the types nested in it. -/
def type
    (redaction : Redaction) : TypeDefinition → TypeDefinition
  | ⟨fullName, kind, accessibility, token, isAbstract, isSealed, isGenericDefinition,
      declaringType?, baseType?, interfaces, attributes, genericParameters, members, docs?,
      nestedTypes⟩ =>
    ⟨fullName, kind, accessibility, token, isAbstract, isSealed, isGenericDefinition,
      declaringType?, baseType?, interfaces, attributes, genericParameters,
      redaction.members members, redaction.docs? docs?, redaction.types nestedTypes⟩

/-- What is left of several types. -/
def types
    (redaction : Redaction) : List TypeDefinition → List TypeDefinition
  | [] => []
  | type :: rest => redaction.type type :: redaction.types rest

end

/-- What is left of a module. -/
def module
    (redaction : Redaction)
    (definition : ModuleDefinition) : ModuleDefinition :=
  { definition with types := redaction.types definition.types }

section Types

variable (redaction : Redaction) (type : TypeDefinition)

@[simp]
theorem fullName_type : (redaction.type type).fullName = type.fullName := by
  cases type
  rfl

@[simp]
theorem accessibility_type : (redaction.type type).accessibility = type.accessibility := by
  cases type
  rfl

@[simp]
theorem siblingKey_type : (redaction.type type).siblingKey = type.siblingKey := by
  cases type
  rfl

@[simp]
theorem baseType?_type : (redaction.type type).baseType? = type.baseType? := by
  cases type
  rfl

@[simp]
theorem members_type : (redaction.type type).members = redaction.members type.members := by
  cases type
  rfl

end Types

mutual

/-- A type is left with all types nested in it. -/
theorem flatten_type
    (redaction : Redaction) :
    ∀ type : TypeDefinition, (redaction.type type).flatten = type.flatten.map redaction.type
  | ⟨_, _, _, _, _, _, _, _, _, _, _, _, _, _, nestedTypes⟩ => by
      rw [type, TypeDefinition.flatten, TypeDefinition.flatten, List.map_cons,
        flattenAll_types redaction nestedTypes, type]

/-- Several types are left with all types nested in them. -/
theorem flattenAll_types
    (redaction : Redaction) :
    ∀ types : List TypeDefinition,
      TypeDefinition.flattenAll (redaction.types types) =
        (TypeDefinition.flattenAll types).map redaction.type
  | [] => rfl
  | type :: rest => by
      rw [types, TypeDefinition.flattenAll, TypeDefinition.flattenAll, List.map_append,
        flatten_type redaction type, flattenAll_types redaction rest]

end

@[simp]
theorem allTypes_module
    (redaction : Redaction)
    (definition : ModuleDefinition) :
    (redaction.module definition).allTypes = definition.allTypes.map redaction.type :=
  redaction.flattenAll_types definition.types

mutual

/-- What cannot be described of a type is neither in its members nor in its documentation. -/
theorem faultWithin?_type
    (redaction : Redaction)
    (outer : List String) :
    ∀ type : TypeDefinition, (redaction.type type).faultWithin? outer = type.faultWithin? outer
  | ⟨fullName, _, _, _, _, _, _, _, _, _, _, _, _, _, nestedTypes⟩ => by
      rw [type, TypeDefinition.faultWithin?, TypeDefinition.faultWithin?,
        nestedFaults_types redaction (fullName :: outer) nestedTypes]

theorem nestedFaults_types
    (redaction : Redaction)
    (outer : List String) :
    ∀ types : List TypeDefinition,
      TypeDefinition.nestedFaults outer (redaction.types types) =
        TypeDefinition.nestedFaults outer types
  | [] => rfl
  | type :: rest => by
      rw [types, TypeDefinition.nestedFaults, TypeDefinition.nestedFaults, fullName_type,
        siblingKey_type, faultWithin?_type redaction outer type,
        nestedFaults_types redaction outer rest]

end

@[simp]
theorem describeFault?_type
    (redaction : Redaction)
    (type : TypeDefinition) :
    (redaction.type type).describeFault? = type.describeFault? :=
  redaction.faultWithin?_type [] type

section Finding

variable (redaction : Redaction)

/-- Types are sorted as they were, since their full names are left. -/
theorem sortByFullName_map (types : List TypeDefinition) :
    TypeDefinition.sortByFullName (types.map redaction.type) =
      (TypeDefinition.sortByFullName types).map redaction.type := by
  symm
  apply List.map_mergeSort
  intro first _ second _
  rw [fullName_type, fullName_type]

private theorem find?_map
    (candidates : List TypeDefinition)
    (isMeant : String → Bool) :
    ((candidates.map redaction.type).find? fun type => isMeant type.fullName) =
      (candidates.find? fun type => isMeant type.fullName).map redaction.type := by
  rw [List.find?_map]
  congr 2
  funext type
  rw [Function.comp_apply, fullName_type]

/-- The search for a type looks at full names alone. -/
theorem findAmong?_map
    (candidates : List TypeDefinition)
    (query : String)
    (caseSensitive : Bool) :
    TypeDefinition.findAmong? (candidates.map redaction.type) query caseSensitive =
      (TypeDefinition.findAmong? candidates query caseSensitive).map redaction.type := by
  have found := redaction.find?_map candidates
  simp only [TypeDefinition.findAmong?, TypeDefinition.simpleName, Option.orElse_eq_orElse,
    Option.orElse_eq_or, Option.map_or, apply_ite (Option.map redaction.type), Option.map_none]
  rw [found fun name => Text.foldFor caseSensitive name == Text.foldFor caseSensitive query,
    found fun name =>
      Text.foldFor caseSensitive (QualifiedName.simpleName name) ==
        Text.foldFor caseSensitive query,
    found fun name =>
      Text.foldFor caseSensitive name ==
        Text.replaceCharacter '.' '+' (Text.foldFor caseSensitive query),
    found fun name =>
      Text.replaceCharacter '+' '.' (Text.foldFor caseSensitive name) ==
        Text.replaceCharacter '+' '.' (Text.foldFor caseSensitive query)]

/-- A name means what is left of the type that it meant. -/
theorem find_map
    (types : List TypeDefinition)
    (typeName : String)
    (caseSensitive : Bool) :
    TypeDefinition.find (types.map redaction.type) typeName caseSensitive =
      (TypeDefinition.find types typeName caseSensitive).map redaction.type := by
  simp only [TypeDefinition.find, sortByFullName_map, findAmong?_map]
  split
  · rfl
  · cases TypeDefinition.findAmong? (TypeDefinition.sortByFullName types)
      (Text.trim typeName) caseSensitive <;> rfl

end Finding

end Redaction

/-!
## Without documentation

Documentation plays no part in the numbers that types and members are given.  A type or a member
without its documentation is described as before, but for the documentation, and all that is shown
of it elsewhere is the same.
-/

namespace MemberDescriptor

/-- What is shown of a member, without its documentation. -/
def withoutDocs (descriptor : MemberDescriptor) : MemberDescriptor :=
  { descriptor with docs? := none }

@[simp]
theorem toValue_withoutDocs (descriptor : MemberDescriptor) :
    descriptor.withoutDocs.toValue = descriptor.toValue :=
  rfl

/-- The members of a list are described as before, but for their documentation. -/
theorem describeAll_map_withoutDocs
    (kinds : List MemberKind)
    (members : List MemberFact) :
    describeAll kinds (members.map MemberFact.withoutDocs) =
      (describeAll kinds members).map withoutDocs := by
  rw [describeAll, List.filter_map, List.map_map, describeAll, List.map_map]
  rfl

end MemberDescriptor

/-- What cannot be described of members is not in their documentation. -/
theorem MemberFact.firstFault?_map_withoutDocs
    (kinds : List MemberKind)
    (members : List MemberFact) :
    firstFault? kinds (members.map withoutDocs) = firstFault? kinds members := by
  rw [firstFault?, List.filter_map, List.findSome?_map]
  rfl

theorem Visibility.membersOf_ofDocs
    (visibility : Visibility)
    (type : TypeDefinition) :
    visibility.membersOf (Redaction.ofDocs.type type) =
      (visibility.membersOf type).map MemberFact.withoutDocs := by
  rw [membersOf, Redaction.members_type, Redaction.fullName_type, Redaction.ofDocs,
    List.filter_map]
  rfl

namespace TypeDescriptor

mutual

/-- What is shown of a type, without its documentation and that of the types nested in it. -/
def withoutDocs : TypeDescriptor → TypeDescriptor
  | ⟨fullName, simpleName, namespaceName, kind, accessibility, moduleName, order, isAbstract,
      isSealed, isStatic, isGeneric, isNested, declaringType?, baseType?, interfaces, attributes,
      genericParameters, nestedTypes, _⟩ =>
    ⟨fullName, simpleName, namespaceName, kind, accessibility, moduleName, order, isAbstract,
      isSealed, isStatic, isGeneric, isNested, declaringType?, baseType?, interfaces, attributes,
      genericParameters, listWithoutDocs nestedTypes, none⟩

/-- What is shown of several types, without documentation. -/
def listWithoutDocs : List TypeDescriptor → List TypeDescriptor
  | [] => []
  | descriptor :: rest => withoutDocs descriptor :: listWithoutDocs rest

end

theorem listWithoutDocs_eq_map (descriptors : List TypeDescriptor) :
    listWithoutDocs descriptors = descriptors.map withoutDocs := by
  induction descriptors with
  | nil =>
      rfl
  | cons descriptor rest inductionHypothesis =>
      rw [listWithoutDocs, inductionHypothesis, List.map_cons]

theorem length_listWithoutDocs (descriptors : List TypeDescriptor) :
    (listWithoutDocs descriptors).length = descriptors.length := by
  rw [listWithoutDocs_eq_map, List.length_map]

theorem siblingKey_withoutDocs (descriptor : TypeDescriptor) :
    descriptor.withoutDocs.siblingKey = descriptor.siblingKey := by
  cases descriptor
  rfl

theorem sortSiblings_map_withoutDocs (descriptors : List TypeDescriptor) :
    sortSiblings (descriptors.map withoutDocs) = (sortSiblings descriptors).map withoutDocs := by
  symm
  apply List.map_mergeSort
  intro first _ second _
  rw [siblingKey_withoutDocs, siblingKey_withoutDocs]

mutual

/-- A type is described as before, but for the documentation. -/
theorem describeWithin_ofDocs
    (moduleName : String)
    (outer : List String) :
    ∀ type : TypeDefinition,
      describeWithin moduleName outer (Redaction.ofDocs.type type) =
        (describeWithin moduleName outer type).withoutDocs
  | ⟨fullName, _, _, _, _, _, _, _, _, _, _, _, _, _, nestedTypes⟩ => by
      rw [Redaction.type, describeWithin, describeWithin,
        describeNested_ofDocs moduleName (fullName :: outer) nestedTypes,
        sortSiblings_map_withoutDocs, ← listWithoutDocs_eq_map]
      rfl

theorem describeNested_ofDocs
    (moduleName : String)
    (outer : List String) :
    ∀ types : List TypeDefinition,
      describeNested moduleName outer (Redaction.ofDocs.types types) =
        (describeNested moduleName outer types).map withoutDocs
  | [] => rfl
  | type :: rest => by
      rw [Redaction.types, describeNested, describeNested, Redaction.fullName_type,
        describeWithin_ofDocs moduleName outer type, describeNested_ofDocs moduleName outer rest]
      split
      · rfl
      · rfl

end

theorem describe_ofDocs
    (moduleName : String)
    (type : TypeDefinition) :
    describe moduleName (Redaction.ofDocs.type type) = (describe moduleName type).withoutDocs :=
  describeWithin_ofDocs moduleName [] type

@[simp]
theorem ownFields_withoutDocs (descriptor : TypeDescriptor) :
    descriptor.withoutDocs.ownFields = descriptor.ownFields := by
  cases descriptor
  rfl

@[simp]
theorem toOwnValue_withoutDocs (descriptor : TypeDescriptor) :
    descriptor.withoutDocs.toOwnValue = descriptor.toOwnValue := by
  rw [toOwnValue, ownFields_withoutDocs, toOwnValue]

mutual

/-- No value of a type has documentation in it. -/
theorem toValue_withoutDocs :
    ∀ descriptor : TypeDescriptor, descriptor.withoutDocs.toValue = descriptor.toValue
  | ⟨_, _, _, _, _, _, _, _, _, _, _, _, _, _, _, _, _, nestedTypes, _⟩ => by
      rw [withoutDocs, toValue, toValue, listToValue_listWithoutDocs nestedTypes]
      rfl

theorem listToValue_listWithoutDocs :
    ∀ descriptors : List TypeDescriptor,
      listToValue (listWithoutDocs descriptors) = listToValue descriptors
  | [] => rfl
  | descriptor :: rest => by
      rw [listWithoutDocs, listToValue, listToValue, toValue_withoutDocs descriptor,
        listToValue_listWithoutDocs rest]

end

end TypeDescriptor

namespace Redaction

theorem numberMembers_map_withoutDocs (members : List MemberFact) :
    TypeDefinition.numberMembers (members.map MemberFact.withoutDocs) =
      (TypeDefinition.numberMembers members).map MemberFact.withoutDocs := by
  apply List.ext_getElem?
  intro index
  simp only [TypeDefinition.numberMembers, List.getElem?_mapIdx, List.getElem?_map]
  cases members[index]? with
  | none =>
      rfl
  | some member =>
      simp only [Option.map_some, MemberFact.withoutDocs]
      split <;> rfl

mutual

theorem number_ofDocs
    (position : Int) :
    ∀ type : TypeDefinition,
      (ofDocs.type type).number position = ofDocs.type (type.number position)
  | ⟨_, _, _, _, _, _, _, _, _, _, _, _, members, _, nestedTypes⟩ => by
      rw [type, TypeDefinition.number, TypeDefinition.number, type,
        numberAll_ofDocs 1 nestedTypes]
      congr 1
      exact numberMembers_map_withoutDocs members

theorem numberAll_ofDocs
    (position : Int) :
    ∀ types : List TypeDefinition,
      TypeDefinition.numberAll position (ofDocs.types types) =
        ofDocs.types (TypeDefinition.numberAll position types)
  | [] => rfl
  | type :: rest => by
      rw [types, TypeDefinition.numberAll, TypeDefinition.numberAll, types,
        number_ofDocs position type, numberAll_ofDocs (position + 1) rest]

end

/-- Documentation plays no part in the numbers that types and members are given. -/
theorem assignDeclarationOrder_ofDocs (definition : ModuleDefinition) :
    (ofDocs.module definition).assignDeclarationOrder =
      ofDocs.module definition.assignDeclarationOrder := by
  rw [ModuleDefinition.assignDeclarationOrder, module, numberAll_ofDocs]
  rfl

end Redaction

end TypeCatalog
