import TypeCatalog.Answer.TypeView
import TypeCatalog.Proofs.Metadata.Genuine
import TypeCatalog.Proofs.Query.ListedType

namespace TypeCatalog

/-!
# What is shown of types consists of

What is shown of a type or a member is made of texts, truth values and whole numbers, and of the
values that the module itself gives: the arguments of attributes and the values of constants.
-/

section Contents

variable {sort : Value → Prop} {keySort : Key → Prop}

/-! ## Descriptors -/

private theorem exists_of_mem_mapM
    {α β : Type}
    {f : α → Option β}
    {items : List α}
    {result : β}
    (member : result ∈ (items.mapM f).getD []) :
    ∃ item ∈ items, f item = some result := by
  induction items generalizing result with
  | nil => cases member
  | cons item rest inductionHypothesis =>
      rw [List.mapM_cons] at member
      cases first : f item with
      | none =>
          rw [first] at member
          cases member
      | some one =>
          cases others : rest.mapM f with
          | none =>
              rw [first, others] at member
              cases member
          | some more =>
              rw [first, others] at member
              rw [others] at inductionHypothesis
              rcases List.mem_cons.mp member with rfl | isLater
              · exact ⟨item, List.mem_cons_self, first⟩
              · obtain ⟨later, isThere, isResult⟩ := inductionHypothesis isLater
                exact ⟨later, List.mem_cons_of_mem _ isThere, isResult⟩

variable (plain : Value.TakesPlain sort keySort)

include plain

theorem AttributeDescriptor.consistsOf_describeAll
    {facts : List AttributeFact}
    (consist : ∀ fact ∈ facts, fact.toValue.ConsistsOf sort keySort) :
    (Value.list ((describeAll facts).map toValue)).ConsistsOf sort keySort := by
  refine Value.consistsOf_list_iff.mpr (List.forall_mem_map.mpr fun descriptor member => ?_)
  obtain ⟨fact, isFact, described⟩ := exists_of_mem_mapM member
  have isDescriptor : descriptor =
      ⟨fact.typeName, fact.constructorArguments, fact.namedArguments⟩ := by
    unfold describe? at described
    split at described
    · split at described <;> cases described
      rfl
    · cases described
      rfl
  have constructorArguments :=
    Value.consistsOf_of_lookup (consist fact isFact) "constructor_arguments" rfl
  have namedArguments := Value.consistsOf_of_lookup (consist fact isFact) "named_arguments" rfl
  subst isDescriptor
  refine plain.consistsOf_record ?_
  simp [plain.consistsOf_text, constructorArguments, namedArguments]

theorem ParameterDescriptor.consistsOf_toValue_describe
    {fact : ParameterFact}
    (consists : fact.toValue.ConsistsOf sort keySort) :
    (describe fact).toValue.ConsistsOf sort keySort := by
  have attributes := AttributeDescriptor.consistsOf_describeAll plain
    (List.forall_mem_map.mp
      (Value.consistsOf_list_iff.mp (Value.consistsOf_of_lookup consists "attributes" rfl)))
  refine plain.consistsOf_record ?_
  simp [describe, plain.consistsOf_text, plain.consistsOf_int, plain.consistsOf_bool,
    plain.consistsOf_ofText?, attributes]

private theorem ParameterDescriptor.consistsOf_describeAll
    {facts : List ParameterFact}
    (consist : ∀ fact ∈ facts, fact.toValue.ConsistsOf sort keySort) :
    (Value.list ((describeAll facts).map toValue)).ConsistsOf sort keySort := by
  refine Value.consistsOf_list_iff.mpr (List.forall_mem_map.mpr fun descriptor member => ?_)
  obtain ⟨fact, isFact, rfl⟩ := List.mem_map.mp member
  exact consistsOf_toValue_describe plain (consist fact (List.mem_mergeSort.mp isFact))

/-- What is shown of a member consists of what the member consists of. -/
theorem MemberDescriptor.consistsOf_toValue_describe
    {fact : MemberFact}
    (consists : fact.toValue.ConsistsOf sort keySort) :
    (describe fact).toValue.ConsistsOf sort keySort := by
  have attributes := AttributeDescriptor.consistsOf_describeAll plain
    (List.forall_mem_map.mp
      (Value.consistsOf_list_iff.mp (Value.consistsOf_of_lookup consists "attributes" rfl)))
  have parameters := ParameterDescriptor.consistsOf_describeAll plain
    (List.forall_mem_map.mp
      (Value.consistsOf_list_iff.mp (Value.consistsOf_of_lookup consists "parameters" rfl)))
  have constantValue := Value.consistsOf_of_lookup consists "constant_value" rfl
  have ofPart : ∀ field ∈ partFields (describe fact).typeName (partOf fact),
      field.2.ConsistsOf sort keySort := by
    unfold partOf
    cases fact.kind with
    | method =>
        simp [partFields, plain.consistsOf_bool, plain.consistsOf_ofTexts, parameters]
    | property =>
        simp [partFields, plain.consistsOf_bool, MemberFact.consistsOf_accessibilityValue plain, parameters]
    | field =>
        have shown : (if fact.isConstant then fact.constantValue else .null).ConsistsOf sort
            keySort := by
          split
          · exact constantValue
          · exact plain.null
        simp [partFields, plain.consistsOf_bool, shown]
    | event =>
        simp [partFields, plain.consistsOf_text, MemberFact.consistsOf_accessibilityValue plain]
    | constructor =>
        simp [partFields, plain.consistsOf_bool, parameters]
  refine plain.consistsOf_record (List.forall_mem_append.mpr ⟨?_, ofPart⟩)
  simp [describe, plain.consistsOf_text, plain.consistsOf_bool, attributes]

theorem MemberDescriptor.consist_describeAll
    {facts : List MemberFact}
    (consist : ∀ fact ∈ facts, fact.toValue.ConsistsOf sort keySort)
    (kinds : List MemberKind) :
    ∀ descriptor ∈ describeAll kinds facts, descriptor.toValue.ConsistsOf sort keySort := by
  intro descriptor member
  obtain ⟨fact, isFact, rfl⟩ := List.mem_map.mp member
  exact consistsOf_toValue_describe plain (consist fact (List.mem_of_mem_filter isFact))

theorem consistsOf_toValue_genericParameter (descriptor : GenericParameterDescriptor) :
    descriptor.toValue.ConsistsOf sort keySort := by
  refine plain.consistsOf_record ?_
  simp [plain.consistsOf_text, plain.consistsOf_int, plain.consistsOf_bool,
    plain.consistsOf_ofTexts]

private theorem consistsOf_toValue_docs (docs : DocsDescriptor) :
    docs.toValue.ConsistsOf sort keySort := by
  refine plain.consistsOf_record ?_
  simp [plain.consistsOf_ofText?, ParameterNote.consistsOf_listed plain]

theorem consistsOf_optionToValue_docs (docs? : Option DocsDescriptor) :
    (DocsDescriptor.optionToValue docs?).ConsistsOf sort keySort := by
  cases docs? with
  | none => exact plain.null
  | some docs => exact consistsOf_toValue_docs plain docs

/-! ## Types -/

namespace TypeDefinition

omit plain in
theorem consistsOf_parts
    {type : TypeDefinition}
    (consists : type.toValue.ConsistsOf sort keySort) :
    (∀ fact ∈ type.attributes, fact.toValue.ConsistsOf sort keySort) ∧
      (∀ member ∈ type.members, member.toValue.ConsistsOf sort keySort) ∧
        ∀ nested ∈ type.nestedTypes, nested.toValue.ConsistsOf sort keySort := by
  cases type
  rw [toValue] at consists
  have attributes := Value.consistsOf_of_lookup consists "attributes" rfl
  have members := Value.consistsOf_of_lookup consists "members" rfl
  have nestedTypes := Value.consistsOf_of_lookup consists "nested_types" rfl
  rw [listToValue_eq_map] at nestedTypes
  exact ⟨List.forall_mem_map.mp (Value.consistsOf_list_iff.mp attributes),
    List.forall_mem_map.mp (Value.consistsOf_list_iff.mp members),
    List.forall_mem_map.mp (Value.consistsOf_list_iff.mp nestedTypes)⟩

end TypeDefinition

namespace TypeDescriptor

/-- What is shown of a type beside the types nested in it. -/
private theorem consistsOf_ownFields
    {type : TypeDefinition}
    (consists : type.toValue.ConsistsOf sort keySort)
    (moduleName : String)
    (nested : List TypeDescriptor) :
    ∀ field ∈ (ofDefinition moduleName type nested).ownFields,
      field.2.ConsistsOf sort keySort := by
  have attributes :=
    AttributeDescriptor.consistsOf_describeAll plain (TypeDefinition.consistsOf_parts consists).1
  have genericParameters : ∀ descriptors : List GenericParameterDescriptor,
      (Value.list (descriptors.map GenericParameterDescriptor.toValue)).ConsistsOf sort keySort :=
    fun descriptors => Value.consistsOf_list_iff.mpr
      (List.forall_mem_map.mpr fun descriptor _ =>
        consistsOf_toValue_genericParameter plain descriptor)
  simp [ownFields, ofDefinition, plain.consistsOf_text, plain.consistsOf_bool,
    plain.consistsOf_ofText?, plain.consistsOf_ofTexts, attributes, genericParameters]

omit plain in
private theorem consist_listToValue
    {descriptors : List TypeDescriptor}
    (consist : ∀ descriptor ∈ descriptors, descriptor.toValue.ConsistsOf sort keySort) :
    (Value.list (listToValue descriptors)).ConsistsOf sort keySort := by
  have isMap : listToValue descriptors = descriptors.map toValue := by
    induction descriptors with
    | nil => rfl
    | cons descriptor rest inductionHypothesis =>
        rw [listToValue, inductionHypothesis (List.forall_mem_cons.mp consist).2, List.map_cons]
  rw [isMap]
  exact Value.consistsOf_list_iff.mpr (List.forall_mem_map.mpr consist)

omit plain

mutual

theorem consistsOf_toValue_describeWithin
    (plain : Value.TakesPlain sort keySort)
    (moduleName : String)
    (outer : List String) :
    (type : TypeDefinition) → type.toValue.ConsistsOf sort keySort →
      (describeWithin moduleName outer type).toValue.ConsistsOf sort keySort
  | ⟨fullName, _, _, _, _, _, _, _, _, _, _, _, _, _, nestedTypes⟩, consists => by
      have nested := consist_describeNested plain moduleName (fullName :: outer) nestedTypes
        (TypeDefinition.consistsOf_parts consists).2.2
      rw [describeWithin, toValue_eq]
      refine plain.consistsOf_record (List.forall_mem_append.mpr
        ⟨consistsOf_ownFields plain consists moduleName _, List.forall_mem_singleton.mpr ?_⟩)
      exact consist_listToValue fun descriptor member =>
        nested descriptor (List.mem_mergeSort.mp member)

theorem consist_describeNested
    (plain : Value.TakesPlain sort keySort)
    (moduleName : String)
    (outer : List String) :
    (types : List TypeDefinition) → (∀ type ∈ types, type.toValue.ConsistsOf sort keySort) →
      ∀ descriptor ∈ describeNested moduleName outer types,
        descriptor.toValue.ConsistsOf sort keySort
  | [], _ => nofun
  | type :: rest, consist => by
      have first := consistsOf_toValue_describeWithin plain moduleName outer type
        (consist type List.mem_cons_self)
      have others := consist_describeNested plain moduleName outer rest
        (List.forall_mem_cons.mp consist).2
      rw [describeNested]
      split
      · exact others
      · exact List.forall_mem_cons.mpr ⟨first, others⟩

end

include plain

theorem consistsOf_toOwnValue_describe
    {type : TypeDefinition}
    (consists : type.toValue.ConsistsOf sort keySort)
    (moduleName : String) :
    (describe moduleName type).toOwnValue.ConsistsOf sort keySort := by
  refine plain.consistsOf_record ?_
  rw [describe]
  cases type
  rw [describeWithin]
  exact consistsOf_ownFields plain consists moduleName _

end TypeDescriptor

/-! ## Nested types -/

namespace TypeDefinition

omit plain

mutual

theorem consist_flatten :
    (type : TypeDefinition) → type.toValue.ConsistsOf sort keySort →
      ∀ found ∈ type.flatten, found.toValue.ConsistsOf sort keySort
  | ⟨_, _, _, _, _, _, _, _, _, _, _, _, _, _, nestedTypes⟩, consists => by
      rw [flatten]
      exact List.forall_mem_cons.mpr
        ⟨consists, consist_flattenAll nestedTypes (consistsOf_parts consists).2.2⟩

theorem consist_flattenAll :
    (types : List TypeDefinition) → (∀ type ∈ types, type.toValue.ConsistsOf sort keySort) →
      ∀ found ∈ flattenAll types, found.toValue.ConsistsOf sort keySort
  | [], _ => nofun
  | type :: rest, consist => by
      obtain ⟨consistsFirst, consistRest⟩ := List.forall_mem_cons.mp consist
      rw [flattenAll]
      exact List.forall_mem_append.mpr
        ⟨consist_flatten type consistsFirst, consist_flattenAll rest consistRest⟩

end

end TypeDefinition

omit plain in
/-- Each type of a module consists of what the module consists of. -/
theorem ModuleDefinition.consist_allTypes
    {definition : ModuleDefinition}
    (consists : definition.toValue.ConsistsOf sort keySort) :
    ∀ type ∈ definition.allTypes, type.toValue.ConsistsOf sort keySort := by
  have listed := Value.consistsOf_of_lookup consists "types" rfl
  rw [TypeDefinition.listToValue_eq_map] at listed
  exact TypeDefinition.consist_flattenAll definition.types
    (List.forall_mem_map.mp (Value.consistsOf_list_iff.mp listed))

end Contents

end TypeCatalog
