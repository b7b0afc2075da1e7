import TypeCatalog.Proofs.Metadata.WrittenOut
import TypeCatalog.Proofs.Schema.Genuine

namespace TypeCatalog

/-!
# Genuine modules

A module that was read from a genuine value is genuine when it is written out.  Most of what it
records is made of texts, truth values and whole numbers; only the arguments of attributes, the
defaults of parameters and the values of constants stand in it as they were given.
-/

open Schema Value

/-! ## Plain parts -/

section Plain

variable {sort : Value → Prop} {keySort : Key → Prop}

namespace TypeRef

mutual

theorem consistsOf_toValue
    (plain : TakesPlain sort keySort) :
    (reference : TypeRef) → reference.toValue.ConsistsOf sort keySort
  | ⟨kind, fullName, element?, rank, arguments⟩ => by
      have element : (optionToValue element?).ConsistsOf sort keySort :=
        consistsOf_optionToValue plain element?
      have listed : (Value.list (listToValue arguments)).ConsistsOf sort keySort :=
        consistsOf_listToValue plain arguments
      rw [toValue]
      refine plain.consistsOf_record ?_
      simp [plain.consistsOf_text, plain.consistsOf_ofNat, element, listed]

theorem consistsOf_optionToValue
    (plain : TakesPlain sort keySort) :
    (reference? : Option TypeRef) → (optionToValue reference?).ConsistsOf sort keySort
  | none => plain.null
  | some reference => consistsOf_toValue plain reference

theorem consistsOf_listToValue
    (plain : TakesPlain sort keySort) :
    (references : List TypeRef) →
      (Value.list (listToValue references)).ConsistsOf sort keySort
  | [] => trivial
  | reference :: rest => ⟨consistsOf_toValue plain reference, consistsOf_listToValue plain rest⟩

end

end TypeRef

variable (plain : TakesPlain sort keySort)

include plain

theorem GenericParameterFact.consistsOf_listed (parameters : List GenericParameterFact) :
    (Value.list (parameters.map toValue)).ConsistsOf sort keySort := by
  refine consistsOf_list_iff.mpr (List.forall_mem_map.mpr fun parameter _ => ?_)
  refine plain.consistsOf_record ?_
  simp [plain.consistsOf_text, plain.consistsOf_int, plain.consistsOf_bool,
    TypeRef.consistsOf_listToValue plain]

theorem ParameterNote.consistsOf_listed (notes : List ParameterNote) :
    (Value.list (notes.map toValue)).ConsistsOf sort keySort := by
  refine consistsOf_list_iff.mpr (List.forall_mem_map.mpr fun note _ => ?_)
  refine plain.consistsOf_record ?_
  simp [plain.consistsOf_text]

theorem DocBlock.consistsOf_optional (docs? : Option DocBlock) :
    ((docs?.map toValue).getD .null).ConsistsOf sort keySort := by
  cases docs? with
  | none => exact plain.null
  | some docs =>
      refine plain.consistsOf_record ?_
      simp [plain.consistsOf_ofText?, ParameterNote.consistsOf_listed plain]

theorem MemberFact.consistsOf_accessibilityValue (accessibility? : Option Accessibility) :
    (accessibilityValue accessibility?).ConsistsOf sort keySort := by
  cases accessibility? with
  | none => exact plain.null
  | some accessibility => exact plain.text accessibility.word

end Plain

/-! ## Parts with given values -/

private theorem isGenuine_null : Value.null.IsGenuine :=
  takesPlain_isGenuine.null

private theorem isGenuine_listed
    {α : Type}
    {write : α → Value}
    {items : List α}
    (genuine : ∀ item ∈ items, (write item).IsGenuine) :
    (Value.list (items.map write)).IsGenuine :=
  isGenuine_list_iff.mpr (List.forall_mem_map.mpr genuine)

namespace AttributeFact

private theorem isGenuine_toValue
    {recorded : AttributeFact}
    (argumentsGenuine : ∀ given ∈ recorded.constructorArguments, given.IsGenuine)
    (namedGenuine : ∀ given ∈ recorded.namedArguments, given.2.IsGenuine) :
    recorded.toValue.IsGenuine := by
  have plain := takesPlain_isGenuine
  have arguments : (Value.list recorded.constructorArguments).IsGenuine :=
    isGenuine_list_iff.mpr argumentsGenuine
  have named : (Value.record recorded.namedArguments).IsGenuine :=
    plain.consistsOf_record namedGenuine
  refine plain.consistsOf_record ?_
  simp only [List.forall_mem_cons, plain.consistsOf_text, plain.consistsOf_ofText?,
    List.not_mem_nil, false_implies, implies_true, and_true, true_and]
  exact ⟨arguments, named⟩

theorem findsInGenuine_check :
    FindsInGenuine (fun recorded => recorded.toValue.IsGenuine) check := by
  have ofRecord : FindsInGenuine (fun recorded => recorded.toValue.IsGenuine)
      (recordOf "RawAttribute" ofEntries) := by
    refine findsInGenuine_recordOf fun entries recorded genuine read => ?_
    simp only [ofEntries, Checked.seq_eq_ok_iff, Checked.functor_map_eq_ok_iff] at read
    obtain ⟨_, _, ⟨_, named, ⟨_, arguments, ⟨_, _, rfl⟩, argumentsPassed, rfl⟩, namedPassed, rfl⟩,
      _, rfl⟩ := read
    exact isGenuine_toValue
      (findsInGenuine_anything.sequenceOf.optional genuine (List.forall_mem_nil _) argumentsPassed)
      (findsInGenuine_anything.mappingOf.optional genuine (List.forall_mem_nil _) namedPassed)
  intro value recorded genuine passed
  unfold check at passed
  split at passed
  · cases passed
    exact isGenuine_toValue (List.forall_mem_nil _) (List.forall_mem_nil _)
  · cases passed
  · exact ofRecord genuine passed

end AttributeFact

/-- Attributes that were read from genuine entries are genuine. -/
private theorem isGenuine_attributes
    {entries : List (Key × Value)}
    {attributes : List AttributeFact}
    (genuine : (Value.map entries).IsGenuine)
    (passed : Schema.optional entries "attributes" [] (sequenceOf AttributeFact.check) =
      .ok attributes) :
    (Value.list (attributes.map AttributeFact.toValue)).IsGenuine :=
  isGenuine_listed (AttributeFact.findsInGenuine_check.sequenceOf.optional genuine
    (List.forall_mem_nil _) passed)

theorem ParameterFact.findsInGenuine_check (room : Nat) :
    FindsInGenuine (fun parameter => parameter.toValue.IsGenuine) (check room) := by
  refine findsInGenuine_recordOf fun entries parameter genuine read => ?_
  have parts := partsRead_of_ofEntries read
  have plain := takesPlain_isGenuine
  have attributesGenuine := isGenuine_attributes genuine parts.attributes
  have defaultGenuine : parameter.defaultValue.IsGenuine :=
    findsInGenuine_anything.optional genuine isGenuine_null parts.defaultValue
  refine plain.consistsOf_record ?_
  simp only [List.forall_mem_cons, plain.consistsOf_text, plain.consistsOf_int,
    plain.consistsOf_bool, TypeRef.consistsOf_toValue plain, List.not_mem_nil,
    false_implies, implies_true, and_true, true_and]
  exact ⟨defaultGenuine, attributesGenuine⟩

private theorem isGenuine_positionDefault (index : Nat) :
    (Value.map (positionDefault index)).IsGenuine :=
  isGenuine_map_iff.mpr (List.forall_mem_singleton.mpr ⟨trivial, trivial⟩)

namespace MemberFact

private theorem isGenuine_of_ofEntries
    {room : Nat}
    {entries : List (Key × Value)}
    {member : MemberFact}
    (genuine : (Value.map entries).IsGenuine)
    (read : ofEntries room entries = .ok member)
    (token : Int) :
    { member with token := token }.toValue.IsGenuine := by
  have parts := partsRead_of_ofEntries read
  have parametersGenuine := isGenuine_listed
    ((ParameterFact.findsInGenuine_check room).sequenceOf.optional genuine
      (List.forall_mem_nil _) parts.parameters)
  have attributesGenuine := isGenuine_attributes genuine parts.attributes
  have constantGenuine : member.constantValue.IsGenuine :=
    findsInGenuine_anything.optional genuine isGenuine_null parts.constantValue
  have plain := takesPlain_isGenuine
  refine plain.consistsOf_record ?_
  simp only [List.forall_mem_cons, plain.consistsOf_text, plain.consistsOf_int,
    plain.consistsOf_bool, plain.consistsOf_ofText?, TypeRef.consistsOf_optionToValue plain,
    GenericParameterFact.consistsOf_listed plain, DocBlock.consistsOf_optional plain,
    consistsOf_accessibilityValue plain, List.not_mem_nil, false_implies, implies_true, and_true,
    true_and]
  exact ⟨parametersGenuine, attributesGenuine, constantGenuine⟩

/-- A member that was read from a genuine value is genuine, with any token. -/
theorem findsInGenuine_checkWithin (room : Nat) :
    FindsInGenuine (fun member => ∀ token, { member with token := token }.toValue.IsGenuine)
      (checkWithin room) := by
  refine findsInGenuine_recordOf fun given member genuine isRead => ?_
  rw [completeItems_eq] at isRead
  obtain ⟨entries, isCompleted, read⟩ := Checked.andThen_eq_ok_iff.mp isRead
  have defaultsGenuine : ∀ field ∈ completedFields, ∀ index,
      (Value.map (field.2 index)).IsGenuine :=
    List.forall_mem_cons.mpr
      ⟨isGenuine_positionDefault, List.forall_mem_singleton.mpr isGenuine_positionDefault⟩
  exact isGenuine_of_ofEntries (isGenuine_completeFields genuine defaultsGenuine isCompleted) read

end MemberFact

/-! ## Types -/

namespace TypeDefinition

private theorem isGenuine_numberAll
    {types : List TypeDefinition}
    (genuine : ∀ type ∈ types, ∀ position, (number position type).toValue.IsGenuine) :
    (Value.list (listToValue (numberAll 1 types))).IsGenuine := by
  rw [listToValue_eq_map]
  refine isGenuine_listed fun numbered isNumbered => ?_
  obtain ⟨type, isType, position, rfl⟩ := exists_position_of_mem_numberAll isNumbered
  exact genuine type isType position

private theorem isGenuine_of_ofEntries
    {room : Nat}
    (ofNested : FindsInGenuine (fun type => ∀ position, (number position type).toValue.IsGenuine)
      (checkWithin room))
    {entries : List (Key × Value)}
    {type : TypeDefinition}
    (genuine : (Value.map entries).IsGenuine)
    (read : ofEntries room entries = .ok type)
    (position : Int) :
    (number position type).toValue.IsGenuine := by
  have parts := partsRead_of_ofEntries read
  have attributesGenuine := isGenuine_attributes genuine parts.attributes
  have membersGenuine :
      (Value.list ((numberMembers type.members).map MemberFact.toValue)).IsGenuine := by
    refine isGenuine_listed fun numbered isNumbered => ?_
    obtain ⟨member, isMember, token, rfl⟩ := exists_token_of_mem_numberMembers isNumbered
    exact (MemberFact.findsInGenuine_checkWithin room).sequenceOf.optional genuine
      (List.forall_mem_nil _) parts.members member isMember token
  have nestedGenuine := isGenuine_numberAll
    (ofNested.sequenceOf.optional genuine (List.forall_mem_nil _) parts.nestedTypes)
  have plain := takesPlain_isGenuine
  rw [number_eq, toValue]
  refine plain.consistsOf_record ?_
  simp only [List.forall_mem_cons, plain.consistsOf_text, plain.consistsOf_int,
    plain.consistsOf_bool, plain.consistsOf_ofText?, TypeRef.consistsOf_optionToValue plain,
    TypeRef.consistsOf_listToValue plain, GenericParameterFact.consistsOf_listed plain,
    DocBlock.consistsOf_optional plain, List.not_mem_nil, false_implies, implies_true, and_true,
    true_and]
  exact ⟨attributesGenuine, membersGenuine, nestedGenuine⟩

private theorem isGenuine_ownerDefault
    {entries : List (Key × Value)}
    (genuine : (Value.map entries).IsGenuine)
    (index : Nat) :
    (Value.map (ownerDefault entries index)).IsGenuine := by
  refine isGenuine_map_iff.mpr (List.forall_mem_singleton.mpr ⟨trivial, ?_⟩)
  cases found : lookup? entries "full_name" with
  | none => exact isGenuine_null
  | some owner => exact isGenuine_of_lookup? genuine found

/-- A type that was read from a genuine value is genuine, with any number.  The induction is on the
room, which is smaller for nested types. -/
theorem findsInGenuine_checkWithin (room : Nat) :
    FindsInGenuine (fun type => ∀ position, (number position type).toValue.IsGenuine)
      (checkWithin room) := by
  induction room with
  | zero =>
      intro value type _ passed
      rw [checkWithin] at passed
      cases passed
  | succ room inductionHypothesis =>
      have ofRecord :
          FindsInGenuine (fun type => ∀ position, (number position type).toValue.IsGenuine)
            (recordOf "RawType" fun given => (completeEntries given).andThen (ofEntries room)) := by
        refine findsInGenuine_recordOf fun given type genuine isRead => ?_
        rw [completeEntries_eq] at isRead
        obtain ⟨entries, isCompleted, read⟩ := Checked.andThen_eq_ok_iff.mp isRead
        have defaultsGenuine : ∀ field ∈ completedFields given, ∀ index,
            (Value.map (field.2 index)).IsGenuine :=
          List.forall_mem_cons.mpr ⟨isGenuine_ownerDefault genuine,
            List.forall_mem_cons.mpr ⟨isGenuine_ownerDefault genuine,
              List.forall_mem_singleton.mpr isGenuine_positionDefault⟩⟩
        exact isGenuine_of_ofEntries inductionHypothesis
          (isGenuine_completeFields genuine defaultsGenuine isCompleted) read
      intro value type genuine passed
      rw [checkWithin_succ] at passed
      split at passed
      · cases passed
      · exact ofRecord genuine passed

end TypeDefinition

/-- A module that was read from a genuine value is genuine when it is put in order. -/
theorem ModuleDefinition.findsInGenuine_check :
    FindsInGenuine (fun definition => definition.assignDeclarationOrder.toValue.IsGenuine)
      check := by
  refine findsInGenuine_recordOf fun entries definition genuine read => ?_
  rw [Checked.seq_eq_ok_iff] at read
  obtain ⟨_, types, read, typesPassed, rfl⟩ := read
  rw [Checked.seq_eq_ok_iff] at read
  obtain ⟨_, version, read, -, rfl⟩ := read
  obtain ⟨name, -, rfl⟩ := Checked.functor_map_eq_ok_iff.mp read
  have typesGenuine := TypeDefinition.isGenuine_numberAll
    ((TypeDefinition.findsInGenuine_checkWithin _).sequenceOf.optional genuine
      (List.forall_mem_nil _) typesPassed)
  refine takesPlain_isGenuine.consistsOf_record ?_
  simp only [List.forall_mem_cons, takesPlain_isGenuine.consistsOf_text, List.not_mem_nil,
    false_implies, implies_true, and_true, true_and]
  exact typesGenuine

end TypeCatalog
