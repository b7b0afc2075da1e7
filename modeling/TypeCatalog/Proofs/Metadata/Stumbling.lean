import TypeCatalog.Metadata.TypeDefinition
import TypeCatalog.Proofs.Metadata.Overflow
import TypeCatalog.Proofs.Schema.Completion

namespace TypeCatalog

/-!
# Modules that cannot be checked

Checking a module crashes for two reasons only, at whatever depth they stand: a field whose items are
completed holds a value that has no items to run through, or a shorthand text for a reference takes
too many calls to read.  Everything else that can be wrong with a module is found as an issue.
-/

open Schema

variable {α : Type}

/-- A position that is added to an item changes nothing else in it. -/
private theorem crashes_complete_iff
    {check : Schema.Check α}
    {sort : Value → Prop}
    {name : String}
    {item : Value}
    (crashes_iff : ∀ value, (check value).Crashes ↔ HasField name sort value)
    (unique : item.HasUniqueKeys)
    (different : name ≠ "position")
    (index : Nat) :
    (check (complete (positionDefault index) item)).Crashes ↔ HasField name sort item := by
  rw [crashes_iff, HasField, HasField, lookup?_complete unique]
  simp [positionDefault, different.symm, Value.lookup?]

/-! ## Members -/

namespace MemberFact

/-- A member that makes its check crash. -/
inductive Stumbles (room : Nat) (value : Value) : Prop
  | solid {name : String} {held : Value}
      (isField : name = "parameters" ∨ name = "generic_parameters")
      (isHeld : Value.lookup? (modelEntries value) name = some held)
      (isSolid : IsSolid held)
  | type {held : Value}
      (isHeld : Value.lookup? (modelEntries value) "type" = some held)
      (overflows : TypeRef.Overflows (room - 1) held)
  | parameter {held item : Value}
      (isHeld : Value.lookup? (modelEntries value) "parameters" = some held)
      (isMet : IsMetIn item held)
      (overflows : ParameterFact.Overflows room item)
  | genericParameter {held item : Value}
      (isHeld : Value.lookup? (modelEntries value) "generic_parameters" = some held)
      (isMet : IsMetIn item held)
      (overflows : GenericParameterFact.Overflows room item)

/-- What a member stumbles over is found under names other than that of the declaring type. -/
theorem Stumbles.of_lookup?
    {room : Nat}
    {value other : Value}
    (same : ∀ name, name ≠ "declaring_type" →
      Value.lookup? (modelEntries other) name = Value.lookup? (modelEntries value) name)
    (stumbles : Stumbles room value) :
    Stumbles room other := by
  cases stumbles with
  | solid isField isHeld isSolid =>
      refine .solid isField ?_ isSolid
      rw [same _ (by rcases isField with rfl | rfl <;> decide), isHeld]
  | type isHeld overflows =>
      exact .type ((same _ (by decide)).trans isHeld) overflows
  | parameter isHeld isMet overflows =>
      exact .parameter ((same _ (by decide)).trans isHeld) isMet overflows
  | genericParameter isHeld isMet overflows =>
      exact .genericParameter ((same _ (by decide)).trans isHeld) isMet overflows

theorem neverCrashes_checkAccessibility : NeverCrashes checkAccessibility :=
  neverCrashes_choice _

private theorem crashes_ofEntries_iff
    {room : Nat}
    {entries : List (Key × Value)} :
    (ofEntries room entries).Crashes ↔
      (∃ held, Value.lookup? entries "type" = some held ∧ TypeRef.Overflows (room - 1) held) ∨
        (∃ held, Value.lookup? entries "parameters" = some held ∧
          (sequenceOf (ParameterFact.check room) held).Crashes) ∨
        ∃ held, Value.lookup? entries "generic_parameters" = some held ∧
          (sequenceOf (GenericParameterFact.check room) held).Crashes := by
  have nothing : ¬ (TypeRef.checkInside room .null).Crashes := by
    rw [TypeRef.checkInside, TypeRef.crashes_checkWithin_iff]
    exact TypeRef.not_overflows_null _
  simp only [ofEntries, Checked.crashes_seq_iff, Checked.crashes_functor_map_iff,
    neverCrashes_text.not_crashes_required, (neverCrashes_choice _).not_crashes_required,
    neverCrashes_checkAccessibility.not_crashes_optional,
    neverCrashes_checkAccessibility.nullable.not_crashes_optional,
    neverCrashes_whole.not_crashes_optional, neverCrashes_truth.not_crashes_optional,
    neverCrashes_anything.not_crashes_optional, neverCrashes_text.nullable.not_crashes_optional,
    AttributeFact.neverCrashes_check.sequenceOf.not_crashes_optional,
    DocBlock.neverCrashes_check.nullable.not_crashes_optional,
    false_or, or_false, or_assoc]
  simp only [crashes_optional_iff, crashes_nullable_iff nothing]
  simp only [TypeRef.checkInside, TypeRef.crashes_checkWithin_iff]

/-- The fields whose items are completed. -/
def completedFields : List (String × (Nat → List (Key × Value))) :=
  [("parameters", positionDefault), ("generic_parameters", positionDefault)]

theorem completeItems_eq
    (entries : List (Key × Value)) :
    (completeItems "parameters" positionDefault entries).andThen
        (completeItems "generic_parameters" positionDefault) =
      completeFields completedFields entries := by
  simp [completeFields, completedFields]

private theorem distinct_completedFields : (completedFields.map Prod.fst).Nodup := by
  decide

/-- Where no completed field is solid, a member stumbles over its own type or over a parameter. -/
private theorem crashes_ofEntries_completed_iff
    {room : Nat}
    {value : Value}
    (unique : value.HasUniqueKeys)
    {final : List (Key × Value)}
    (isFinal : completeFields completedFields (modelEntries value) = .ok final) :
    (ofEntries room final).Crashes ↔
      (∃ held, Value.lookup? (modelEntries value) "type" = some held ∧
          TypeRef.Overflows (room - 1) held) ∨
        (∃ held item, Value.lookup? (modelEntries value) "parameters" = some held ∧
          IsMetIn item held ∧ ParameterFact.Overflows room item) ∨
        ∃ held item, Value.lookup? (modelEntries value) "generic_parameters" = some held ∧
          IsMetIn item held ∧ GenericParameterFact.Overflows room item := by
  have itemUnique : ∀ {name held item},
      Value.lookup? (modelEntries value) name = some held → IsMetIn item held →
        item.HasUniqueKeys :=
    fun isHeld isMet => hasUniqueKeys_of_isMetIn
      (Value.HasUniqueKeys.of_lookup? (hasUniqueKeys_modelEntries unique).entries.2 isHeld) isMet
  rw [crashes_ofEntries_iff]
  refine or_congr ?_ (or_congr ?_ ?_)
  · rw [lookup?_completeFields_of_not_mem isFinal (by decide)]
  · refine crashes_completedField_iff distinct_completedFields isFinal List.mem_cons_self ?_
    intro held item isHeld isMet
    exact crashes_complete_iff (fun _ => ParameterFact.crashes_check_iff)
      (itemUnique isHeld isMet) (by decide)
  · refine crashes_completedField_iff distinct_completedFields isFinal
      (List.mem_cons_of_mem _ List.mem_cons_self) ?_
    intro held item isHeld isMet
    exact crashes_complete_iff (fun _ => GenericParameterFact.crashes_check_iff)
      (itemUnique isHeld isMet) (by decide)

/-- Checking a member crashes exactly if it stumbles over something. -/
theorem crashes_checkWithin_iff
    {room : Nat}
    {value : Value}
    (unique : value.HasUniqueKeys) :
    (checkWithin room value).Crashes ↔ Stumbles room value := by
  unfold checkWithin
  rw [crashes_recordOf_iff]
  · rw [completeItems_eq, crashes_completeFields_andThen_iff distinct_completedFields
      (crashes_ofEntries_completed_iff unique)]
    constructor
    · rintro (⟨name, isField, held, isHeld, isSolid⟩ | ⟨_, isHeld, overflows⟩ |
        ⟨_, _, isHeld, isMet, overflows⟩ | ⟨_, _, isHeld, isMet, overflows⟩)
      · exact .solid (by simpa [completedFields] using isField) isHeld isSolid
      · exact .type isHeld overflows
      · exact .parameter isHeld isMet overflows
      · exact .genericParameter isHeld isMet overflows
    · intro stumbles
      cases stumbles with
      | solid isField isHeld isSolid =>
          exact .inl ⟨_, by simpa [completedFields] using isField, _, isHeld, isSolid⟩
      | type isHeld overflows =>
          exact .inr (.inl ⟨_, isHeld, overflows⟩)
      | parameter isHeld isMet overflows =>
          exact .inr (.inr (.inl ⟨_, _, isHeld, isMet, overflows⟩))
      | genericParameter isHeld isMet overflows =>
          exact .inr (.inr (.inr ⟨_, _, isHeld, isMet, overflows⟩))
  · rw [completeItems_eq, completeFields_noEntries]
    simp [Checked.andThen, crashes_ofEntries_iff, Value.lookup?]

end MemberFact

/-! ## Types -/

namespace TypeDefinition

/-- A type that makes its check crash, where there is room for so many types inside one another. -/
inductive Stumbles : Nat → Value → Prop
  | solid {room : Nat} {value : Value} {name : String} {held : Value}
      (isField : name = "members" ∨ name = "nested_types" ∨ name = "generic_parameters")
      (isHeld : Value.lookup? (modelEntries value) name = some held)
      (isSolid : IsSolid held) :
      Stumbles (room + 1) value
  | baseType {room : Nat} {value held : Value}
      (isHeld : Value.lookup? (modelEntries value) "base_type" = some held)
      (overflows : TypeRef.Overflows (room - 1) held) :
      Stumbles (room + 1) value
  | interface {room : Nat} {value held item : Value}
      (isHeld : Value.lookup? (modelEntries value) "interfaces" = some held)
      (isItem : item ∈ listItems held)
      (overflows : TypeRef.Overflows (room - 1) item) :
      Stumbles (room + 1) value
  | genericParameter {room : Nat} {value held item : Value}
      (isHeld : Value.lookup? (modelEntries value) "generic_parameters" = some held)
      (isMet : IsMetIn item held)
      (overflows : GenericParameterFact.Overflows room item) :
      Stumbles (room + 1) value
  | member {room : Nat} {value held item : Value}
      (isHeld : Value.lookup? (modelEntries value) "members" = some held)
      (isMet : IsMetIn item held)
      (stumbles : MemberFact.Stumbles room item) :
      Stumbles (room + 1) value
  | nestedType {room : Nat} {value held item : Value}
      (isHeld : Value.lookup? (modelEntries value) "nested_types" = some held)
      (isMet : IsMetIn item held)
      (stumbles : Stumbles room item) :
      Stumbles (room + 1) value

/-- What a type stumbles over is found under names other than that of the declaring type. -/
theorem Stumbles.of_lookup?
    {room : Nat}
    {value other : Value}
    (same : ∀ name, name ≠ "declaring_type" →
      Value.lookup? (modelEntries other) name = Value.lookup? (modelEntries value) name)
    (stumbles : Stumbles room value) :
    Stumbles room other := by
  cases stumbles with
  | solid isField isHeld isSolid =>
      refine .solid isField ?_ isSolid
      rw [same _ (by rcases isField with rfl | rfl | rfl <;> decide), isHeld]
  | baseType isHeld overflows =>
      exact .baseType ((same _ (by decide)).trans isHeld) overflows
  | interface isHeld isItem overflows =>
      exact .interface ((same _ (by decide)).trans isHeld) isItem overflows
  | genericParameter isHeld isMet overflows =>
      exact .genericParameter ((same _ (by decide)).trans isHeld) isMet overflows
  | member isHeld isMet stumbles =>
      exact .member ((same _ (by decide)).trans isHeld) isMet stumbles
  | nestedType isHeld isMet stumbles =>
      exact .nestedType ((same _ (by decide)).trans isHeld) isMet stumbles

/-- The fields of a type whose items are completed. -/
def completedFields
    (entries : List (Key × Value)) : List (String × (Nat → List (Key × Value))) :=
  [("members", ownerDefault entries), ("nested_types", ownerDefault entries),
    ("generic_parameters", positionDefault)]

theorem completeEntries_eq
    (entries : List (Key × Value)) :
    completeEntries entries = completeFields (completedFields entries) entries := by
  simp [completeEntries, completeFields, completedFields, Checked.andThen_assoc]

/-- Reads a type from completed entries, where there is room for so many types inside it. -/
def ofEntries
    (room : Nat)
    (entries : List (Key × Value)) : Checked TypeDefinition :=
  TypeDefinition.mk
    <$> Schema.required entries "full_name" Schema.text
    <*> Schema.optional entries "kind" .classType
      (Schema.choice (TypeKind.all.map fun kind => (kind.word, kind)))
    <*> Schema.optional entries "accessibility" .public MemberFact.checkAccessibility
    <*> Schema.optional entries "token" 0 Schema.whole
    <*> Schema.optional entries "is_abstract" false Schema.truth
    <*> Schema.optional entries "is_sealed" false Schema.truth
    <*> Schema.optional entries "is_generic_definition" false Schema.truth
    <*> Schema.optional entries "declaring_type" none (Schema.nullable Schema.text)
    <*> Schema.optional entries "base_type" none (Schema.nullable (TypeRef.checkInside room))
    <*> Schema.optional entries "interfaces" [] (Schema.sequenceOf (TypeRef.checkInside room))
    <*> Schema.optional entries "attributes" [] (Schema.sequenceOf AttributeFact.check)
    <*> Schema.optional entries "generic_parameters" []
      (Schema.sequenceOf (GenericParameterFact.check room))
    <*> Schema.optional entries "members" [] (Schema.sequenceOf (MemberFact.checkWithin room))
    <*> Schema.optional entries "docs" none (Schema.nullable DocBlock.check)
    <*> Schema.optional entries "nested_types" [] (Schema.sequenceOf (checkWithin room))

theorem checkWithin_succ
    (room : Nat)
    (value : Value) :
    checkWithin (room + 1) value =
      if value.isEndless then
        .reject TypeRef.tooDeepMessage value
      else
        recordOf "RawType" (fun given => (completeEntries given).andThen (ofEntries room))
          value := by
  rw [checkWithin]
  rfl

private theorem crashes_ofEntries_iff
    {room : Nat}
    {entries : List (Key × Value)} :
    (ofEntries room entries).Crashes ↔
      (∃ held, Value.lookup? entries "base_type" = some held ∧
          TypeRef.Overflows (room - 1) held) ∨
        (∃ held, Value.lookup? entries "interfaces" = some held ∧
          HasItem (TypeRef.Overflows (room - 1)) held) ∨
        (∃ held, Value.lookup? entries "generic_parameters" = some held ∧
          (sequenceOf (GenericParameterFact.check room) held).Crashes) ∨
        (∃ held, Value.lookup? entries "members" = some held ∧
          (sequenceOf (MemberFact.checkWithin room) held).Crashes) ∨
        ∃ held, Value.lookup? entries "nested_types" = some held ∧
          (sequenceOf (checkWithin room) held).Crashes := by
  have nothing : ¬ (TypeRef.checkInside room .null).Crashes := by
    rw [TypeRef.checkInside, TypeRef.crashes_checkWithin_iff]
    exact TypeRef.not_overflows_null _
  simp only [ofEntries, Checked.crashes_seq_iff, Checked.crashes_functor_map_iff,
    neverCrashes_text.not_crashes_required, (neverCrashes_choice _).not_crashes_optional,
    MemberFact.neverCrashes_checkAccessibility.not_crashes_optional,
    neverCrashes_whole.not_crashes_optional, neverCrashes_truth.not_crashes_optional,
    neverCrashes_text.nullable.not_crashes_optional,
    AttributeFact.neverCrashes_check.sequenceOf.not_crashes_optional,
    DocBlock.neverCrashes_check.nullable.not_crashes_optional,
    false_or, or_false, or_assoc]
  simp only [crashes_optional_iff, crashes_nullable_iff nothing]
  simp only [TypeRef.checkInside, crashes_sequenceOf_iff, TypeRef.crashes_checkWithin_iff]

private theorem ownerDefault_unique
    {entries : List (Key × Value)}
    (entriesUnique : ∀ entry ∈ entries, entry.2.HasUniqueKeys)
    (index : Nat) :
    (Value.map (ownerDefault entries index)).HasUniqueKeys := by
  refine .map (List.pairwise_singleton _ _) fun entry member => ?_
  rw [List.mem_singleton.mp member]
  cases found : Value.lookup? entries "full_name" with
  | none => exact .single trivial
  | some name => exact Value.HasUniqueKeys.of_lookup? entriesUnique found

/-- What an item has under a name other than that of the declaring type, it has when the declaring
type is added. -/
private theorem lookup?_complete_ownerDefault
    (entries : List (Key × Value))
    (index : Nat)
    {item : Value}
    (unique : item.HasUniqueKeys)
    {name : String}
    (different : name ≠ "declaring_type") :
    Value.lookup? (modelEntries (complete (ownerDefault entries index) item)) name =
      Value.lookup? (modelEntries item) name := by
  refine lookup?_complete unique ?_
  simp [ownerDefault, Value.lookup?, different.symm]

private theorem distinct_completedFields
    (entries : List (Key × Value)) :
    ((completedFields entries).map Prod.fst).Nodup := by
  simp [completedFields]

/-- Where no completed field is solid, a type stumbles over a reference, a member or a type in it. -/
private theorem crashes_ofEntries_completed_iff
    {room : Nat}
    {value : Value}
    (unique : value.HasUniqueKeys)
    (nested_iff : ∀ {item : Value}, item.HasUniqueKeys →
      ((checkWithin room item).Crashes ↔ Stumbles room item))
    {final : List (Key × Value)}
    (isFinal :
      completeFields (completedFields (modelEntries value)) (modelEntries value) = .ok final) :
    (ofEntries room final).Crashes ↔
      (∃ held, Value.lookup? (modelEntries value) "base_type" = some held ∧
          TypeRef.Overflows (room - 1) held) ∨
        (∃ held, Value.lookup? (modelEntries value) "interfaces" = some held ∧
          HasItem (TypeRef.Overflows (room - 1)) held) ∨
        (∃ held item, Value.lookup? (modelEntries value) "generic_parameters" = some held ∧
          IsMetIn item held ∧ GenericParameterFact.Overflows room item) ∨
        (∃ held item, Value.lookup? (modelEntries value) "members" = some held ∧
          IsMetIn item held ∧ MemberFact.Stumbles room item) ∨
        ∃ held item, Value.lookup? (modelEntries value) "nested_types" = some held ∧
          IsMetIn item held ∧ Stumbles room item := by
  have entriesUnique := (hasUniqueKeys_modelEntries unique).entries.2
  have itemUnique : ∀ {name held item},
      Value.lookup? (modelEntries value) name = some held → IsMetIn item held →
        item.HasUniqueKeys :=
    fun isHeld isMet => hasUniqueKeys_of_isMetIn
      (Value.HasUniqueKeys.of_lookup? entriesUnique isHeld) isMet
  have distinct := distinct_completedFields (modelEntries value)
  have completedUnique : ∀ {item : Value}, item.HasUniqueKeys → ∀ index,
      (complete (ownerDefault (modelEntries value) index) item).HasUniqueKeys :=
    fun itemUnique index =>
      hasUniqueKeys_complete itemUnique (ownerDefault_unique entriesUnique index)
  rw [crashes_ofEntries_iff]
  refine or_congr ?_ (or_congr ?_ (or_congr ?_ (or_congr ?_ ?_)))
  · rw [lookup?_completeFields_of_not_mem isFinal (by simp [completedFields])]
  · rw [lookup?_completeFields_of_not_mem isFinal (by simp [completedFields])]
  · have isField : ("generic_parameters", positionDefault) ∈ completedFields (modelEntries value) :=
      by simp [completedFields]
    refine crashes_completedField_iff distinct isFinal isField ?_
    intro held item isHeld isMet
    exact crashes_complete_iff (fun _ => GenericParameterFact.crashes_check_iff)
      (itemUnique isHeld isMet) (by decide)
  · refine crashes_completedField_iff distinct isFinal List.mem_cons_self ?_
    intro held item isHeld isMet index
    have unique := itemUnique isHeld isMet
    rw [MemberFact.crashes_checkWithin_iff (completedUnique unique index)]
    have same : ∀ name, name ≠ "declaring_type" → Value.lookup? (modelEntries
        (complete (ownerDefault (modelEntries value) index) item)) name =
          Value.lookup? (modelEntries item) name :=
      fun _ => lookup?_complete_ownerDefault (modelEntries value) index unique
    exact ⟨.of_lookup? fun name different => (same name different).symm, .of_lookup? same⟩
  · refine crashes_completedField_iff distinct isFinal
      (List.mem_cons_of_mem _ List.mem_cons_self) ?_
    intro held item isHeld isMet index
    have unique := itemUnique isHeld isMet
    rw [nested_iff (completedUnique unique index)]
    have same : ∀ name, name ≠ "declaring_type" → Value.lookup? (modelEntries
        (complete (ownerDefault (modelEntries value) index) item)) name =
          Value.lookup? (modelEntries item) name :=
      fun _ => lookup?_complete_ownerDefault (modelEntries value) index unique
    exact ⟨.of_lookup? fun name different => (same name different).symm, .of_lookup? same⟩

/-- Checking a type crashes exactly if it stumbles over something. -/
theorem crashes_checkWithin_iff
    {room : Nat}
    {value : Value}
    (unique : value.HasUniqueKeys) :
    (checkWithin room value).Crashes ↔ Stumbles room value := by
  induction room generalizing value with
  | zero =>
      constructor
      · intro crashes
        simp [checkWithin] at crashes
      · rintro ⟨⟩
  | succ room inductionHypothesis =>
      rw [checkWithin_succ]
      split
      · next isEndless =>
          have noEntries := TypeRef.modelEntries_of_isEndless isEndless
          constructor
          · intro crashes
            simp at crashes
          · rintro (⟨_, isHeld, _⟩ | ⟨isHeld, _⟩ | ⟨isHeld, _, _⟩ | ⟨isHeld, _, _⟩ |
              ⟨isHeld, _, _⟩ | ⟨isHeld, _, _⟩) <;>
              · rw [noEntries] at isHeld
                cases isHeld
      · rw [crashes_recordOf_iff]
        · rw [completeEntries_eq, crashes_completeFields_andThen_iff (distinct_completedFields _)
            (crashes_ofEntries_completed_iff unique inductionHypothesis)]
          constructor
          · rintro (⟨name, isField, held, isHeld, isSolid⟩ | ⟨_, isHeld, overflows⟩ |
              ⟨_, isHeld, _, isItem, overflows⟩ | ⟨_, _, isHeld, isMet, overflows⟩ |
              ⟨_, _, isHeld, isMet, stumbles⟩ | ⟨_, _, isHeld, isMet, stumbles⟩)
            · exact .solid (by simpa [completedFields] using isField) isHeld isSolid
            · exact .baseType isHeld overflows
            · exact .interface isHeld isItem overflows
            · exact .genericParameter isHeld isMet overflows
            · exact .member isHeld isMet stumbles
            · exact .nestedType isHeld isMet stumbles
          · intro stumbles
            cases stumbles with
            | solid isField isHeld isSolid =>
                exact .inl ⟨_, by simpa [completedFields] using isField, _, isHeld, isSolid⟩
            | baseType isHeld overflows =>
                exact .inr (.inl ⟨_, isHeld, overflows⟩)
            | interface isHeld isItem overflows =>
                exact .inr (.inr (.inl ⟨_, isHeld, _, isItem, overflows⟩))
            | genericParameter isHeld isMet overflows =>
                exact .inr (.inr (.inr (.inl ⟨_, _, isHeld, isMet, overflows⟩)))
            | member isHeld isMet stumbles =>
                exact .inr (.inr (.inr (.inr (.inl ⟨_, _, isHeld, isMet, stumbles⟩))))
            | nestedType isHeld isMet stumbles =>
                exact .inr (.inr (.inr (.inr (.inr ⟨_, _, isHeld, isMet, stumbles⟩))))
        · rw [completeEntries_eq, completeFields_noEntries]
          simp [Checked.andThen, crashes_ofEntries_iff, Value.lookup?]

end TypeDefinition

/-! ## Modules -/

namespace ModuleDefinition

/-- A module with a type that makes its check crash. -/
def Stumbles : Value → Prop :=
  HasField "types" (HasItem (TypeDefinition.Stumbles (Limits.checkedDepth - 1)))

/-- Checking a module crashes exactly if it stumbles over something. -/
theorem crashes_check_iff
    {value : Value}
    (unique : value.HasUniqueKeys) :
    (check value).Crashes ↔ Stumbles value := by
  have crashes_ofTypes_iff : ∀ entries,
      (ModuleDefinition.mk
        <$> Schema.required entries "name" Schema.text
        <*> Schema.optional entries "version" "" Schema.text
        <*> Schema.optional entries "types" []
          (Schema.sequenceOf TypeDefinition.check)).Crashes ↔
        ∃ held, Value.lookup? entries "types" = some held ∧
          HasItem (fun item => (TypeDefinition.check item).Crashes) held := by
    intro entries
    simp only [Checked.crashes_seq_iff, Checked.crashes_functor_map_iff,
      neverCrashes_text.not_crashes_required, neverCrashes_text.not_crashes_optional, false_or,
      crashes_optional_iff, crashes_sequenceOf_iff]
  unfold check
  rw [crashes_recordOf_iff, crashes_ofTypes_iff]
  · refine exists_congr fun held => and_congr_right fun isHeld => ?_
    have heldUnique :=
      Value.HasUniqueKeys.of_lookup? (hasUniqueKeys_modelEntries unique).entries.2 isHeld
    refine exists_congr fun item => and_congr_right fun isItem => ?_
    exact TypeDefinition.crashes_checkWithin_iff (hasUniqueKeys_of_mem_listItems heldUnique isItem)
  · simp [crashes_ofTypes_iff, Value.lookup?]

end ModuleDefinition

end TypeCatalog
