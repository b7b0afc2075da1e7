import TypeCatalog.Proofs.Metadata.Stumbling
import TypeCatalog.Proofs.Schema.Restoring

namespace TypeCatalog

/-!
# Modules that are written out

A module that was accepted, whatever was left out or abbreviated in it, is accepted again when every
field of every part is written out, and nothing changes.  Giving out declaration order a second time
changes nothing either.
-/

open Schema Value

/-! ## Ranks in shorthand texts -/

namespace Shorthand

/-- Whether every array in a shorthand has a dimension. -/
inductive HasDimensions : Shorthand → Prop
  | named (fullName : String) : HasDimensions (.named fullName)
  | constructed (fullName : String) {arguments : List Shorthand}
      (argumentsHave : ∀ argument ∈ arguments, HasDimensions argument) :
      HasDimensions (.constructed fullName arguments)
  | genericParameter (fullName : String) : HasDimensions (.genericParameter fullName)
  | array {element : Shorthand} {rank : Nat} (rank_pos : 1 ≤ rank)
      (elementHas : HasDimensions element) : HasDimensions (.array element rank)
  | pointer {element : Shorthand} (elementHas : HasDimensions element) :
      HasDimensions (.pointer element)
  | byReference {element : Shorthand} (elementHas : HasDimensions element) :
      HasDimensions (.byReference element)

private theorem exists_of_mem_of_mapM
    {ε α β : Type}
    {f : α → Except ε β}
    {items : List α}
    {results : List β}
    (passed : items.mapM f = .ok results) :
    ∀ result ∈ results, ∃ item ∈ items, f item = .ok result := by
  induction items generalizing results with
  | nil =>
      cases passed
      simp
  | cons item rest inductionHypothesis =>
      rw [List.mapM_cons] at passed
      cases first : f item with
      | error fault =>
          rw [first] at passed
          cases passed
      | ok one =>
          cases others : rest.mapM f with
          | error fault =>
              rw [first, others] at passed
              cases passed
          | ok more =>
              rw [first, others] at passed
              cases passed
              refine List.forall_mem_cons.mpr ⟨⟨item, List.mem_cons_self, first⟩, ?_⟩
              intro result member
              obtain ⟨other, inRest, isResult⟩ := inductionHypothesis others result member
              exact ⟨other, List.mem_cons_of_mem item inRest, isResult⟩

theorem hasDimensions_of_read
    {calls : Nat}
    {text : List Char}
    {shorthand : Shorthand}
    (isRead : read calls text = .ok shorthand) :
    shorthand.HasDimensions := by
  fun_induction read calls text generalizing shorthand with
  | case1 | case2 | case5 | case9 =>
      cases isRead
  | case3 =>
      rename_i inductionHypothesis
      obtain ⟨element, elementRead, rfl⟩ := Except.exists_of_map_eq_ok isRead
      exact .byReference (inductionHypothesis elementRead)
  | case4 =>
      rename_i inductionHypothesis
      obtain ⟨element, elementRead, rfl⟩ := Except.exists_of_map_eq_ok isRead
      exact .pointer (inductionHypothesis elementRead)
  | case6 =>
      rename_i inductionHypothesis
      obtain ⟨element, elementRead, rfl⟩ := Except.exists_of_map_eq_ok isRead
      exact .array (Nat.le_add_left 1 _) (inductionHypothesis elementRead)
  | case7 =>
      cases isRead
      exact .genericParameter _
  | case8 =>
      rename_i inductionHypothesis
      obtain ⟨arguments, argumentsRead, rfl⟩ := Except.exists_of_map_eq_ok isRead
      refine .constructed _ fun argument member => ?_
      obtain ⟨piece, _, pieceRead⟩ := exists_of_mem_of_mapM argumentsRead argument member
      exact inductionHypothesis piece pieceRead
  | case10 =>
      cases isRead
      exact .named _

end Shorthand

/-! ## References -/

namespace TypeRef

theorem listToValue_eq_map (references : List TypeRef) :
    listToValue references = references.map toValue := by
  induction references with
  | nil =>
      rfl
  | cons first rest inductionHypothesis =>
      rw [listToValue, inductionHypothesis, List.map_cons]

/-- A reference that lacks nothing is read again if its parts are. -/
private theorem checkWithin_toValue_of_parts
    {room : Nat}
    {reference : TypeRef}
    (elementRestored : ∀ element, reference.element? = some element →
      checkWithin room element.toValue = .ok element)
    (argumentsRestored : ∀ argument ∈ reference.arguments,
      checkWithin room argument.toValue = .ok argument)
    (rank_pos : 1 ≤ reference.rank)
    (shaped : reference.shapeFault? = none) :
    checkWithin (room + 1) reference.toValue = .ok reference := by
  obtain ⟨kind, fullName, element?, rank, arguments⟩ := reference
  dsimp only at elementRestored argumentsRestored rank_pos
  have kindRead :
      choice (ReferenceKind.all.map fun kind => (kind.word, kind)) (.text kind.word) = .ok kind := by
    cases kind <;> rfl
  have elementRead : nullable (checkWithin room) (optionToValue element?) = .ok element? := by
    cases element? with
    | none => rfl
    | some element =>
        have restored := elementRestored element rfl
        cases element
        exact Checked.map_eq_ok_iff.mpr ⟨_, restored, rfl⟩
  have rankRead : (wholeFrom 1 (.ofNat rank)).map Int.toNat = .ok rank := by
    refine Checked.map_eq_ok_iff.mpr ⟨rank, ?_, Int.toNat_natCast rank⟩
    exact Checked.andThen_eq_ok_iff.mpr ⟨rank, rfl, if_neg (by omega)⟩
  have argumentsRead :
      sequenceOf (checkWithin room) (.list (listToValue arguments)) = .ok arguments := by
    rw [listToValue_eq_map]
    exact sequenceOf_map argumentsRestored
  have holds := holds_record
    [("kind", .text kind.word), ("full_name", .text fullName),
      ("element", optionToValue element?), ("rank", .ofNat rank),
      ("type_arguments", .list (listToValue arguments))]
  refine Checked.andThen_eq_ok_iff.mpr ⟨⟨kind, fullName, element?, rank, arguments⟩, ?_, ?_⟩
  · exact Checked.seq_of_ok (Checked.seq_of_ok (Checked.seq_of_ok (Checked.seq_of_ok (Checked.functorMap_of_ok
      (optional_of_holds holds rfl kindRead))
      (optional_of_holds holds rfl rfl))
      (optional_of_holds holds rfl elementRead))
      (optional_of_holds holds rfl rankRead))
      (optional_of_holds holds rfl argumentsRead)
  · rw [checkShape, shaped]

private theorem eq_of_checkShape
    {input : Value}
    {reference result : TypeRef}
    (passed : checkShape input reference = .ok result) :
    result = reference ∧ reference.shapeFault? = none := by
  unfold checkShape at passed
  split at passed
  · cases passed
  · next shaped =>
      cases passed
      exact ⟨rfl, shaped⟩

private theorem checkWithin_toValue_of_wrapping
    {room rank : Nat}
    {kind : ReferenceKind}
    {element : TypeRef}
    (wraps : kind.wraps = true)
    (rank_pos : 1 ≤ rank)
    (restored : checkWithin room element.toValue = .ok element) :
    checkWithin (room + 1) (toValue ⟨kind, "", some element, rank, []⟩) =
      .ok ⟨kind, "", some element, rank, []⟩ := by
  refine checkWithin_toValue_of_parts ?_ (by simp) rank_pos (by simp [shapeFault?, wraps])
  rintro _ ⟨rfl⟩
  exact restored

mutual

theorem checkWithin_toValue_of_ofShorthand :
    ∀ {room : Nat} {shorthand : Shorthand} {reference : TypeRef},
      shorthand.HasDimensions → ofShorthand room shorthand = .ok reference →
        checkWithin room reference.toValue = .ok reference
  | 0, _, _, _, passed => by
    rw [ofShorthand] at passed
    cases passed
  | _ + 1, .named _, _, _, passed | _ + 1, .genericParameter _, _, _, passed => by
    rw [ofShorthand] at passed
    obtain ⟨rfl, shaped⟩ := eq_of_checkShape passed
    exact checkWithin_toValue_of_parts (by simp) (by simp) (Nat.le_refl 1) shaped
  | room + 1, .constructed fullName arguments, _, .constructed _ argumentsHave, passed => by
    rw [ofShorthand] at passed
    obtain ⟨checked, argumentsPassed, passed⟩ := Checked.andThen_eq_ok_iff.mp passed
    obtain ⟨rfl, shaped⟩ := eq_of_checkShape passed
    exact checkWithin_toValue_of_parts (by simp)
      (checkWithin_toValue_of_ofShorthands argumentsHave argumentsPassed) (Nat.le_refl 1) shaped
  | room + 1, .array element rank, _, .array rank_pos elementHas, passed => by
    rw [ofShorthand] at passed
    obtain ⟨checked, elementPassed, rfl⟩ := Checked.map_eq_ok_iff.mp passed
    exact checkWithin_toValue_of_wrapping rfl rank_pos
      (checkWithin_toValue_of_ofShorthand elementHas (Checked.under_eq_ok_iff.mp elementPassed))
  | room + 1, .pointer element, _, .pointer elementHas, passed
  | room + 1, .byReference element, _, .byReference elementHas, passed => by
    rw [ofShorthand] at passed
    obtain ⟨checked, elementPassed, rfl⟩ := Checked.map_eq_ok_iff.mp passed
    exact checkWithin_toValue_of_wrapping rfl (Nat.le_refl 1)
      (checkWithin_toValue_of_ofShorthand elementHas (Checked.under_eq_ok_iff.mp elementPassed))

theorem checkWithin_toValue_of_ofShorthands :
    ∀ {room index : Nat} {shorthands : List Shorthand} {references : List TypeRef},
      (∀ shorthand ∈ shorthands, shorthand.HasDimensions) →
      ofShorthands room index shorthands = .ok references →
        ∀ reference ∈ references, checkWithin room reference.toValue = .ok reference
  | _, _, [], _, _, passed => by
    rw [ofShorthands] at passed
    cases passed
    simp
  | _, _, argument :: rest, _, have_, passed => by
    rw [ofShorthands] at passed
    obtain ⟨first, others, firstPassed, othersPassed, rfl⟩ :=
      Checked.combine_eq_ok_iff.mp passed
    simp only [Checked.under_eq_ok_iff] at firstPassed
    obtain ⟨firstHas, restHave⟩ := List.forall_mem_cons.mp have_
    exact List.forall_mem_cons.mpr
      ⟨checkWithin_toValue_of_ofShorthand firstHas firstPassed,
        checkWithin_toValue_of_ofShorthands restHave othersPassed⟩

end

private theorem checkWithin_toValue_of_ofText
    {room : Nat}
    {content : String}
    {reference : TypeRef}
    (passed : ofText room content = .ok reference) :
    checkWithin room reference.toValue = .ok reference := by
  unfold ofText at passed
  split at passed
  · next shorthand isRead =>
      exact checkWithin_toValue_of_ofShorthand (Shorthand.hasDimensions_of_read isRead) passed
  · split at passed <;> cases passed

private theorem rank_pos_of_read
    {entries : List (Key × Value)}
    {rank : Nat}
    (passed :
      Schema.optional entries "rank" 1 (fun rank => (wholeFrom 1 rank).map Int.toNat) = .ok rank) :
    1 ≤ rank := by
  rcases eq_or_checked_of_optional passed with rfl | ⟨_, rankPassed⟩
  · exact Nat.le_refl 1
  · obtain ⟨_, wholePassed, rfl⟩ := Checked.map_eq_ok_iff.mp rankPassed
    have bound := le_of_wholeFrom wholePassed
    exact Int.le_toNat (by omega) |>.mpr bound

/-- A reference is read again when it is written out, in the same room. -/
theorem checkWithin_toValue
    {room : Nat}
    {value : Value}
    {reference : TypeRef}
    (passed : checkWithin room value = .ok reference) :
    checkWithin room reference.toValue = .ok reference := by
  induction room generalizing value reference with
  | zero =>
      rw [checkWithin] at passed
      cases passed
  | succ room inductionHypothesis =>
      unfold checkWithin at passed
      split at passed
      · cases passed
      · next isSucc =>
          cases isSucc
          exact checkWithin_toValue_of_ofText passed
      · obtain ⟨_, _, rejected⟩ := Checked.andThen_eq_ok_iff.mp passed
        cases rejected
      · next isSucc _ _ =>
          cases isSucc
          split at passed
          · cases passed
          · obtain ⟨_, recordPassed, shapePassed⟩ := Checked.andThen_eq_ok_iff.mp passed
            obtain ⟨rfl, shaped⟩ := eq_of_checkShape shapePassed
            obtain ⟨entries, -, read⟩ := recordOf_eq_ok_iff.mp recordPassed
            simp only [Checked.seq_eq_ok_iff, Checked.functor_map_eq_ok_iff] at read
            obtain ⟨_, _, ⟨_, _, ⟨_, _, ⟨_, _, ⟨_, _, rfl⟩, _, rfl⟩, elementRead, rfl⟩, rankRead,
              rfl⟩, argumentsRead, rfl⟩ := read
            refine checkWithin_toValue_of_parts ?_ ?_ (rank_pos_of_read rankRead) shaped
            · rintro element rfl
              obtain ⟨_, elementPassed⟩ := exists_checked_of_nullable elementRead
              exact inductionHypothesis elementPassed
            · intro argument member
              obtain ⟨_, argumentPassed⟩ := exists_checked_of_items argumentsRead argument member
              exact inductionHypothesis argumentPassed

theorem toValue_ne_null (reference : TypeRef) : reference.toValue ≠ .null := by
  cases reference
  simp [toValue, record]

theorem nullable_optionToValue
    {room : Nat}
    {entries : List (Key × Value)}
    {name : String}
    {reference? : Option TypeRef}
    (passed : Schema.optional entries name none (nullable (checkInside room)) = .ok reference?) :
    nullable (checkInside room) (optionToValue reference?) = .ok reference? := by
  have asMap : optionToValue reference? = (reference?.map toValue).getD .null := by
    cases reference? <;> rfl
  rw [asMap]
  exact nullable_restored toValue_ne_null checkWithin_toValue passed

theorem sequenceOf_listToValue
    {room : Nat}
    {entries : List (Key × Value)}
    {name : String}
    {references : List TypeRef}
    (passed : Schema.optional entries name [] (sequenceOf (checkInside room)) = .ok references) :
    sequenceOf (checkInside room) (.list (listToValue references)) = .ok references := by
  rw [listToValue_eq_map]
  exact sequenceOf_restored checkWithin_toValue passed

end TypeRef

/-! ## Parts of types and members -/

namespace AttributeFact

/-- An attribute is read again when it is written out. -/
theorem check_toValue
    {value : Value}
    {recorded : AttributeFact}
    (passed : check value = .ok recorded) :
    check recorded.toValue = .ok recorded := by
  have distinct : (recorded.namedArguments.map Prod.fst).Nodup := by
    unfold check at passed
    split at passed
    · cases passed
      exact List.nodup_nil
    · cases passed
    · obtain ⟨_, -, read⟩ := recordOf_eq_ok_iff.mp passed
      simp only [ofEntries, Checked.seq_eq_ok_iff, Checked.functor_map_eq_ok_iff] at read
      obtain ⟨_, _, ⟨_, _, ⟨_, _, ⟨_, _, rfl⟩, _, rfl⟩, namedRead, rfl⟩, _, rfl⟩ := read
      rcases eq_or_checked_of_optional namedRead with rfl | ⟨_, namedPassed⟩
      · exact List.nodup_nil
      · exact nodup_of_mappingOf namedPassed
  obtain ⟨typeName, constructorArguments, namedArguments, loadError?⟩ := recorded
  have argumentsRead : sequenceOf anything (.list constructorArguments) = .ok constructorArguments :=
    sequenceOf_of_forall (List.forall₂_same.mpr fun _ _ => rfl)
  have namedRead : mappingOf anything (.record namedArguments) = .ok namedArguments :=
    (mappingOf_record_eq_ok_iff distinct).mpr (List.forall₂_same.mpr fun _ _ => ⟨rfl, rfl⟩)
  have holds := holds_record
    [("type_name", .text typeName), ("constructor_arguments", .list constructorArguments),
      ("named_arguments", .record namedArguments), ("load_error", .ofText? loadError?)]
  exact Checked.seq_of_ok (Checked.seq_of_ok (Checked.seq_of_ok (Checked.functorMap_of_ok
    (required_of_holds holds rfl rfl))
    (optional_of_holds holds rfl argumentsRead))
    (optional_of_holds holds rfl namedRead))
    (optional_of_holds holds rfl (nullable_ofText? loadError?))

end AttributeFact

namespace GenericParameterFact

private theorem namesDistinct :
    ["name", "position", "constraints", "reference_type_constraint", "value_type_constraint",
      "default_constructor_constraint", "variance"].Nodup := by
  decide

/-- A generic parameter is read again when it is written out, completed or not. -/
theorem check_complete_toValue
    {room : Nat}
    {value : Value}
    {parameter : GenericParameterFact}
    (passed : check room value = .ok parameter)
    (defaults : List (Key × Value)) :
    check room (complete defaults parameter.toValue) = .ok parameter := by
  obtain ⟨entries, -, read⟩ := recordOf_eq_ok_iff.mp passed
  simp only [ofEntries, Checked.seq_eq_ok_iff, Checked.functor_map_eq_ok_iff] at read
  obtain ⟨_, variance, ⟨_, _, ⟨_, _, ⟨_, _, ⟨_, constraints, ⟨_, _, ⟨_, _, rfl⟩, _, rfl⟩,
    constraintsPassed, rfl⟩, _, rfl⟩, _, rfl⟩, _, rfl⟩, _, rfl⟩ := read
  have varianceRead :
      choice (Variance.all.map fun variance => (variance.word, variance)) (.text variance.word) =
        .ok variance := by
    cases variance <;> rfl
  refine recordOf_complete ?_ (fun entries holds => ?_) defaults
  · exact namesDistinct
  exact Checked.seq_of_ok (Checked.seq_of_ok (Checked.seq_of_ok (Checked.seq_of_ok (Checked.seq_of_ok
    (Checked.seq_of_ok (Checked.functorMap_of_ok
    (required_of_holds holds rfl rfl))
    (optional_of_holds holds rfl rfl))
    (optional_of_holds holds rfl (TypeRef.sequenceOf_listToValue constraintsPassed)))
    (optional_of_holds holds rfl rfl))
    (optional_of_holds holds rfl rfl))
    (optional_of_holds holds rfl rfl))
    (optional_of_holds holds rfl varianceRead)

end GenericParameterFact

namespace ParameterFact

private theorem namesDistinct :
    ["name", "type", "position", "is_optional", "has_default", "default_value", "is_out", "is_in",
      "is_params", "attributes"].Nodup := by
  decide

/-- The fields of a parameter that was read which have parts or values of their own. -/
structure PartsRead
    (room : Nat)
    (entries : List (Key × Value))
    (parameter : ParameterFact) : Prop where
  typeRef : Schema.required entries "type" (TypeRef.checkInside room) = .ok parameter.typeRef
  defaultValue :
    Schema.optional entries "default_value" .null anything = .ok parameter.defaultValue
  attributes :
    Schema.optional entries "attributes" [] (sequenceOf AttributeFact.check) =
      .ok parameter.attributes

theorem partsRead_of_ofEntries
    {room : Nat}
    {entries : List (Key × Value)}
    {parameter : ParameterFact}
    (read : ofEntries room entries = .ok parameter) :
    PartsRead room entries parameter := by
  simp only [ofEntries, Checked.seq_eq_ok_iff, Checked.functor_map_eq_ok_iff] at read
  obtain ⟨_, attributes, ⟨_, _, ⟨_, _, ⟨_, _, ⟨_, defaultValue, ⟨_, _, ⟨_, _, ⟨_, _, ⟨_, typeRef,
    ⟨_, _, rfl⟩, typePassed, rfl⟩, _, rfl⟩, _, rfl⟩, _, rfl⟩, defaultPassed, rfl⟩, _, rfl⟩, _, rfl⟩,
    _, rfl⟩, attributesPassed, rfl⟩ := read
  exact ⟨typePassed, defaultPassed, attributesPassed⟩

/-- A parameter is read again when it is written out, completed or not. -/
theorem check_complete_toValue
    {room : Nat}
    {value : Value}
    {parameter : ParameterFact}
    (passed : check room value = .ok parameter)
    (defaults : List (Key × Value)) :
    check room (complete defaults parameter.toValue) = .ok parameter := by
  obtain ⟨entries, -, read⟩ := recordOf_eq_ok_iff.mp passed
  have parts := partsRead_of_ofEntries read
  obtain ⟨_, typePassed⟩ := exists_checked_of_required parts.typeRef
  have attributesRead := sequenceOf_restored AttributeFact.check_toValue parts.attributes
  refine recordOf_complete ?_ (fun entries holds => ?_) defaults
  · exact namesDistinct
  cases parameter
  exact Checked.seq_of_ok (Checked.seq_of_ok (Checked.seq_of_ok (Checked.seq_of_ok (Checked.seq_of_ok
    (Checked.seq_of_ok (Checked.seq_of_ok (Checked.seq_of_ok (Checked.seq_of_ok
    (Checked.functorMap_of_ok
    (required_of_holds holds rfl rfl))
    (required_of_holds holds rfl (TypeRef.checkWithin_toValue typePassed)))
    (optional_of_holds holds rfl rfl))
    (optional_of_holds holds rfl rfl))
    (optional_of_holds holds rfl rfl))
    (optional_of_holds holds rfl rfl))
    (optional_of_holds holds rfl rfl))
    (optional_of_holds holds rfl rfl))
    (optional_of_holds holds rfl rfl))
    (optional_of_holds holds rfl attributesRead)

end ParameterFact

namespace DocBlock

/-- A documentation block is read again when it is written out. -/
theorem check_toValue (docs : DocBlock) : check docs.toValue = .ok docs := by
  obtain ⟨summary?, remarks?, returns?, notes⟩ := docs
  have notesRead :
      sequenceOf ParameterNote.check (.list (notes.map ParameterNote.toValue)) = .ok notes :=
    sequenceOf_map fun _ _ => rfl
  have holds := holds_record
    [("summary", .ofText? summary?), ("remarks", .ofText? remarks?), ("returns", .ofText? returns?),
      ("params", .list (notes.map ParameterNote.toValue))]
  exact Checked.seq_of_ok (Checked.seq_of_ok (Checked.seq_of_ok (Checked.functorMap_of_ok
    (optional_of_holds holds rfl (nullable_ofText? summary?)))
    (optional_of_holds holds rfl (nullable_ofText? remarks?)))
    (optional_of_holds holds rfl (nullable_ofText? returns?)))
    (optional_of_holds holds rfl notesRead)

end DocBlock

/-! ## Members -/

namespace DocBlock

theorem nullable_docs (docs? : Option DocBlock) :
    nullable check ((docs?.map toValue).getD .null) = .ok docs? := by
  cases docs? with
  | none => rfl
  | some docs => exact Checked.map_eq_ok_iff.mpr ⟨docs, check_toValue docs, rfl⟩

end DocBlock

namespace MemberFact

theorem checkAccessibility_word (accessibility : Accessibility) :
    checkAccessibility (.text accessibility.word) = .ok accessibility := by
  cases accessibility <;> rfl

theorem nullable_accessibilityValue (accessibility? : Option Accessibility) :
    nullable checkAccessibility (accessibilityValue accessibility?) = .ok accessibility? := by
  cases accessibility? with
  | none => rfl
  | some accessibility =>
      exact Checked.map_eq_ok_iff.mpr ⟨accessibility, checkAccessibility_word accessibility, rfl⟩

private theorem ofEntries_of_holdsBut
    {room : Nat}
    {member : MemberFact}
    {entries : List (Key × Value)}
    (holds : HoldsBut ["parameters", "generic_parameters"] entries member.toValue)
    (typeRead : nullable (TypeRef.checkInside room) (TypeRef.optionToValue member.typeRef?) =
      .ok member.typeRef?)
    (parametersRead :
      Schema.optional entries "parameters" [] (sequenceOf (ParameterFact.check room)) =
        .ok member.parameters)
    (genericParametersRead :
      Schema.optional entries "generic_parameters" []
          (sequenceOf (GenericParameterFact.check room)) =
        .ok member.genericParameters)
    (attributesRead :
      sequenceOf AttributeFact.check (.list (member.attributes.map AttributeFact.toValue)) =
        .ok member.attributes) :
    ofEntries room entries = .ok member := by
  have kindRead :
      choice (MemberKind.all.map fun kind => (kind.word, kind)) (.text member.kind.word) =
        .ok member.kind := by
    cases member.kind <;> rfl
  cases member
  exact Checked.seq_of_ok (Checked.seq_of_ok (Checked.seq_of_ok (Checked.seq_of_ok (
    Checked.seq_of_ok (Checked.seq_of_ok (Checked.seq_of_ok (Checked.seq_of_ok (
    Checked.seq_of_ok (Checked.seq_of_ok (Checked.seq_of_ok (Checked.seq_of_ok (
    Checked.seq_of_ok (Checked.seq_of_ok (Checked.seq_of_ok (Checked.seq_of_ok (
    Checked.seq_of_ok (Checked.seq_of_ok (Checked.seq_of_ok (Checked.seq_of_ok (
    Checked.seq_of_ok (Checked.seq_of_ok (Checked.seq_of_ok (Checked.seq_of_ok (
    Checked.seq_of_ok (Checked.seq_of_ok (Checked.functorMap_of_ok
    (required_of_holdsBut holds rfl kindRead (by simp)))
    (required_of_holdsBut holds rfl rfl (by simp)))
    (required_of_holdsBut holds rfl rfl (by simp)))
    (optional_of_holdsBut holds rfl (checkAccessibility_word _) (by simp)))
    (optional_of_holdsBut holds rfl rfl (by simp)))
    (optional_of_holdsBut holds rfl typeRead (by simp)))
    parametersRead)
    genericParametersRead)
    (optional_of_holdsBut holds rfl attributesRead (by simp)))
    (optional_of_holdsBut holds rfl (DocBlock.nullable_docs _) (by simp)))
    (optional_of_holdsBut holds rfl rfl (by simp)))
    (optional_of_holdsBut holds rfl rfl (by simp)))
    (optional_of_holdsBut holds rfl rfl (by simp)))
    (optional_of_holdsBut holds rfl rfl (by simp)))
    (optional_of_holdsBut holds rfl rfl (by simp)))
    (optional_of_holdsBut holds rfl (nullable_ofText? _) (by simp)))
    (optional_of_holdsBut holds rfl rfl (by simp)))
    (optional_of_holdsBut holds rfl rfl (by simp)))
    (optional_of_holdsBut holds rfl rfl (by simp)))
    (optional_of_holdsBut holds rfl (nullable_accessibilityValue _) (by simp)))
    (optional_of_holdsBut holds rfl (nullable_accessibilityValue _) (by simp)))
    (optional_of_holdsBut holds rfl rfl (by simp)))
    (optional_of_holdsBut holds rfl rfl (by simp)))
    (optional_of_holdsBut holds rfl rfl (by simp)))
    (optional_of_holdsBut holds rfl rfl (by simp)))
    (optional_of_holdsBut holds rfl (nullable_accessibilityValue _) (by simp)))
    (optional_of_holdsBut holds rfl (nullable_accessibilityValue _) (by simp))

private theorem completedFields_distinct : (completedFields.map Prod.fst).Nodup := by
  decide

private theorem namesDistinct :
    ["kind", "name", "declaring_type", "accessibility", "token", "type", "parameters",
      "generic_parameters", "attributes", "docs", "is_static", "is_virtual", "is_abstract",
      "is_final", "is_special_name", "base_declaring_type", "is_extension", "can_read", "can_write",
      "getter_accessibility", "setter_accessibility", "is_literal", "is_init_only", "is_volatile",
      "constant_value", "add_accessibility", "remove_accessibility"].Nodup := by
  decide

/-- The fields of a member that was read which have parts or values of their own. -/
structure PartsRead
    (room : Nat)
    (entries : List (Key × Value))
    (member : MemberFact) : Prop where
  typeRef? :
    Schema.optional entries "type" none (nullable (TypeRef.checkInside room)) = .ok member.typeRef?
  parameters :
    Schema.optional entries "parameters" [] (sequenceOf (ParameterFact.check room)) =
      .ok member.parameters
  genericParameters :
    Schema.optional entries "generic_parameters" []
        (sequenceOf (GenericParameterFact.check room)) =
      .ok member.genericParameters
  attributes :
    Schema.optional entries "attributes" [] (sequenceOf AttributeFact.check) = .ok member.attributes
  constantValue :
    Schema.optional entries "constant_value" .null anything = .ok member.constantValue

theorem partsRead_of_ofEntries
    {room : Nat}
    {entries : List (Key × Value)}
    {member : MemberFact}
    (read : ofEntries room entries = .ok member) :
    PartsRead room entries member := by
  unfold ofEntries at read
  -- The fields are taken off from the last to the first.
  iterate 2
    rw [Checked.seq_eq_ok_iff] at read
    obtain ⟨_, _, read, -, rfl⟩ := read
  rw [Checked.seq_eq_ok_iff] at read
  obtain ⟨_, constantValue, read, constantPassed, rfl⟩ := read
  iterate 15
    rw [Checked.seq_eq_ok_iff] at read
    obtain ⟨_, _, read, -, rfl⟩ := read
  rw [Checked.seq_eq_ok_iff] at read
  obtain ⟨_, attributes, read, attributesPassed, rfl⟩ := read
  rw [Checked.seq_eq_ok_iff] at read
  obtain ⟨_, genericParameters, read, genericParametersPassed, rfl⟩ := read
  rw [Checked.seq_eq_ok_iff] at read
  obtain ⟨_, parameters, read, parametersPassed, rfl⟩ := read
  rw [Checked.seq_eq_ok_iff] at read
  obtain ⟨_, typeRef?, read, typePassed, rfl⟩ := read
  iterate 4
    rw [Checked.seq_eq_ok_iff] at read
    obtain ⟨_, _, read, -, rfl⟩ := read
  obtain ⟨_, -, rfl⟩ := Checked.functor_map_eq_ok_iff.mp read
  exact ⟨typePassed, parametersPassed, genericParametersPassed, attributesPassed, constantPassed⟩

/-- A member is read again when it is written out, completed or not, and with any token. -/
theorem checkWithin_complete_toValue
    {room : Nat}
    {value : Value}
    {member : MemberFact}
    (passed : checkWithin room value = .ok member)
    (token : Int)
    (defaults : List (Key × Value)) :
    checkWithin room (complete defaults { member with token := token }.toValue) =
      .ok { member with token := token } := by
  obtain ⟨given, -, isRead⟩ := recordOf_eq_ok_iff.mp passed
  obtain ⟨entries, _, read⟩ := Checked.andThen_eq_ok_iff.mp isRead
  have parts := partsRead_of_ofEntries read
  refine recordOf_complete ?_ (fun written holds => ?_) defaults
  · exact namesDistinct
  have parametersHeld := holds "parameters" _ List.not_mem_nil rfl
  have genericParametersHeld := holds "generic_parameters" _ List.not_mem_nil rfl
  obtain ⟨completed, isCompleted, found⟩ :=
    exists_completeFields_of_lists completedFields_distinct
      (List.forall_mem_cons.mpr
        ⟨⟨_, parametersHeld⟩, List.forall_mem_singleton.mpr ⟨_, genericParametersHeld⟩⟩)
  rw [completeItems_eq]
  refine Checked.andThen_eq_ok_iff.mpr ⟨completed, isCompleted, ?_⟩
  refine ofEntries_of_holdsBut (holdsBut_of_completeFields isCompleted holds)
    (TypeRef.nullable_optionToValue parts.typeRef?) ?_ ?_
    (sequenceOf_restored AttributeFact.check_toValue parts.attributes)
  · exact optional_of_completed_restored ParameterFact.check_complete_toValue parts.parameters
      (found _ List.mem_cons_self _ parametersHeld)
  · exact optional_of_completed_restored GenericParameterFact.check_complete_toValue
      parts.genericParameters (found _ (List.mem_cons_of_mem _ List.mem_cons_self) _
        genericParametersHeld)

end MemberFact

/-! ## Types -/

namespace TypeDefinition

theorem listToValue_eq_map (types : List TypeDefinition) :
    listToValue types = types.map toValue := by
  induction types with
  | nil =>
      rfl
  | cons first rest inductionHypothesis =>
      rw [listToValue, inductionHypothesis, List.map_cons]

theorem number_eq
    (position : Int)
    (type : TypeDefinition) :
    number position type =
      { type with
        token := if type.token = 0 then position else type.token
        members := numberMembers type.members
        nestedTypes := numberAll 1 type.nestedTypes } := by
  cases type
  rw [number]

theorem exists_token_of_mem_numberMembers
    {members : List MemberFact}
    {member : MemberFact}
    (isNumbered : member ∈ numberMembers members) :
    ∃ before ∈ members, ∃ token, member = { before with token := token } := by
  obtain ⟨index, inBounds, rfl⟩ := List.mem_mapIdx.mp isNumbered
  refine ⟨members[index], List.getElem_mem inBounds, ?_⟩
  split
  · exact ⟨_, rfl⟩
  · exact ⟨_, rfl⟩

theorem exists_position_of_mem_numberAll
    {position : Int}
    {types : List TypeDefinition}
    {type : TypeDefinition}
    (isNumbered : type ∈ numberAll position types) :
    ∃ before ∈ types, ∃ place, type = number place before := by
  induction types generalizing position with
  | nil =>
      rw [numberAll] at isNumbered
      cases isNumbered
  | cons first rest inductionHypothesis =>
      rw [numberAll] at isNumbered
      rcases List.mem_cons.mp isNumbered with rfl | inRest
      · exact ⟨first, List.mem_cons_self, position, rfl⟩
      · obtain ⟨before, member, place, isPlaced⟩ := inductionHypothesis inRest
        exact ⟨before, List.mem_cons_of_mem first member, place, isPlaced⟩

private theorem ofEntries_of_holdsBut
    {room : Nat}
    {type : TypeDefinition}
    {entries : List (Key × Value)}
    (holds : HoldsBut ["members", "nested_types", "generic_parameters"] entries type.toValue)
    (baseRead : nullable (TypeRef.checkInside room) (TypeRef.optionToValue type.baseType?) =
      .ok type.baseType?)
    (interfacesRead :
      sequenceOf (TypeRef.checkInside room) (.list (TypeRef.listToValue type.interfaces)) =
        .ok type.interfaces)
    (attributesRead :
      sequenceOf AttributeFact.check (.list (type.attributes.map AttributeFact.toValue)) =
        .ok type.attributes)
    (genericParametersRead :
      Schema.optional entries "generic_parameters" []
          (sequenceOf (GenericParameterFact.check room)) =
        .ok type.genericParameters)
    (membersRead :
      Schema.optional entries "members" [] (sequenceOf (MemberFact.checkWithin room)) =
        .ok type.members)
    (nestedRead :
      Schema.optional entries "nested_types" [] (sequenceOf (checkWithin room)) =
        .ok type.nestedTypes) :
    ofEntries room entries = .ok type := by
  have kindRead :
      choice (TypeKind.all.map fun kind => (kind.word, kind)) (.text type.kind.word) =
        .ok type.kind := by
    cases type.kind <;> rfl
  cases type
  exact Checked.seq_of_ok (Checked.seq_of_ok (Checked.seq_of_ok (Checked.seq_of_ok
    (Checked.seq_of_ok (Checked.seq_of_ok (Checked.seq_of_ok (Checked.seq_of_ok (Checked.seq_of_ok
    (Checked.seq_of_ok (Checked.seq_of_ok (Checked.seq_of_ok (Checked.seq_of_ok (Checked.seq_of_ok
    (Checked.functorMap_of_ok
    (required_of_holdsBut holds rfl rfl (by simp)))
    (optional_of_holdsBut holds rfl kindRead (by simp)))
    (optional_of_holdsBut holds rfl (MemberFact.checkAccessibility_word _) (by simp)))
    (optional_of_holdsBut holds rfl rfl (by simp)))
    (optional_of_holdsBut holds rfl rfl (by simp)))
    (optional_of_holdsBut holds rfl rfl (by simp)))
    (optional_of_holdsBut holds rfl rfl (by simp)))
    (optional_of_holdsBut holds rfl (nullable_ofText? _) (by simp)))
    (optional_of_holdsBut holds rfl baseRead (by simp)))
    (optional_of_holdsBut holds rfl interfacesRead (by simp)))
    (optional_of_holdsBut holds rfl attributesRead (by simp)))
    genericParametersRead)
    membersRead)
    (optional_of_holdsBut holds rfl (DocBlock.nullable_docs _) (by simp)))
    nestedRead

private theorem completedFields_distinct (entries : List (Key × Value)) :
    ((completedFields entries).map Prod.fst).Nodup :=
  (by decide : ["members", "nested_types", "generic_parameters"].Nodup)

private theorem namesDistinct :
    ["full_name", "kind", "accessibility", "token", "is_abstract", "is_sealed",
      "is_generic_definition", "declaring_type", "base_type", "interfaces", "attributes",
      "generic_parameters", "members", "docs", "nested_types"].Nodup := by
  decide

theorem complete_nil_toValue (type : TypeDefinition) :
    complete [] type.toValue = type.toValue := by
  cases type
  exact complete_nil_record namesDistinct

/-- The fields of a type that was read which have parts of their own. -/
structure PartsRead
    (room : Nat)
    (entries : List (Key × Value))
    (type : TypeDefinition) : Prop where
  baseType? :
    Schema.optional entries "base_type" none (nullable (TypeRef.checkInside room)) =
      .ok type.baseType?
  interfaces :
    Schema.optional entries "interfaces" [] (sequenceOf (TypeRef.checkInside room)) =
      .ok type.interfaces
  attributes :
    Schema.optional entries "attributes" [] (sequenceOf AttributeFact.check) = .ok type.attributes
  genericParameters :
    Schema.optional entries "generic_parameters" []
        (sequenceOf (GenericParameterFact.check room)) =
      .ok type.genericParameters
  members :
    Schema.optional entries "members" [] (sequenceOf (MemberFact.checkWithin room)) =
      .ok type.members
  nestedTypes :
    Schema.optional entries "nested_types" [] (sequenceOf (checkWithin room)) =
      .ok type.nestedTypes

theorem partsRead_of_ofEntries
    {room : Nat}
    {entries : List (Key × Value)}
    {type : TypeDefinition}
    (read : ofEntries room entries = .ok type) :
    PartsRead room entries type := by
  unfold ofEntries at read
  -- The fields are taken off from the last to the first.
  rw [Checked.seq_eq_ok_iff] at read
  obtain ⟨_, nestedTypes, read, nestedPassed, rfl⟩ := read
  rw [Checked.seq_eq_ok_iff] at read
  obtain ⟨_, _, read, -, rfl⟩ := read
  rw [Checked.seq_eq_ok_iff] at read
  obtain ⟨_, members, read, membersPassed, rfl⟩ := read
  rw [Checked.seq_eq_ok_iff] at read
  obtain ⟨_, genericParameters, read, genericParametersPassed, rfl⟩ := read
  rw [Checked.seq_eq_ok_iff] at read
  obtain ⟨_, attributes, read, attributesPassed, rfl⟩ := read
  rw [Checked.seq_eq_ok_iff] at read
  obtain ⟨_, interfaces, read, interfacesPassed, rfl⟩ := read
  rw [Checked.seq_eq_ok_iff] at read
  obtain ⟨_, baseType?, read, basePassed, rfl⟩ := read
  iterate 7
    rw [Checked.seq_eq_ok_iff] at read
    obtain ⟨_, _, read, -, rfl⟩ := read
  obtain ⟨_, -, rfl⟩ := Checked.functor_map_eq_ok_iff.mp read
  exact ⟨basePassed, interfacesPassed, attributesPassed, genericParametersPassed, membersPassed,
    nestedPassed⟩

/-- Numbered members are read again if those that are numbered were read. -/
private theorem restored_numberMembers
    {room : Nat}
    {entries : List (Key × Value)}
    {members : List MemberFact}
    (passed :
      Schema.optional entries "members" [] (sequenceOf (MemberFact.checkWithin room)) =
        .ok members) :
    ∀ numbered ∈ numberMembers members, ∀ defaults,
      MemberFact.checkWithin room (complete defaults numbered.toValue) = .ok numbered := by
  intro numbered isNumbered
  obtain ⟨member, isMember, token, rfl⟩ := exists_token_of_mem_numberMembers isNumbered
  obtain ⟨_, memberPassed⟩ := exists_checked_of_items passed member isMember
  exact MemberFact.checkWithin_complete_toValue memberPassed token

/-- A type is read again when it is numbered and written out, completed or not.  The induction is
on the room, which is smaller for nested types. -/
theorem checkWithin_complete_toValue
    {room : Nat}
    {value : Value}
    {type : TypeDefinition}
    (passed : checkWithin room value = .ok type)
    (position : Int)
    (defaults : List (Key × Value)) :
    checkWithin room (complete defaults (number position type).toValue) =
      .ok (number position type) := by
  induction room generalizing value type position defaults with
  | zero =>
      rw [checkWithin] at passed
      cases passed
  | succ room inductionHypothesis =>
      rw [checkWithin_succ] at passed ⊢
      split at passed
      · cases passed
      obtain ⟨given, -, isRead⟩ := recordOf_eq_ok_iff.mp passed
      obtain ⟨entries, -, read⟩ := Checked.andThen_eq_ok_iff.mp isRead
      have parts := partsRead_of_ofEntries read
      have nestedRestored : ∀ numbered ∈ numberAll 1 type.nestedTypes, ∀ defaults,
          checkWithin room (complete defaults numbered.toValue) = .ok numbered := by
        intro numbered isNumbered
        obtain ⟨nested, isNested, place, rfl⟩ := exists_position_of_mem_numberAll isNumbered
        obtain ⟨_, nestedPassed⟩ := exists_checked_of_items parts.nestedTypes nested isNested
        exact inductionHypothesis nestedPassed place
      rw [number_eq]
      rw [if_neg (by simp [complete, TypeDefinition.toValue, record, Value.isEndless])]
      refine recordOf_complete ?_ (fun written holds => ?_) defaults
      · exact namesDistinct
      have membersHeld := holds "members" _ List.not_mem_nil rfl
      have nestedHeld := holds "nested_types" _ List.not_mem_nil rfl
      have genericParametersHeld := holds "generic_parameters" _ List.not_mem_nil rfl
      obtain ⟨completed, isCompleted, found⟩ :=
        exists_completeFields_of_lists (completedFields_distinct written)
          (List.forall_mem_cons.mpr
            ⟨⟨_, membersHeld⟩, List.forall_mem_cons.mpr
              ⟨⟨_, nestedHeld⟩, List.forall_mem_singleton.mpr ⟨_, genericParametersHeld⟩⟩⟩)
      rw [listToValue_eq_map] at nestedHeld
      rw [completeEntries_eq]
      refine Checked.andThen_eq_ok_iff.mpr ⟨completed, isCompleted, ?_⟩
      refine ofEntries_of_holdsBut (holdsBut_of_completeFields isCompleted holds)
        (TypeRef.nullable_optionToValue parts.baseType?)
        (TypeRef.sequenceOf_listToValue parts.interfaces)
        (sequenceOf_restored AttributeFact.check_toValue parts.attributes) ?_ ?_ ?_
      · exact optional_of_completed_restored GenericParameterFact.check_complete_toValue
          parts.genericParameters
          (found ("generic_parameters", positionDefault) (by simp [completedFields]) _
            genericParametersHeld)
      · exact optional_of_completed (restored_numberMembers parts.members)
          (found ("members", ownerDefault written) (by simp [completedFields]) _ membersHeld)
      · exact optional_of_completed nestedRestored
          (found ("nested_types", ownerDefault written) (by simp [completedFields]) _ nestedHeld)

theorem numberMembers_numberMembers (members : List MemberFact) :
    numberMembers (numberMembers members) = numberMembers members := by
  refine List.ext_getElem (by simp [numberMembers]) fun index _ _ => ?_
  have numbered : ((index : Int) + 1 = 0) = False := by
    simp only [eq_iff_iff, iff_false]
    omega
  simp only [numberMembers, List.getElem_mapIdx]
  split <;> simp_all

mutual

/-- A type that was numbered from one on keeps its numbers. -/
theorem number_number :
    ∀ {position : Int} (_ : 1 ≤ position) (place : Int) (type : TypeDefinition),
      number place (number position type) = number position type
  | position, position_pos, place, ⟨_, _, _, token, _, _, _, _, _, _, _, _, members, _, nested⟩ => by
    have kept : (if (if token = 0 then position else token) = 0 then place
        else if token = 0 then position else token) = if token = 0 then position else token := by
      split <;> omega
    simp only [number, kept, numberMembers_numberMembers, numberAll_numberAll (Int.le_refl 1) 1 nested]

theorem numberAll_numberAll :
    ∀ {position : Int} (_ : 1 ≤ position) (place : Int) (types : List TypeDefinition),
      numberAll place (numberAll position types) = numberAll position types
  | _, _, _, [] => by
    rw [numberAll, numberAll]
  | position, position_pos, place, first :: rest => by
    simp only [numberAll, number_number position_pos place first,
      numberAll_numberAll (Int.le_add_one position_pos) (place + 1) rest]

end

end TypeDefinition

namespace ModuleDefinition

theorem assignDeclarationOrder_assignDeclarationOrder (definition : ModuleDefinition) :
    definition.assignDeclarationOrder.assignDeclarationOrder = definition.assignDeclarationOrder := by
  simp only [assignDeclarationOrder, TypeDefinition.numberAll_numberAll (Int.le_refl 1)]

/-- A module that was accepted in any form is accepted again when it is ordered and written out. -/
theorem check_toValue_assignDeclarationOrder
    {value : Value}
    {definition : ModuleDefinition}
    (passed : check value = .ok definition) :
    check definition.assignDeclarationOrder.toValue = .ok definition.assignDeclarationOrder := by
  obtain ⟨entries, -, read⟩ := recordOf_eq_ok_iff.mp passed
  rw [Checked.seq_eq_ok_iff] at read
  obtain ⟨_, types, read, typesPassed, rfl⟩ := read
  have typesRead :
      sequenceOf TypeDefinition.check
          (.list (TypeDefinition.listToValue (TypeDefinition.numberAll 1 types))) =
        .ok (TypeDefinition.numberAll 1 types) := by
    rw [TypeDefinition.listToValue_eq_map]
    refine sequenceOf_map fun numbered isNumbered => ?_
    obtain ⟨type, isType, place, rfl⟩ := TypeDefinition.exists_position_of_mem_numberAll isNumbered
    obtain ⟨_, typePassed⟩ := exists_checked_of_items typesPassed type isType
    have restored := TypeDefinition.checkWithin_complete_toValue typePassed place []
    rwa [TypeDefinition.complete_nil_toValue] at restored
  rw [Checked.seq_eq_ok_iff] at read
  obtain ⟨_, version, read, -, rfl⟩ := read
  obtain ⟨name, -, rfl⟩ := Checked.functor_map_eq_ok_iff.mp read
  have holds := holds_record
    [("name", .text name), ("version", .text version),
      ("types", .list (TypeDefinition.listToValue (TypeDefinition.numberAll 1 types)))]
  exact Checked.seq_of_ok (Checked.seq_of_ok (Checked.functorMap_of_ok
    (required_of_holds holds rfl rfl))
    (optional_of_holds holds rfl rfl))
    (optional_of_holds holds rfl typesRead)

/-- The written-out form of a module in its declaration order is a normal form: it is accepted, and
ordering what was read changes nothing. -/
theorem written_out_is_normal_form
    {value : Value}
    {definition : ModuleDefinition}
    (passed : check value = .ok definition) :
    (check definition.assignDeclarationOrder.toValue).map assignDeclarationOrder =
      .ok definition.assignDeclarationOrder := by
  rw [check_toValue_assignDeclarationOrder passed]
  exact congrArg Checked.ok (assignDeclarationOrder_assignDeclarationOrder definition)

/-- A module with references in shorthand, notes as a mapping, and neither positions nor declaring
types nor all the tokens. -/
theorem written_out_abbreviations :
    let input := Value.record
      [("name", .text "Lib"),
        ("types", .list
          [.record
            [("full_name", .text "Lib.Box"), ("base_type", .text "Lib.Base<!T>[,]"),
              ("members", .list
                [.record
                  [("kind", .text "method"), ("name", .text "Put"), ("type", .text "Lib.None"),
                    ("parameters", .list [.record [("name", .text "item"), ("type", .text "!T")]]),
                    ("docs", .record [("params", .record [("item", .text "What to keep.")])])]])],
          .record
            [("full_name", .text "Lib.Two"), ("token", .int 7),
              ("nested_types", .list [.record [("full_name", .text "Lib.Two.In")]])]])]
    ∃ definition, check input = .ok definition ∧
      (check definition.assignDeclarationOrder.toValue).map assignDeclarationOrder =
        .ok definition.assignDeclarationOrder := by
  intro input
  have accepted : (match check input with | .ok _ => true | _ => false) = true := by
    decide +kernel
  split at accepted
  · next definition passed =>
      exact ⟨definition, passed, written_out_is_normal_form passed⟩
  · cases accepted

end ModuleDefinition

end TypeCatalog
