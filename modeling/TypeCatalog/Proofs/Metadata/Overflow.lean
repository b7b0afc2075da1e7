import TypeCatalog.Metadata.Facts
import TypeCatalog.Proofs.Schema.Crashing

namespace TypeCatalog

/-!
# References that overflow

Reading a shorthand text can take too many calls.  Checking a reference, or a parameter that holds
some, crashes exactly if it comes to such a text.
-/

namespace TypeRef

open Schema

/-- A value in which a shorthand text that takes too many calls stands where a reference is read,
where there is room for so many references inside one another. -/
inductive Overflows : Nat → Value → Prop
  | text {room : Nat} {content : String}
      (tooDeep : Shorthand.parse content = .error .tooDeep) :
      Overflows (room + 1) (.text content)
  | unpaired {room : Nat} {points : List Nat}
      (tooDeep : Shorthand.parse (Text.ofPoints points) = .error .tooDeep) :
      Overflows (room + 1) (.unpaired points)
  | element {room : Nat} {value held : Value}
      (isHeld : Value.lookup? (modelEntries value) "element" = some held)
      (inside : Overflows room held) :
      Overflows (room + 1) value
  | argument {room : Nat} {value held item : Value}
      (isHeld : Value.lookup? (modelEntries value) "type_arguments" = some held)
      (isItem : item ∈ listItems held) (inside : Overflows room item) :
      Overflows (room + 1) value

theorem not_crashes_checkShape
    (input : Value)
    (reference : TypeRef) :
    ¬ (checkShape input reference).Crashes := by
  unfold checkShape
  split <;> simp [Checked.rejectRule]

private theorem not_crashes_ofShorthands
    {room : Nat}
    (never : ∀ shorthand, ¬ (ofShorthand room shorthand).Crashes)
    (index : Nat)
    (arguments : List Shorthand) :
    ¬ (ofShorthands room index arguments).Crashes := by
  induction arguments generalizing index with
  | nil =>
      simp [ofShorthands]
  | cons argument rest inductionHypothesis =>
      simp [ofShorthands, never, inductionHypothesis]

theorem not_crashes_ofShorthand
    (room : Nat)
    (shorthand : Shorthand) :
    ¬ (ofShorthand room shorthand).Crashes := by
  induction room generalizing shorthand with
  | zero =>
      simp [ofShorthand]
  | succ room inductionHypothesis =>
      cases shorthand with
      | named fullName =>
          simpa [ofShorthand, leafOf] using not_crashes_checkShape _ _
      | genericParameter fullName =>
          simpa [ofShorthand, leafOf] using not_crashes_checkShape _ _
      | constructed fullName arguments =>
          simp [ofShorthand, not_crashes_ofShorthands inductionHypothesis,
            not_crashes_checkShape]
      | array element rank =>
          simp [ofShorthand, inductionHypothesis]
      | pointer element =>
          simp [ofShorthand, inductionHypothesis]
      | byReference element =>
          simp [ofShorthand, inductionHypothesis]

private theorem crashes_ofText_iff
    {room : Nat}
    {content : String} :
    (ofText room content).Crashes ↔ Shorthand.parse content = .error .tooDeep := by
  unfold ofText
  split
  · next shorthand isRead =>
      simp [isRead, not_crashes_ofShorthand]
  · next fault isRead =>
      cases fault <;> simp [isRead, ShorthandFault.reason?, Checked.rejectRule]

private theorem crashes_ofUnpaired_iff
    {room : Nat}
    {points : List Nat} :
    (ofUnpaired room points).Crashes ↔
      Shorthand.parse (Text.ofPoints points) = .error .tooDeep := by
  simp [ofUnpaired, crashes_ofText_iff]

theorem not_overflows_null
    (room : Nat) :
    ¬ Overflows room .null := by
  rintro (_ | _ | ⟨isHeld, _⟩ | ⟨isHeld, _, _⟩) <;> cases isHeld

theorem overflows_succ_iff
    {room : Nat}
    {value : Value}
    (noText : ∀ content, value ≠ .text content)
    (noUnpaired : ∀ points, value ≠ .unpaired points) :
    Overflows (room + 1) value ↔
      (∃ held, Value.lookup? (modelEntries value) "element" = some held ∧ Overflows room held) ∨
        ∃ held, Value.lookup? (modelEntries value) "type_arguments" = some held ∧
          HasItem (Overflows room) held := by
  constructor
  · rintro (_ | _ | ⟨isHeld, inside⟩ | ⟨isHeld, isItem, inside⟩)
    · exact (noText _ rfl).elim
    · exact (noUnpaired _ rfl).elim
    · exact .inl ⟨_, isHeld, inside⟩
    · exact .inr ⟨_, isHeld, _, isItem, inside⟩
  · rintro (⟨_, isHeld, inside⟩ | ⟨_, isHeld, _, isItem, inside⟩)
    · exact .element isHeld inside
    · exact .argument isHeld isItem inside

theorem modelEntries_of_isEndless
    {value : Value}
    (isEndless : value.isEndless = true) :
    modelEntries value = [] := by
  unfold Value.isEndless at isEndless
  split at isEndless
  · rfl
  · rfl
  · cases isEndless

/-- Checking a value as a reference crashes exactly if a text in it takes too many calls. -/
theorem crashes_checkWithin_iff
    {room : Nat}
    {value : Value} :
    (checkWithin room value).Crashes ↔ Overflows room value := by
  induction room generalizing value with
  | zero =>
      constructor
      · intro crashes
        simp [checkWithin] at crashes
      · rintro ⟨⟩
  | succ room inductionHypothesis =>
      have nothing : ¬ (checkWithin room .null).Crashes :=
        fun crashes => not_overflows_null room (inductionHypothesis.mp crashes)
      have neverRank :
          NeverCrashes fun rank => (wholeFrom 1 rank).map Int.toNat := by
        intro rank
        rw [Checked.crashes_map_iff]
        exact neverCrashes_wholeFrom 1 rank
      unfold checkWithin
      split
      · contradiction
      · rw [crashes_ofText_iff]
        constructor
        · exact .text
        · rintro (tooDeep | _ | ⟨isHeld, _⟩ | ⟨isHeld, _, _⟩)
          · exact tooDeep
          · cases isHeld
          · cases isHeld
      · rw [crashes_ofUnpaired_iff]
        constructor
        · exact .unpaired
        · rintro (_ | tooDeep | ⟨isHeld, _⟩ | ⟨isHeld, _, _⟩)
          · exact tooDeep
          · cases isHeld
          · cases isHeld
      · next given same noText noUnpaired =>
          cases same
          rw [overflows_succ_iff noText noUnpaired]
          split
          · next isEndless =>
              simp [modelEntries_of_isEndless isEndless, Value.lookup?]
          · simp only [Checked.crashes_andThen_iff, not_crashes_checkShape, and_false,
              exists_false, or_false]
            rw [crashes_recordOf_iff]
            · simp only [Checked.crashes_seq_iff, Checked.crashes_functor_map_iff,
                (neverCrashes_choice _).not_crashes_optional,
                neverCrashes_text.not_crashes_optional, neverRank.not_crashes_optional,
                false_or, or_false, crashes_optional_iff, crashes_nullable_iff nothing,
                crashes_sequenceOf_iff, inductionHypothesis]
            · simp [(neverCrashes_choice _).not_crashes_optional,
                neverCrashes_text.not_crashes_optional, neverRank.not_crashes_optional,
                crashes_optional_iff, Value.lookup?]

end TypeRef

open Schema

/-! ## Parts without references -/

theorem AttributeFact.neverCrashes_check : NeverCrashes AttributeFact.check := by
  have ofEntries : ∀ entries, ¬ (AttributeFact.ofEntries entries).Crashes := by
    intro entries
    simp [AttributeFact.ofEntries, neverCrashes_text.not_crashes_required,
      neverCrashes_anything.sequenceOf.not_crashes_optional,
      neverCrashes_anything.mappingOf.not_crashes_optional,
      neverCrashes_text.nullable.not_crashes_optional]
  intro value
  unfold AttributeFact.check
  split
  · simp
  · simp
  · rw [crashes_recordOf_iff (ofEntries [])]
    exact ofEntries _

theorem ParameterNote.neverCrashes_check : NeverCrashes ParameterNote.check := by
  intro value
  unfold ParameterNote.check
  rw [crashes_recordOf_iff] <;>
    simp [neverCrashes_text.not_crashes_required, neverCrashes_text.not_crashes_optional]

theorem DocBlock.neverCrashes_check : NeverCrashes DocBlock.check := by
  have ofEntries : ∀ entries, ¬ (DocBlock.ofEntries entries).Crashes := by
    intro entries
    simp [DocBlock.ofEntries, neverCrashes_text.nullable.not_crashes_optional,
      ParameterNote.neverCrashes_check.sequenceOf.not_crashes_optional]
  intro value
  unfold DocBlock.check
  split
  · simp
  · simp
  · rw [crashes_recordOf_iff (ofEntries [])]
    exact ofEntries _

/-! ## Parameters -/

namespace GenericParameterFact

/-- A generic parameter with a constraint that overflows. -/
def Overflows (room : Nat) : Value → Prop :=
  HasField "constraints" (HasItem (TypeRef.Overflows (room - 1)))

theorem crashes_check_iff
    {room : Nat}
    {value : Value} :
    (check room value).Crashes ↔ Overflows room value := by
  have crashes_ofEntries_iff : ∀ entries,
      (ofEntries room entries).Crashes ↔
        ∃ held, Value.lookup? entries "constraints" = some held ∧
          HasItem (TypeRef.Overflows (room - 1)) held := by
    intro entries
    simp only [ofEntries, Checked.crashes_seq_iff, Checked.crashes_functor_map_iff,
      neverCrashes_text.not_crashes_required, neverCrashes_whole.not_crashes_optional,
      neverCrashes_truth.not_crashes_optional, (neverCrashes_choice _).not_crashes_optional,
      false_or, or_false, crashes_optional_iff, crashes_sequenceOf_iff, TypeRef.checkInside,
      TypeRef.crashes_checkWithin_iff]
  unfold check
  rw [crashes_recordOf_iff, crashes_ofEntries_iff]
  · rfl
  · simp [crashes_ofEntries_iff, Value.lookup?]

end GenericParameterFact

namespace ParameterFact

/-- A parameter whose type overflows. -/
def Overflows (room : Nat) : Value → Prop :=
  HasField "type" (TypeRef.Overflows (room - 1))

theorem crashes_check_iff
    {room : Nat}
    {value : Value} :
    (check room value).Crashes ↔ Overflows room value := by
  have crashes_ofEntries_iff : ∀ entries,
      (ofEntries room entries).Crashes ↔
        ∃ held, Value.lookup? entries "type" = some held ∧
          TypeRef.Overflows (room - 1) held := by
    intro entries
    simp only [ofEntries, Checked.crashes_seq_iff, Checked.crashes_functor_map_iff,
      neverCrashes_text.not_crashes_required, neverCrashes_whole.not_crashes_optional,
      neverCrashes_truth.not_crashes_optional, neverCrashes_anything.not_crashes_optional,
      AttributeFact.neverCrashes_check.sequenceOf.not_crashes_optional,
      false_or, or_false, crashes_required_iff, TypeRef.checkInside,
      TypeRef.crashes_checkWithin_iff]
  unfold check
  rw [crashes_recordOf_iff, crashes_ofEntries_iff]
  · rfl
  · simp [crashes_ofEntries_iff, Value.lookup?]

end ParameterFact

end TypeCatalog
