import TypeCatalog.Proofs.Session.ListingPage
import TypeCatalog.Proofs.Session.NameQueryOrder

namespace TypeCatalog

/-!
# How a member is shown

An item of an answer shows which member it is: its kind, its name, its signature and the type that
declares it.  These are read back as they were, whatever else the item shows.
-/

namespace Value

/-- Whether an item is shown as a member of a kind. -/
def isOfKind
    (kind : MemberKind)
    (item : Value) : Bool :=
  (item.field? "kind").bind text? == some kind.word

/-- Whether an item is shown with a name, with or without regard to case. -/
def isNamed
    (name : String)
    (caseSensitive : Bool)
    (item : Value) : Bool :=
  ((item.field? "name").bind text?).any fun shown =>
    Text.foldFor caseSensitive shown == Text.foldFor caseSensitive name

/-- What an item shows of which member it is. -/
def identity (item : Value) : List (Option Value) :=
  ["kind", "name", "signature", "declaring_type"].map item.field?

/-- Whether an item is shown with documentation. -/
def isDocumented (item : Value) : Bool :=
  match item.field? "docs" with
  | none | some .null => false
  | some _ => true

end Value

namespace Answer

/-- Whether a member has a name, with or without regard to case. -/
def hasName
    (memberName : String)
    (caseSensitive : Bool)
    (member : MemberDescriptor) : Bool :=
  Text.foldFor caseSensitive member.name == Text.foldFor caseSensitive memberName

end Answer

namespace MemberDescriptor

/-- The fields that tell which member is shown. -/
def identifyingFields (member : MemberDescriptor) : List (String × Value) :=
  [("kind", .text member.kind.word), ("name", .text member.name),
    ("signature", .text member.signature), ("declaring_type", .text member.declaringType)]

private def sharedNames : List String :=
  ["kind", "name", "type", "accessibility", "signature", "declaring_type", "is_static",
    "is_virtual", "is_abstract", "is_sealed", "is_override", "attributes"]

private theorem exists_fields_of_toValue (member : MemberDescriptor) :
    ∃ fields,
      member.toValue = .record fields ∧
        (fields.map Prod.fst).Nodup ∧
          ∀ field ∈ member.identifyingFields,
            (fields.map fun entry => (entry.1, Json.settled entry.2)).lookup field.1 =
              some field.2 := by
  refine ⟨_, rfl, ?_, ?_⟩
  · cases member.part with
    | method =>
        exact (by decide :
          (sharedNames ++ ["parameters", "generic_parameters", "is_operator",
            "is_extension"]).Nodup)
    | property =>
        exact (by decide :
          (sharedNames ++ ["can_read", "can_write", "is_indexer", "indexer_parameters",
            "getter_accessibility", "setter_accessibility"]).Nodup)
    | field =>
        exact (by decide :
          (sharedNames ++ ["is_const", "is_readonly", "is_volatile", "constant_value"]).Nodup)
    | event =>
        exact (by decide :
          (sharedNames ++ ["handler_type", "add_accessibility", "remove_accessibility"]).Nodup)
    | constructor =>
        exact (by decide : (sharedNames ++ ["parameters", "is_static_initializer"]).Nodup)
  · intro field member
    simp only [identifyingFields, List.mem_cons, List.not_mem_nil, or_false] at member
    rcases member with rfl | rfl | rfl | rfl <;> rfl

/-- A member that is read back shows which member it is. -/
theorem field?_settled_toValue
    {member : MemberDescriptor}
    {field : String × Value}
    (identifying : field ∈ member.identifyingFields) :
    (Json.settled member.toValue).field? field.1 = some field.2 := by
  obtain ⟨fields, fieldsAre, distinct, shown⟩ := exists_fields_of_toValue member
  rw [fieldsAre, Json.settled_record distinct, Value.field?_record]
  exact shown field identifying

theorem isOfKind_settled_toValue
    (kind : MemberKind)
    (member : MemberDescriptor) :
    (Json.settled member.toValue).isOfKind kind = decide (member.kind = kind) := by
  have kindShown :
      (Json.settled member.toValue).field? "kind" = some (.text member.kind.word) :=
    field?_settled_toValue List.mem_cons_self
  rw [Value.isOfKind, kindShown, Option.bind_some, Value.text?]
  by_cases same : member.kind = kind
  · simp [same]
  · have wordsDiffer : member.kind.word ≠ kind.word :=
      fun sameWord => same (MemberKind.eq_of_word_eq sameWord)
    simp [same, wordsDiffer]

/-- Items that are read back show as many members of a kind as there are. -/
theorem countP_isOfKind
    (kind : MemberKind)
    (members : List MemberDescriptor) :
    ((members.map toValue).map Json.settled).countP (Value.isOfKind kind) =
      members.countP fun member => member.kind = kind := by
  rw [List.map_map, List.countP_map]
  apply List.countP_congr
  intro member _
  rw [Function.comp_apply, Function.comp_apply, isOfKind_settled_toValue]

theorem isNamed_settled_toValue
    (name : String)
    (caseSensitive : Bool)
    (member : MemberDescriptor) :
    (Json.settled member.toValue).isNamed name caseSensitive =
      Answer.hasName name caseSensitive member := by
  have nameShown : (Json.settled member.toValue).field? "name" = some (.text member.name) :=
    field?_settled_toValue (List.mem_cons_of_mem _ List.mem_cons_self)
  rw [Value.isNamed, nameShown]
  rfl

theorem settled_documentedMember (member : MemberDescriptor) :
    Json.settled (Answer.documentedMember member) =
      .record
        (member.identifyingFields ++
          [("docs", Json.settled (DocsDescriptor.optionToValue member.docs?))]) := by
  rw [Answer.documentedMember, Json.settled_record]
  · rfl
  · exact (by decide : ["kind", "name", "signature", "declaring_type", "docs"].Nodup)

/-- Both views of members by name show alike which member it is. -/
theorem identity_documentedMember (member : MemberDescriptor) :
    (Json.settled (Answer.documentedMember member)).identity =
      (Json.settled member.toValue).identity := by
  have shown (field : String × Value) (identifying : field ∈ member.identifyingFields) :
      (Json.settled member.toValue).field? field.1 = some field.2 :=
    field?_settled_toValue identifying
  simp only [identifyingFields, List.forall_mem_cons] at shown
  obtain ⟨kindShown, nameShown, signatureShown, declaringShown, _⟩ := shown
  simp only [Value.identity, List.map_cons, List.map_nil, kindShown, nameShown, signatureShown,
    declaringShown, settled_documentedMember, Value.field?_record]
  rfl

/-- A member is shown with documentation if it has one. -/
theorem isDocumented_documentedMember (member : MemberDescriptor) :
    (Json.settled (Answer.documentedMember member)).isDocumented = member.docs?.isSome := by
  have docsShown :
      (Json.settled (Answer.documentedMember member)).field? "docs" =
        some (Json.settled (DocsDescriptor.optionToValue member.docs?)) := by
    rw [settled_documentedMember, Value.field?_record]
    rfl
  rw [Value.isDocumented, docsShown]
  cases member.docs? with
  | none =>
      rfl
  | some docs =>
      rfl

end MemberDescriptor

end TypeCatalog
