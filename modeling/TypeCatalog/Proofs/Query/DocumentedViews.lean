import TypeCatalog.Proofs.Describe.TidyText
import TypeCatalog.Proofs.Query.Selection
import TypeCatalog.Proofs.Session.NameQueryOrder

namespace TypeCatalog

/-!
# What counts as documented

A documentation block is shown if there is text in one of its sections or notes, or if it has notes
on parameters at all: a note stays in its place when its text is blank.  So the blocks that are
shown without any text are those with blank notes alone.  The view of the documentation of a type
and the views of members by name count the blocks that are shown.
-/

namespace DocBlock

open Text (AllBlank)

/-- The texts of a block: its sections, then its notes. -/
def texts (docs : DocBlock) : List String :=
  docs.summary?.toList ++ docs.remarks?.toList ++ docs.returns?.toList ++
    docs.notes.map ParameterNote.text

/-- Whether a block says anything. -/
def HasText (docs : DocBlock) : Prop :=
  ∃ text ∈ docs.texts, ¬ AllBlank text.toList

instance (docs : DocBlock) : Decidable docs.HasText :=
  inferInstanceAs (Decidable (∃ text ∈ docs.texts, ¬ AllBlank text.toList))

/-- Whether there is a block that says anything or has notes. -/
def IsShown (docs? : Option DocBlock) : Prop :=
  ∃ docs ∈ docs?, docs.HasText ∨ docs.notes ≠ []

instance (docs? : Option DocBlock) : Decidable (IsShown docs?) :=
  inferInstanceAs (Decidable (∃ docs ∈ docs?, docs.HasText ∨ docs.notes ≠ []))

end DocBlock

namespace DocsDescriptor

open Documentation (clean?)

private theorem clean?_eq_none_iff_forall (text? : Option String) :
    clean? text? = none ↔ ∀ text ∈ text?.toList, Text.AllBlank text.toList := by
  cases text? with
  | none =>
      exact ⟨fun _ => nofun, fun _ => rfl⟩
  | some text =>
      rw [Documentation.clean?_eq_none_iff, Option.toList_some, List.forall_mem_singleton]

/-- Nothing is shown of a block exactly if it has neither text nor notes. -/
theorem describe_eq_none_iff (docs : DocBlock) :
    describe (some docs) = none ↔ ¬ docs.HasText ∧ docs.notes = [] := by
  have noText :
      ¬ docs.HasText ↔ ∀ text ∈ docs.texts, Text.AllBlank text.toList := by
    simp only [DocBlock.HasText, not_exists, not_and, not_not]
  rw [noText, describe]
  simp only [ite_eq_left_iff, reduceCtorEq, imp_false, not_not, empty, mk.injEq,
    clean?_eq_none_iff_forall, List.map_eq_nil_iff, DocBlock.texts, List.forall_mem_append]
  constructor
  · rintro ⟨summary, remarks, returned, noNotes⟩
    refine ⟨⟨⟨⟨summary, remarks⟩, returned⟩, ?_⟩, noNotes⟩
    rw [noNotes]
    exact List.forall_mem_nil _
  · rintro ⟨⟨⟨⟨summary, remarks⟩, returned⟩, _⟩, noNotes⟩
    exact ⟨summary, remarks, returned, noNotes⟩

theorem isSome_describe (docs? : Option DocBlock) :
    (describe docs?).isSome = decide (DocBlock.IsShown docs?) := by
  rw [Bool.eq_iff_iff, decide_eq_true_eq, Option.isSome_iff_ne_none]
  cases docs? with
  | none =>
      simp [describe, DocBlock.IsShown]
  | some docs =>
      rw [ne_eq, describe_eq_none_iff, DocBlock.IsShown]
      simp [imp_iff_not_or]

end DocsDescriptor

theorem TypeDescriptor.docs?_describe
    (moduleName : String)
    (type : TypeDefinition) :
    (describe moduleName type).docs? = DocsDescriptor.describe type.docs? := by
  cases type
  rw [describe, describeWithin]
  rfl

/-- The members of a list that have a name and are shown. -/
def MemberFact.named
    (memberName : String)
    (caseSensitive : Bool)
    (members : List MemberFact) : List MemberFact :=
  members.filter fun member =>
    !member.isAccessor &&
      Text.foldFor caseSensitive member.name == Text.foldFor caseSensitive memberName

namespace Answer

/-- The members that are found by name are as many as have the name and are shown, and of these as
many are found with documentation as have documentation that is shown. -/
theorem countP_namedMembers
    (memberName : String)
    (caseSensitive : Bool)
    (members : List MemberFact) :
    (namedMembers memberName caseSensitive
        (MemberDescriptor.describeAll MemberKind.all members)).countP
          (fun member => member.docs?.isSome) =
      (MemberFact.named memberName caseSensitive members).countP
        fun member => DocBlock.IsShown member.docs? := by
  rw [namedMembers, (List.mergeSort_perm _ _).countP_eq, List.countP_filter,
    MemberDescriptor.describeAll, List.countP_map, List.countP_filter, MemberFact.named,
    List.countP_filter]
  apply List.countP_congr
  intro member _
  have ofAll : MemberKind.all.contains member.kind = true :=
    List.contains_iff_mem.mpr member.kind.mem_all
  have docsAre :
      (MemberDescriptor.describe member).docs?.isSome =
        decide (DocBlock.IsShown member.docs?) :=
    DocsDescriptor.isSome_describe member.docs?
  have nameIs : (MemberDescriptor.describe member).name = member.name :=
    rfl
  simp only [Function.comp_apply, docsAre, ofAll, nameIs, Bool.true_and, Bool.and_assoc,
    Bool.and_comm (!member.isAccessor)]

/-- The members that are found by name are those of the type that is meant. -/
theorem eq_of_foundMembers
    {opened : OpenModule}
    {type : TypeDefinition}
    {typeName memberName : String}
    {caseSensitive : Bool}
    {visibility : Visibility}
    {found : TypeDefinition × List MemberDescriptor}
    (isMeant : opened.type typeName caseSensitive = .ok type)
    (isFound : foundMembers typeName memberName caseSensitive visibility opened = .ok found) :
    found =
      (type,
        namedMembers memberName caseSensitive
          (MemberDescriptor.describeAll MemberKind.all (opened.membersOf type visibility))) := by
  obtain ⟨other, otherIsMeant, isFound⟩ := Failure.exists_of_bind_eq_ok isFound
  cases isMeant.symm.trans otherIsMeant
  obtain ⟨_, _, isFound⟩ := Failure.exists_of_bind_eq_ok isFound
  dsimp only at isFound
  split at isFound
  · cases isFound
  · exact (Except.ok.inj isFound).symm

/-- Nothing is shown of a block exactly if it has neither text nor notes, so what is shown tells
whether there is text unless there are blank notes alone.  The view of the documentation of a type
says that there is some, and the view of the documentation of members counts a member, exactly where
there is text or a note, be the note blank or not. -/
theorem documents_text_and_notes
    (docs : DocBlock)
    (opened : OpenModule)
    (type : TypeDefinition) :
    (DocsDescriptor.describe (some docs) = none ↔ ¬ docs.HasText ∧ docs.notes = []) ∧
    ((DocsDescriptor.describe (some docs) = none ↔ ¬ docs.HasText) ↔
      (docs.notes ≠ [] → docs.HasText)) ∧
    (∀ (typeName : String) (caseSensitive : Bool) (data : Value),
      opened.type typeName caseSensitive = .ok type →
      typeView .documentation typeName caseSensitive opened = .ok data →
      data.field? "has_docs" = some (.bool (DocBlock.IsShown type.docs?))) ∧
    ∀ (stamp : ModuleStamp) (typeName memberName : String) (options : FilterOptions)
      (visibility : Visibility) (data : Value),
      opened.type typeName options.caseSensitive = .ok type →
      named stamp .documentation typeName memberName options visibility opened = .ok data →
      data.field? "documented" =
        some (.ofNat
          ((MemberFact.named memberName options.caseSensitive
            (opened.membersOf type visibility)).countP fun member =>
              DocBlock.IsShown member.docs?)) := by
  have isNone := DocsDescriptor.describe_eq_none_iff docs
  refine ⟨isNone, ?_, ?_, ?_⟩
  · rw [isNone, and_iff_left_iff_imp]
    constructor
    · intro notesAreEmpty hasNotes
      by_contra noText
      exact hasNotes (notesAreEmpty noText)
    · intro notesHaveText noText
      by_contra hasNotes
      exact noText (notesHaveText hasNotes)
  · intro typeName caseSensitive data found viewed
    obtain ⟨other, otherFound, viewed⟩ := Failure.exists_of_bind_eq_ok viewed
    cases found.symm.trans otherFound
    obtain ⟨types, _, viewed⟩ := Failure.exists_of_bind_eq_ok viewed
    obtain ⟨_, _, viewed⟩ := Failure.exists_of_bind_eq_ok viewed
    cases viewed
    rw [← DocsDescriptor.isSome_describe, ← TypeDescriptor.docs?_describe opened.name,
      Value.field?_record]
    rfl
  · intro stamp typeName memberName options visibility data found shown
    rw [named_eq] at shown
    obtain ⟨members, membersAre, rfl⟩ := Failure.exists_of_map_eq_ok shown
    rw [eq_of_foundMembers found membersAre, namedData, Value.field?_record,
      ← countP_namedMembers]
    rfl

end Answer

/-- A type that is documented by a blank note alone.  Of its two methods of one name, the first has
a blank summary and the second a blank note. -/
def TypeDefinition.ofBlankNotes : TypeDefinition :=
  let blankNote : DocBlock := ⟨none, none, none, [⟨"x", " "⟩]⟩
  { bare "A" with
    docs? := some blankNote
    members :=
      [.overload 1 "X" "\n", { MemberFact.overload 2 "Y" "" with docs? := some blankNote }] }

namespace Answer

/-- Blank notes count, and a blank summary does not. -/
theorem documents_text_and_notes_of_blank_notes :
    let opened : OpenModule := ⟨"lib", ⟨"Lib", "", [.ofBlankNotes]⟩, .ordinary⟩
    ∃ typeData memberData,
      typeView .documentation "A" true opened = .ok typeData ∧
        typeData.field? "has_docs" = some (.bool true) ∧
          named ⟨"lib", "rev-1"⟩ .documentation "A" "M" .standard .standard opened =
              .ok memberData ∧
            memberData.field? "documented" = some (.ofNat 1) := by
  intro opened
  have found : opened.type "A" true = .ok .ofBlankNotes := by
    with_unfolding_all rfl
  have describable : viewFault? .documentation [.ofBlankNotes] .ofBlankNotes = none := by
    decide +kernel
  have membersDescribable :
      MemberFact.firstFault? MemberKind.all (opened.membersOf .ofBlankNotes .standard) = none := by
    decide +kernel
  obtain ⟨typeData, viewed⟩ :
      ∃ data, typeView .documentation "A" true opened = .ok data := by
    rw [typeView, found]
    change ∃ data, (Failure.unlessCrash (viewFault? _ [.ofBlankNotes] _) >>= _) = .ok data
    rw [describable]
    exact ⟨_, rfl⟩
  obtain ⟨memberData, shown⟩ :
      ∃ data,
        named ⟨"lib", "rev-1"⟩ .documentation "A" "M" .standard .standard opened = .ok data := by
    have someFound :
        (namedMembers "M" true
          (MemberDescriptor.describeAll MemberKind.all
            (opened.membersOf .ofBlankNotes .standard))).isEmpty = false := by
      rw [namedMembers, List.isEmpty_eq_false_iff, ← List.length_pos_iff, List.length_mergeSort]
      decide +kernel
    have membersFound :
        foundMembers "A" "M" true .standard opened =
          .ok (.ofBlankNotes,
            namedMembers "M" true
              (MemberDescriptor.describeAll MemberKind.all
                (opened.membersOf .ofBlankNotes .standard))) := by
      rw [foundMembers, found]
      change (Failure.unlessCrash (MemberFact.firstFault? _ _) >>= _) = _
      rw [membersDescribable]
      exact if_neg (Bool.eq_false_iff.mp someFound)
    rw [named_eq]
    exact ⟨_, congrArg (Except.map _) membersFound⟩
  obtain ⟨_, _, hasDocs, documented⟩ :=
    documents_text_and_notes ⟨none, none, none, [⟨"x", " "⟩]⟩ opened .ofBlankNotes
  refine ⟨typeData, memberData, viewed, ?_, shown, ?_⟩
  · rw [hasDocs "A" true typeData found viewed]
    rfl
  · rw [documented _ "A" "M" .standard .standard memberData found shown]
    rfl

/-- A block of blank notes is shown, though it says nothing. -/
theorem blank_note_is_shown :
    ¬ ∀ docs : DocBlock, DocsDescriptor.describe (some docs) = none ↔ ¬ docs.HasText := by
  intro showsText
  have blankNote := showsText ⟨none, none, none, [⟨"x", " "⟩]⟩
  revert blankNote
  decide

end Answer

end TypeCatalog
