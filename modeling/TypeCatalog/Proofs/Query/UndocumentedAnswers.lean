import TypeCatalog.Answer.Listing
import TypeCatalog.Proofs.Metadata.Redaction
import TypeCatalog.Proofs.Paging.PageEdges
import TypeCatalog.Proofs.Source.RedactedSource

namespace TypeCatalog

/-!
# Answers without documentation

The data of every answer but those about documentation can be computed from a module whose
documentation is left out.
-/

/-!
## What a listing looks at

A listing filters and sorts descriptors by some of their parts and shows what is rendered of them.
Descriptors that are changed in other parts alone, such as their documentation, stand at the same
places of the same pages.
-/

/-- A change of descriptors that listings do not see when they filter and sort. -/
structure Listed.Keeps
    {α : Type}
    [Listed α]
    (change : α → α) : Prop where
  nameKey_eq : ∀ item, Listed.nameKey (change item) = Listed.nameKey item
  attributes_eq : ∀ item, Listed.attributes (change item) = Listed.attributes item
  sortValue?_eq : ∀ key item, Listed.sortValue? key (change item) = Listed.sortValue? key item
  tieKey_eq : ∀ item, Listed.tieKey (change item) = Listed.tieKey item

namespace Listed.Keeps

variable {α : Type} [Listed α] {change : α → α}

theorem filterItems_map
    (keeps : Listed.Keeps change)
    (nameContains? attributeContains? : Option String)
    (caseSensitive : Bool)
    (items : List α) :
    Listing.filterItems nameContains? attributeContains? caseSensitive (items.map change) =
      (Listing.filterItems nameContains? attributeContains? caseSensitive items).map change := by
  have sameName :
      Listing.matchesName nameContains? caseSensitive ∘ change =
        Listing.matchesName nameContains? caseSensitive := by
    funext item
    simp only [Function.comp_apply, Listing.matchesName, keeps.nameKey_eq]
  have sameAttribute :
      Listing.matchesAttribute attributeContains? caseSensitive ∘ change =
        Listing.matchesAttribute attributeContains? caseSensitive := by
    funext item
    simp only [Function.comp_apply, Listing.matchesAttribute, keeps.attributes_eq]
  rw [Listing.filterItems, List.filter_map, List.filter_map, sameName, sameAttribute,
    Listing.filterItems]

theorem sortItems_map
    (keeps : Listed.Keeps change)
    (key : SortKey)
    (order : SortOrder)
    (supported : List SortKey)
    (items : List α) :
    Listing.sortItems key order supported (items.map change) =
      (Listing.sortItems key order supported items).map (List.map change) := by
  have byTie : Listing.sortByTie (items.map change) = (Listing.sortByTie items).map change := by
    symm
    apply List.map_mergeSort
    intro first _ second _
    rw [keeps.tieKey_eq, keeps.tieKey_eq]
  have byKey :
      ((Listing.sortByTie items).map change).mergeSort (Listing.inOrder key order) =
        ((Listing.sortByTie items).mergeSort (Listing.inOrder key order)).map change := by
    symm
    apply List.map_mergeSort
    intro first _ second _
    cases order <;> simp only [Listing.inOrder, Listing.sortValue, keeps.sortValue?_eq]
  have sameMissing :
      ((items.map change).any fun item => (Listed.sortValue? key item).isNone) =
        items.any fun item => (Listed.sortValue? key item).isNone := by
    simp only [List.any_map, Function.comp_def, keeps.sortValue?_eq]
  rw [Listing.sortItems, Listing.sortItems, sameMissing, byTie, byKey]
  split
  · rfl
  · split
    · rfl
    · rfl

/-- Changed descriptors are arranged as they were. -/
theorem arrange_map
    (keeps : Listed.Keeps change)
    (options : FilterOptions)
    (supported : List SortKey)
    (items : List α) :
    Answer.arrange options supported (items.map change) =
      (Answer.arrange options supported items).map (List.map change) := by
  rw [Answer.arrange, keeps.filterItems_map, keeps.sortItems_map, Answer.arrange]

end Listed.Keeps

theorem MemberDescriptor.keeps_withoutDocs : Listed.Keeps MemberDescriptor.withoutDocs :=
  ⟨fun _ => rfl, fun _ => rfl, fun _ _ => rfl, fun _ => rfl⟩

theorem TypeDescriptor.keeps_withoutDocs : Listed.Keeps TypeDescriptor.withoutDocs := by
  constructor
  · rintro ⟨⟩
    rfl
  · rintro ⟨⟩
    rfl
  · rintro key ⟨⟩
    rfl
  · rintro ⟨⟩
    rfl

namespace Answer

/-- A page depends on what is rendered of the items. -/
theorem pageOf_congr
    {α β : Type}
    {render : α → Value}
    {otherRender : β → Value}
    {items : List α}
    {others : List β}
    (same : items.map render = others.map otherRender)
    (position : PagePosition) :
    pageOf render items position = pageOf otherRender others position := by
  have samePage :
      Page.build render items position.offset position.take position.salt Limits.pageTarget =
        Page.build otherRender others position.offset position.take position.salt
          Limits.pageTarget := by
    rw [Page.build_eq_build_id, same, ← Page.build_eq_build_id]
  simp only [pageOf, samePage, Page.candidates_natCast, same]

theorem memberCounts_map_withoutDocs (items : List MemberDescriptor) :
    memberCounts (items.map MemberDescriptor.withoutDocs) = memberCounts items := by
  simp only [memberCounts, List.countP_map]
  rfl

/-- The members with a name are the same ones, in the same order. -/
theorem namedMembers_map_withoutDocs
    (memberName : String)
    (caseSensitive : Bool)
    (members : List MemberDescriptor) :
    namedMembers memberName caseSensitive (members.map MemberDescriptor.withoutDocs) =
      (namedMembers memberName caseSensitive members).map MemberDescriptor.withoutDocs := by
  rw [namedMembers, namedMembers, List.filter_map]
  symm
  apply List.map_mergeSort
  intro first _ second _
  rfl

end Answer

/-!
## What is left out of answers

What is computed from what is left of a module is what is left of the answer, or the answer itself.
-/

namespace Redaction

section Chains

variable (redaction : Redaction)

/-- What is left of a link of a chain of base types. -/
def link (link : Answer.ChainLink) : Answer.ChainLink :=
  { link with base? := link.base?.map redaction.type }

theorem typeNamed?_map
    (types : List TypeDefinition)
    (fullName : String) :
    Answer.typeNamed? (types.map redaction.type) fullName =
      (Answer.typeNamed? types fullName).map redaction.type := by
  rw [Answer.typeNamed?, ← List.map_reverse, List.find?_map, Answer.typeNamed?]
  congr 2
  funext type
  rw [Function.comp_apply, fullName_type]

/-- The chain of base types goes through what is left of the same types.  The induction is on the
fuel, for every list of names that were met. -/
theorem inheritanceChain_map
    (types : List TypeDefinition)
    (met : List String)
    (current : TypeDefinition)
    (fuel : Nat) :
    Answer.inheritanceChain (types.map redaction.type) met (redaction.type current) fuel =
      (Answer.inheritanceChain types met current fuel).map redaction.link := by
  induction fuel generalizing met current with
  | zero =>
      rfl
  | succ fuel inductionHypothesis =>
      rw [Answer.inheritanceChain, Answer.inheritanceChain, baseType?_type]
      cases current.baseType? with
      | none =>
          rfl
      | some reference =>
          simp only [typeNamed?_map]
          cases Answer.typeNamed? types reference.fullName with
          | none =>
              rfl
          | some base =>
              simp only [Option.map_some, fullName_type, inductionHypothesis]
              split
              · rfl
              · rfl

theorem chainOf_map
    (types : List TypeDefinition)
    (type : TypeDefinition) :
    Answer.chainOf (types.map redaction.type) (redaction.type type) =
      (Answer.chainOf types type).map redaction.link := by
  rw [Answer.chainOf, inheritanceChain_map, fullName_type, List.length_map, Answer.chainOf]

theorem chainBases_map (chain : List Answer.ChainLink) :
    Answer.chainBases (chain.map redaction.link) =
      (Answer.chainBases chain).map redaction.type := by
  rw [Answer.chainBases, Answer.chainBases, List.filterMap_map, List.map_filterMap]
  congr 1
  funext link
  rw [Function.comp_apply, Redaction.link]
  cases link.isNew with
  | true =>
      rfl
  | false =>
      rfl

theorem linkValue_link (link : Answer.ChainLink) :
    Answer.linkValue (redaction.link link) = Answer.linkValue link := by
  simp only [Answer.linkValue, Redaction.link, Option.isSome_map]

theorem derivedTypes_map
    (types : List TypeDefinition)
    (type : TypeDefinition) :
    Answer.derivedTypes (types.map redaction.type) (redaction.type type) =
      Answer.derivedTypes types type := by
  simp only [Answer.derivedTypes, List.filter_map, List.map_map, Function.comp_def,
    baseType?_type, fullName_type]

/-- A view cannot be made of what is left for the same reason. -/
theorem viewFault?_map
    (view : TypeView)
    (types : List TypeDefinition)
    (type : TypeDefinition) :
    Answer.viewFault? view (types.map redaction.type) (redaction.type type) =
      Answer.viewFault? view types type := by
  simp only [Answer.viewFault?, describeFault?_type, chainOf_map, chainBases_map,
    List.findSome?_map, Function.comp_def]

theorem filter_showsType_map
    (visibility : Visibility)
    (types : List TypeDefinition) :
    (types.map redaction.type).filter (Answer.showsType visibility) =
      (types.filter (Answer.showsType visibility)).map redaction.type := by
  rw [List.filter_map]
  congr 2
  funext type
  rw [Function.comp_apply, Answer.showsType, accessibility_type, Answer.showsType]

end Chains

/-- The types that a query asks for are arranged as before, but for their documentation. -/
theorem arrangedTypes_ofDocs
    (options : FilterOptions)
    (visibility : Visibility)
    (opened : OpenModule) :
    Answer.arrangedTypes (ofDocs.opened opened) options visibility =
      (Answer.arrangedTypes opened options visibility).map
        (List.map TypeDescriptor.withoutDocs) := by
  rw [Answer.arrangedTypes, Answer.arrangedTypes, types_opened]
  cases opened.types with
  | error failure =>
      rfl
  | ok types =>
      simp only [Except.map, bind, Except.bind, filter_showsType_map, List.findSome?_map,
        Function.comp_def, describeFault?_type]
      cases Failure.unlessCrash
        ((types.filter (Answer.showsType visibility)).findSome? TypeDefinition.describeFault?) with
      | error failure =>
          rfl
      | ok described =>
          have sameDescribed (types : List TypeDefinition) :
              (types.map ofDocs.type).map (TypeDescriptor.describe opened.name) =
                (types.map (TypeDescriptor.describe opened.name)).map
                  TypeDescriptor.withoutDocs := by
            simp only [List.map_map, Function.comp_def, TypeDescriptor.describe_ofDocs]
          exact
            (congrArg _ (sameDescribed _)).trans
              (TypeDescriptor.keeps_withoutDocs.arrange_map options SortKey.forTypes _)

theorem typeListing_ofDocs
    (stamp : ModuleStamp)
    (options : FilterOptions)
    (visibility : Visibility)
    (position : Answer.PagePosition)
    (opened : OpenModule) :
    Answer.typeListing stamp options visibility position (ofDocs.opened opened) =
      Answer.typeListing stamp options visibility position opened := by
  rw [Answer.typeListing, Answer.typeListing, arrangedTypes_ofDocs]
  cases Answer.arrangedTypes opened options visibility with
  | error failure =>
      rfl
  | ok items =>
      have samePage :
          Answer.pageOf TypeDescriptor.toOwnValue (items.map TypeDescriptor.withoutDocs) position =
            Answer.pageOf TypeDescriptor.toOwnValue items position := by
        apply Answer.pageOf_congr
        simp only [List.map_map, Function.comp_def, TypeDescriptor.toOwnValue_withoutDocs]
      simp only [Except.map, bind, Except.bind, samePage]
      rfl

theorem membersOf_opened_ofDocs
    (opened : OpenModule)
    (type : TypeDefinition)
    (visibility : Visibility) :
    (ofDocs.opened opened).membersOf (ofDocs.type type) visibility =
      (opened.membersOf type visibility).map MemberFact.withoutDocs := by
  rw [OpenModule.membersOf, visibility.membersOf_ofDocs, inReadingOrder_opened_map,
    OpenModule.membersOf]

/-- The members that a query asks for are arranged as before, but for their documentation. -/
theorem arrangedMembers_ofDocs
    (type : TypeDefinition)
    (selection : MemberSelection)
    (options : FilterOptions)
    (visibility : Visibility)
    (opened : OpenModule) :
    Answer.arrangedMembers (ofDocs.opened opened) (ofDocs.type type) selection options
        visibility =
      (Answer.arrangedMembers opened type selection options visibility).map
        (List.map MemberDescriptor.withoutDocs) := by
  simp only [Answer.arrangedMembers, membersOf_opened_ofDocs,
    MemberFact.firstFault?_map_withoutDocs, MemberDescriptor.describeAll_map_withoutDocs,
    MemberDescriptor.keeps_withoutDocs.arrange_map]
  cases Failure.unlessCrash
    (MemberFact.firstFault? selection.kinds (opened.membersOf type visibility)) <;> rfl

theorem memberListing_ofDocs
    (stamp : ModuleStamp)
    (selection : MemberSelection)
    (typeName : String)
    (options : FilterOptions)
    (visibility : Visibility)
    (position : Answer.PagePosition)
    (opened : OpenModule) :
    Answer.memberListing stamp selection typeName options visibility position
        (ofDocs.opened opened) =
      Answer.memberListing stamp selection typeName options visibility position opened := by
  rw [Answer.memberListing, Answer.memberListing, type_opened]
  cases opened.type typeName options.caseSensitive with
  | error failure =>
      rfl
  | ok type =>
      simp only [Except.map, bind, Except.bind, arrangedMembers_ofDocs, fullName_type]
      cases Answer.arrangedMembers opened type selection options visibility with
      | error failure =>
          rfl
      | ok items =>
          have samePage :
              Answer.pageOf MemberDescriptor.toValue (items.map MemberDescriptor.withoutDocs)
                  position =
                Answer.pageOf MemberDescriptor.toValue items position := by
            apply Answer.pageOf_congr
            simp only [List.map_map, Function.comp_def, MemberDescriptor.toValue_withoutDocs]
          have sameCounts :
              Answer.countFields selection (items.map MemberDescriptor.withoutDocs) =
                Answer.countFields selection items := by
            cases selection with
            | ofKind =>
                rfl
            | all =>
                simp only [Answer.countFields, Answer.memberCounts_map_withoutDocs]
          simp only [samePage, sameCounts]
          rfl

/-- A view of a type other than of its documentation shows none. -/
theorem viewFields_ofDocs
    {view : TypeView}
    (undocumented : view ≠ .documentation)
    (moduleName : String)
    (types : List TypeDefinition)
    (type : TypeDefinition) :
    Answer.viewFields view moduleName (types.map ofDocs.type) (ofDocs.type type) =
      Answer.viewFields view moduleName types type := by
  cases view with
  | documentation =>
      exact absurd rfl undocumented
  | info =>
      simp only [Answer.viewFields, TypeDescriptor.describe_ofDocs,
        TypeDescriptor.toValue_withoutDocs]
  | hierarchy =>
      simp only [Answer.viewFields, TypeDescriptor.describe_ofDocs, chainOf_map, chainBases_map,
        derivedTypes_map, List.map_map, Function.comp_def, linkValue_link,
        TypeDescriptor.toOwnValue_withoutDocs]
      generalize TypeDescriptor.describe moduleName type = descriptor
      cases descriptor
      rfl
  | generics =>
      simp only [Answer.viewFields, TypeDescriptor.describe_ofDocs]
      generalize TypeDescriptor.describe moduleName type = descriptor
      cases descriptor
      cases type
      rfl
  | attributes =>
      simp only [Answer.viewFields, TypeDescriptor.describe_ofDocs]
      generalize TypeDescriptor.describe moduleName type = descriptor
      cases descriptor
      rfl
  | nested =>
      simp only [Answer.viewFields, TypeDescriptor.describe_ofDocs]
      generalize TypeDescriptor.describe moduleName type = descriptor
      cases descriptor
      simp only [TypeDescriptor.withoutDocs, TypeDescriptor.listToValue_listWithoutDocs,
        TypeDescriptor.length_listWithoutDocs]

theorem typeView_ofDocs
    {view : TypeView}
    (undocumented : view ≠ .documentation)
    (typeName : String)
    (caseSensitive : Bool)
    (opened : OpenModule) :
    Answer.typeView view typeName caseSensitive (ofDocs.opened opened) =
      Answer.typeView view typeName caseSensitive opened := by
  rw [Answer.typeView, Answer.typeView, type_opened, types_opened]
  cases opened.type typeName caseSensitive with
  | error failure =>
      rfl
  | ok type =>
      cases opened.types with
      | error failure =>
          rfl
      | ok types =>
          simp only [Except.map, bind, Except.bind, viewFault?_map,
            viewFields_ofDocs undocumented]
          rfl

/-- Members that are looked up by name are shown without documentation. -/
theorem lookup_ofDocs
    (stamp : ModuleStamp)
    (typeName memberName : String)
    (options : FilterOptions)
    (visibility : Visibility)
    (opened : OpenModule) :
    Answer.named stamp .lookup typeName memberName options visibility (ofDocs.opened opened) =
      Answer.named stamp .lookup typeName memberName options visibility opened := by
  rw [Answer.named, Answer.named, type_opened]
  cases opened.type typeName options.caseSensitive with
  | error failure =>
      rfl
  | ok type =>
      simp only [Except.map, bind, Except.bind, membersOf_opened_ofDocs,
        MemberFact.firstFault?_map_withoutDocs, MemberDescriptor.describeAll_map_withoutDocs,
        Answer.namedMembers_map_withoutDocs, fullName_type, List.isEmpty_map, List.length_map,
        Answer.namedFields, List.map_map, Function.comp_def,
        MemberDescriptor.toValue_withoutDocs]

end Redaction

end TypeCatalog
