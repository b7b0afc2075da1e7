import TypeCatalog.Proofs.Query.Selection
import TypeCatalog.Proofs.Session.ListingPage

namespace TypeCatalog

/-!
# Seeing more

Whatever a query sees, it sees too when it asks for more.  Each item says by itself whether the
narrower query sees it, and sorting is stable, so the narrower listing is what is left of the wider
one when the other items are taken out.
-/

namespace Visibility

/-- A visibility that asks for nothing that another one does not ask for. -/
structure Within (narrow wide : Visibility) : Prop where
  publicMembers : narrow.publicMembers = true → wide.publicMembers = true
  nonPublicMembers : narrow.nonPublicMembers = true → wide.nonPublicMembers = true
  staticMembers : narrow.staticMembers = true → wide.staticMembers = true
  instanceMembers : narrow.instanceMembers = true → wide.instanceMembers = true
  inheritedMembers : narrow.inheritedMembers = true → wide.inheritedMembers = true
  declaredOnly : wide.declaredOnly = true → narrow.declaredOnly = true

/-- A visibility that asks for no types that another one does not ask for. -/
structure TypesWithin (narrow wide : Visibility) : Prop where
  publicTypes : narrow.publicMembers = true → wide.publicMembers = true
  nonPublicTypes : narrow.nonPublicMembers = true → wide.nonPublicMembers = true

variable {narrow wide : Visibility}

private theorem either_of_either
    {condition : Prop}
    [Decidable condition]
    {first second wideFirst wideSecond : Bool}
    (firstWidens : first = true → wideFirst = true)
    (secondWidens : second = true → wideSecond = true)
    (asked : (if condition then first else second) = true) :
    (if condition then wideFirst else wideSecond) = true := by
  split at asked
  · next holds =>
      rw [if_pos holds]
      exact firstWidens asked
  · next fails =>
      rw [if_neg fails]
      exact secondWidens asked

/-- What is asked for by a narrower visibility is asked for by a wider one. -/
theorem Within.admits
    (within : narrow.Within wide)
    {member : MemberFact}
    {typeName : String}
    (admitted : narrow.admits member typeName = true) :
    wide.admits member typeName = true := by
  simp only [Visibility.admits, Bool.and_eq_true, Bool.or_eq_true, Bool.not_eq_true'] at admitted ⊢
  obtain ⟨⟨byAccess, byForm⟩, byOwner⟩ := admitted
  refine ⟨⟨?_, ?_⟩, ?_⟩
  · exact either_of_either within.publicMembers within.nonPublicMembers byAccess
  · exact either_of_either within.staticMembers within.instanceMembers byForm
  · rcases byOwner with (ownMember | inherited) | notDeclaredOnly
    · exact .inl (.inl ownMember)
    · exact .inl (.inr (within.inheritedMembers inherited))
    · refine .inr (Bool.eq_false_iff.mpr fun onlyDeclared => ?_)
      rw [within.declaredOnly onlyDeclared] at notDeclaredOnly
      cases notDeclaredOnly

/-- A narrower visibility asks for some of the members that a wider one asks for. -/
theorem Within.membersOf_eq_filter
    (within : narrow.Within wide)
    (type : TypeDefinition) :
    narrow.membersOf type =
      (wide.membersOf type).filter fun member => narrow.admits member type.fullName := by
  rw [membersOf, membersOf, List.filter_filter]
  apply List.filter_congr
  intro member _
  cases admitted : narrow.admits member type.fullName with
  | false =>
      rfl
  | true =>
      rw [within.admits admitted]
      rfl

theorem TypesWithin.showsType
    (within : narrow.TypesWithin wide)
    {type : TypeDefinition}
    (shown : Answer.showsType narrow type = true) :
    Answer.showsType wide type = true :=
  either_of_either within.publicTypes within.nonPublicTypes shown

/-- A narrower visibility shows some of the types that a wider one shows. -/
theorem TypesWithin.filter_showsType
    (within : narrow.TypesWithin wide)
    (types : List TypeDefinition) :
    types.filter (Answer.showsType narrow) =
      (types.filter (Answer.showsType wide)).filter (Answer.showsType narrow) := by
  rw [List.filter_filter]
  apply List.filter_congr
  intro type _
  cases shown : Answer.showsType narrow type with
  | false =>
      rfl
  | true =>
      rw [within.showsType shown]
      rfl

/-- Whether a described member of the type with a full name is asked for. -/
def admitsShown
    (visibility : Visibility)
    (typeName : String)
    (item : MemberDescriptor) : Bool :=
  (if item.accessibility = .public then visibility.publicMembers
    else visibility.nonPublicMembers) &&
  (if item.isStatic then visibility.staticMembers else visibility.instanceMembers) &&
  (item.declaringType == typeName ||
    visibility.inheritedMembers || !visibility.declaredOnly)

/-- Whether a described type is asked for. -/
def showsDescribed
    (visibility : Visibility)
    (item : TypeDescriptor) : Bool :=
  if item.accessibility = .public then visibility.publicMembers else visibility.nonPublicMembers

end Visibility

theorem OpenModule.inReadingOrder_filter
    {α : Type}
    (opened : OpenModule)
    (keeps : α → Bool)
    (items : List α) :
    opened.inReadingOrder (items.filter keeps) = (opened.inReadingOrder items).filter keeps := by
  unfold OpenModule.inReadingOrder
  split
  · exact List.filter_reverse.symm
  · rfl

/-- A description shows whether its member is asked for. -/
theorem MemberDescriptor.describeAll_filter
    (visibility : Visibility)
    (typeName : String)
    (kinds : List MemberKind)
    (members : List MemberFact) :
    describeAll kinds (members.filter fun member => visibility.admits member typeName) =
      (describeAll kinds members).filter (visibility.admitsShown typeName) := by
  simp only [describeAll, List.filter_map, List.filter_filter]
  congr 1
  apply List.filter_congr
  intro member _
  exact Bool.and_comm _ _

theorem TypeDescriptor.accessibility_describe
    (moduleName : String)
    (type : TypeDefinition) :
    (describe moduleName type).accessibility = type.accessibility := by
  cases type
  rw [describe, describeWithin]
  rfl

/-- A description shows whether its type is asked for. -/
theorem TypeDescriptor.map_describe_filter
    (visibility : Visibility)
    (moduleName : String)
    (types : List TypeDefinition) :
    (types.filter (Answer.showsType visibility)).map (describe moduleName) =
      (types.map (describe moduleName)).filter visibility.showsDescribed := by
  rw [List.filter_map]
  congr 1
  apply List.filter_congr
  intro type _
  rw [Function.comp_apply, Visibility.showsDescribed, accessibility_describe, Answer.showsType]

/-- Options that filter and sort alike, whatever they include and whichever page they show. -/
structure FilterOptions.ArrangesLike (options other : FilterOptions) : Prop where
  caseSensitive_eq : options.caseSensitive = other.caseSensitive
  nameContains?_eq : options.nameContains? = other.nameContains?
  attributeContains?_eq : options.attributeContains? = other.attributeContains?
  sortBy_eq : options.sortBy = other.sortBy
  sortOrder_eq : options.sortOrder = other.sortOrder

namespace Answer

/-- What is left of arranged items is arranged from what is left of the items. -/
theorem arrange_filter
    {α : Type}
    [Listed α]
    {options other : FilterOptions}
    {supported : List SortKey}
    {items arranged : List α}
    (isArranged : arrange other supported items = .ok arranged)
    (alike : options.ArrangesLike other)
    (keeps : α → Bool) :
    arrange options supported (items.filter keeps) = .ok (arranged.filter keeps) := by
  rw [arrange, alike.nameContains?_eq, alike.attributeContains?_eq, alike.caseSensitive_eq,
    alike.sortBy_eq, alike.sortOrder_eq, Listing.filterItems_filter]
  exact Listing.sortItems_filter isArranged keeps

variable {opened : OpenModule} {options other : FilterOptions} {narrow wide : Visibility}

/-- The members that a narrower query lists are those of a wider listing that it sees. -/
theorem arrangedMembers_within
    {type : TypeDefinition}
    {selection : MemberSelection}
    {items wideItems : List MemberDescriptor}
    (arranged : arrangedMembers opened type selection options narrow = .ok items)
    (wideArranged : arrangedMembers opened type selection other wide = .ok wideItems)
    (alike : options.ArrangesLike other)
    (within : narrow.Within wide) :
    items = wideItems.filter (narrow.admitsShown type.fullName) := by
  obtain ⟨_, _, arranged⟩ := Failure.exists_of_bind_eq_ok arranged
  obtain ⟨_, _, wideArranged⟩ := Failure.exists_of_bind_eq_ok wideArranged
  rw [OpenModule.membersOf, within.membersOf_eq_filter, OpenModule.inReadingOrder_filter,
    MemberDescriptor.describeAll_filter] at arranged
  exact Except.ok.inj (arranged.symm.trans (arrange_filter wideArranged alike _))

/-- The types that a narrower query lists are those of a wider listing that it sees. -/
theorem arrangedTypes_within
    {items wideItems : List TypeDescriptor}
    (arranged : arrangedTypes opened options narrow = .ok items)
    (wideArranged : arrangedTypes opened other wide = .ok wideItems)
    (alike : options.ArrangesLike other)
    (within : narrow.TypesWithin wide) :
    items = wideItems.filter narrow.showsDescribed := by
  obtain ⟨types, typesAre, arranged⟩ := Failure.exists_of_bind_eq_ok arranged
  obtain ⟨wideTypes, wideTypesAre, wideArranged⟩ := Failure.exists_of_bind_eq_ok wideArranged
  cases typesAre.symm.trans wideTypesAre
  obtain ⟨_, _, arranged⟩ := Failure.exists_of_bind_eq_ok arranged
  obtain ⟨_, _, wideArranged⟩ := Failure.exists_of_bind_eq_ok wideArranged
  rw [within.filter_showsType, TypeDescriptor.map_describe_filter] at arranged
  exact Except.ok.inj (arranged.symm.trans (arrange_filter wideArranged alike _))

end Answer

/-- A visibility that sees nothing in a scope that another one does not see.  Listings of types look
at two of its parts alone. -/
def ListingScope.Within
    (narrow wide : Visibility) : ListingScope → Prop
  | .types => narrow.TypesWithin wide
  | .members .. => narrow.Within wide

/-- The rows of a narrower listing stand in the wider listing, in their order. -/
theorem ListingSubject.rows_sublist
    {scope : ListingScope}
    {stamp : ModuleStamp}
    {narrow wide : ResolvedOptions}
    {opened : OpenModule}
    {rows wideRows : List Value}
    (rowsAre : (⟨scope, stamp, narrow⟩ : ListingSubject).rows opened = .ok rows)
    (wideRowsAre : (⟨scope, stamp, wide⟩ : ListingSubject).rows opened = .ok wideRows)
    (alike : narrow.toFilter.ArrangesLike wide.toFilter)
    (within : scope.Within narrow.visibility wide.visibility) :
    rows.Sublist wideRows := by
  cases scope with
  | types =>
      obtain ⟨items, arranged, rfl⟩ := Failure.exists_of_map_eq_ok rowsAre
      obtain ⟨wideItems, wideArranged, rfl⟩ := Failure.exists_of_map_eq_ok wideRowsAre
      rw [Answer.arrangedTypes_within arranged wideArranged alike within]
      exact List.filter_sublist.map _
  | members selection typeName =>
      obtain ⟨type, found, rendered⟩ := Failure.exists_of_bind_eq_ok rowsAre
      obtain ⟨wideType, wideFound, wideRendered⟩ := Failure.exists_of_bind_eq_ok wideRowsAre
      obtain ⟨items, arranged, rfl⟩ := Failure.exists_of_map_eq_ok rendered
      obtain ⟨wideItems, wideArranged, rfl⟩ := Failure.exists_of_map_eq_ok wideRendered
      have caseSame : narrow.caseSensitive = wide.caseSensitive := alike.caseSensitive_eq
      rw [caseSame] at found
      cases found.symm.trans wideFound
      rw [Answer.arrangedMembers_within arranged wideArranged alike within]
      exact List.filter_sublist.map _

end TypeCatalog
