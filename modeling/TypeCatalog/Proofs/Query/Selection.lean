import Mathlib.Algebra.Ring.Nat
import TypeCatalog.Answer.Listing
import TypeCatalog.Proofs.Query.ShownMember
import TypeCatalog.Proofs.Query.StableSorting
import TypeCatalog.Proofs.Session.Subject

namespace TypeCatalog

/-!
# Selecting members

The members of one kind and the members of one name are those that the listing of all members shows
of that kind or under that name.
-/

/-!
## Listing the members of one kind

The members of one kind are filtered and sorted on their own.  Filtering looks at one member at a
time and sorting is stable, so what comes out is what the members of all kinds give, restricted to
the kind.
-/

namespace Listing

variable {α : Type} [Listed α]

/-- Filtering what is kept is keeping some of what is filtered. -/
theorem filterItems_filter
    (nameContains? attributeContains? : Option String)
    (caseSensitive : Bool)
    (keeps : α → Bool)
    (items : List α) :
    filterItems nameContains? attributeContains? caseSensitive (items.filter keeps) =
      (filterItems nameContains? attributeContains? caseSensitive items).filter keeps := by
  rw [filterItems, filterItems, List.filter_comm keeps, List.filter_comm keeps]

end Listing

theorem MemberKind.mem_all (kind : MemberKind) : kind ∈ all := by
  cases kind <;> decide

namespace MemberDescriptor

theorem kind_describe (member : MemberFact) :
    (describe member).kind = member.kind := by
  change (partOf member).kind = member.kind
  unfold partOf
  cases member.kind <;> rfl

/-- Describing the members of one kind gives those of that kind among all that are described. -/
theorem describeAll_ofKind
    (kind : MemberKind)
    (members : List MemberFact) :
    describeAll [kind] members =
      (describeAll MemberKind.all members).filter fun member => member.kind = kind := by
  simp only [describeAll, List.filter_map, List.filter_filter]
  congr 1
  apply List.filter_congr
  intro member _
  have ofAll : MemberKind.all.contains member.kind = true :=
    List.contains_iff_mem.mpr member.kind.mem_all
  simp only [Function.comp_apply, kind_describe, ofAll, Bool.true_and]
  by_cases same : member.kind = kind
  · simp [same]
  · simp [same]

/-- The numbers of members of each kind add up to the number of members. -/
theorem sum_countP_kind (members : List MemberDescriptor) :
    (MemberKind.all.map fun kind => members.countP fun member => member.kind = kind).sum =
      members.length := by
  induction members with
  | nil =>
      rfl
  | cons first rest inductionHypothesis =>
      rw [List.length_cons, ← inductionHypothesis]
      cases kindIs : first.kind <;>
        simp [MemberKind.all, List.countP_cons, kindIs] <;>
        omega

end MemberDescriptor

/-- If the members of all kinds can be described, those of one kind can. -/
theorem MemberFact.firstFault?_ofKind
    {members : List MemberFact}
    (describable : firstFault? MemberKind.all members = none)
    (kind : MemberKind) :
    firstFault? [kind] members = none := by
  rw [firstFault?, List.findSome?_eq_none_iff] at describable ⊢
  intro member ofKind
  obtain ⟨isMember, shown⟩ := List.mem_filter.mp ofKind
  refine describable member (List.mem_filter.mpr ⟨isMember, ?_⟩)
  rw [Bool.and_eq_true] at shown ⊢
  exact ⟨List.contains_iff_mem.mpr member.kind.mem_all, shown.2⟩

theorem Failure.eq_none_of_unlessCrash
    {fault? : Option Crash}
    {done : Unit}
    (passed : unlessCrash fault? = .ok done) :
    fault? = none := by
  cases fault? with
  | none =>
      rfl
  | some crash =>
      cases passed

namespace Answer

/-- If the members of all kinds can be listed, those of one kind can, and they are what the listing
has of that kind. -/
theorem arrangedMembers_ofKind
    {opened : OpenModule}
    {type : TypeDefinition}
    {options : FilterOptions}
    {visibility : Visibility}
    {items : List MemberDescriptor}
    (arranged : arrangedMembers opened type .all options visibility = .ok items)
    (kind : MemberKind) :
    arrangedMembers opened type (.ofKind kind) options visibility =
      .ok (items.filter fun member => member.kind = kind) := by
  obtain ⟨_, passed, arranged⟩ := Failure.exists_of_bind_eq_ok arranged
  have describable : MemberFact.firstFault? [kind] (opened.membersOf type visibility) = none :=
    MemberFact.firstFault?_ofKind (Failure.eq_none_of_unlessCrash passed) kind
  change
    (Failure.unlessCrash (MemberFact.firstFault? [kind] (opened.membersOf type visibility)) >>=
      fun _ =>
        arrange options SortKey.forMembers
          (MemberDescriptor.describeAll [kind] (opened.membersOf type visibility))) = _
  rw [describable, MemberDescriptor.describeAll_ofKind]
  change arrange _ _ _ = _
  rw [arrange, Listing.filterItems_filter]
  exact Listing.sortItems_filter arranged _

end Answer

/-!
## Finding members by name

Both views of members by name find the same members, and nothing but the type, the name, the regard
to case and what is visible decides which.  They are the members with that name in the listing of
all members that no filter cuts down.
-/

/-- Sorting changes nothing but the order. -/
theorem Listing.perm_of_sortItems
    {α : Type}
    [Listed α]
    {key : SortKey}
    {order : SortOrder}
    {supported : List SortKey}
    {items sorted : List α}
    (isSorted : sortItems key order supported items = .ok sorted) :
    sorted.Perm items := by
  unfold sortItems at isSorted
  split at isSorted
  · cases isSorted
  · split at isSorted
    · cases isSorted
    · cases isSorted
      exact (List.mergeSort_perm _ _).trans (List.mergeSort_perm _ _)

namespace Answer

/-- The type that is meant and its members with a name, in order. -/
def foundMembers
    (typeName memberName : String)
    (caseSensitive : Bool)
    (visibility : Visibility)
    (opened : OpenModule) : Except Failure (TypeDefinition × List MemberDescriptor) := do
  let type ← opened.type typeName caseSensitive
  let visible := opened.membersOf type visibility
  Failure.unlessCrash (MemberFact.firstFault? MemberKind.all visible)
  let members :=
    namedMembers memberName caseSensitive (MemberDescriptor.describeAll MemberKind.all visible)
  if members.isEmpty then
    throw (.reported (.memberNotFound memberName type.fullName))
  else
    return (type, members)

/-- The data of a view of the members that were found. -/
def namedData
    (stamp : ModuleStamp)
    (view : NameView)
    (memberName : String)
    (found : TypeDefinition × List MemberDescriptor) : Value :=
  .record
    ([("module_path", .text stamp.path), ("type_name", .text found.1.fullName),
      ("member_name", .text memberName), ("count", .ofNat found.2.length)] ++
      namedFields view found.2)

/-- A view shows the members that were found; finding them does not depend on the view. -/
theorem named_eq
    (stamp : ModuleStamp)
    (view : NameView)
    (typeName memberName : String)
    (options : FilterOptions)
    (visibility : Visibility)
    (opened : OpenModule) :
    named stamp view typeName memberName options visibility opened =
      (foundMembers typeName memberName options.caseSensitive visibility opened).map
        (namedData stamp view memberName) := by
  unfold named foundMembers
  cases opened.type typeName options.caseSensitive with
  | error failure =>
      rfl
  | ok type =>
      dsimp only [bind, Except.bind]
      cases Failure.unlessCrash
          (MemberFact.firstFault? MemberKind.all (opened.membersOf type visibility)) with
      | error failure =>
          rfl
      | ok done =>
          dsimp only
          split <;> rfl

/-- Without filters the members that are listed are those that are described, in some order. -/
theorem perm_of_arrangedMembers
    {opened : OpenModule}
    {type : TypeDefinition}
    {options : FilterOptions}
    {visibility : Visibility}
    {items : List MemberDescriptor}
    (arranged : arrangedMembers opened type .all options visibility = .ok items)
    (noNameFilter : Listing.filterText options.nameContains? = "")
    (noAttributeFilter : Listing.filterText options.attributeContains? = "") :
    MemberFact.firstFault? MemberKind.all (opened.membersOf type visibility) = none ∧
      items.Perm
        (MemberDescriptor.describeAll MemberKind.all (opened.membersOf type visibility)) := by
  obtain ⟨_, passed, sorted⟩ := Failure.exists_of_bind_eq_ok arranged
  refine ⟨Failure.eq_none_of_unlessCrash passed, ?_⟩
  have allPass (descriptors : List MemberDescriptor) :
      Listing.filterItems options.nameContains? options.attributeContains? options.caseSensitive
          descriptors = descriptors := by
    rw [Listing.filterItems, List.filter_eq_self.mpr, List.filter_eq_self.mpr]
    · intro member _
      rw [Listing.matchesName, noNameFilter]
      rfl
    · intro member _
      rw [Listing.matchesAttribute, noAttributeFilter]
      rfl
  rw [arrange, allPass] at sorted
  exact Listing.perm_of_sortItems sorted

/-- The members that are found by name are those with the name in a listing of all members without
filters.  If there are none, that is the failure. -/
theorem exists_members_of_arrangedMembers
    {opened : OpenModule}
    {type : TypeDefinition}
    {typeName : String}
    {options : FilterOptions}
    {visibility : Visibility}
    {items : List MemberDescriptor}
    (found : opened.type typeName options.caseSensitive = .ok type)
    (arranged : arrangedMembers opened type .all options visibility = .ok items)
    (noNameFilter : Listing.filterText options.nameContains? = "")
    (noAttributeFilter : Listing.filterText options.attributeContains? = "")
    (memberName : String) :
    ∃ members : List MemberDescriptor,
      members.Perm (items.filter (hasName memberName options.caseSensitive)) ∧
        foundMembers typeName memberName options.caseSensitive visibility opened =
          if members.isEmpty then
            .error (.reported (.memberNotFound memberName type.fullName))
          else
            .ok (type, members) := by
  obtain ⟨describable, describedPerm⟩ :=
    perm_of_arrangedMembers arranged noNameFilter noAttributeFilter
  refine
    ⟨namedMembers memberName options.caseSensitive
        (MemberDescriptor.describeAll MemberKind.all (opened.membersOf type visibility)), ?_, ?_⟩
  · exact (List.mergeSort_perm _ _).trans (describedPerm.symm.filter _)
  · rw [foundMembers, found]
    dsimp only [bind, Except.bind]
    rw [describable]
    rfl

end Answer

end TypeCatalog
