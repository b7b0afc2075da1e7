import TypeCatalog.Proofs.Cache.UnderKey
import TypeCatalog.Proofs.Session.Subject
import TypeCatalog.Proofs.Source.Reading

namespace TypeCatalog

/-!
# Answers from a reading

Everything that is answered about an open module follows from its reading.  Pages and views of a
type are the same for readings that differ in the order alone, unless several types or members
cannot be described: then a listing fails for the one that is read first.
-/

/-- Computations that agree, unless they fail for different ones of some faults. -/
inductive AgreeUpToFault
    {α : Type}
    (faults : Crash → Prop) : Except Failure α → Except Failure α → Prop where
  | agree (computed : Except Failure α) : AgreeUpToFault faults computed computed
  | fail {one other : Crash} :
      faults one → faults other → one ≠ other →
        AgreeUpToFault faults (.error (.crashed one)) (.error (.crashed other))

namespace AgreeUpToFault

variable {α β : Type} {faults : Crash → Prop}

theorem of_eq
    {first second : Except Failure α}
    (same : first = second) :
    AgreeUpToFault faults first second :=
  same ▸ .agree first

theorem eq_of_no_faults
    {first second : Except Failure α}
    (agrees : AgreeUpToFault faults first second)
    (noFaults : ∀ crash, ¬ faults crash) :
    first = second := by
  cases agrees with
  | agree =>
      rfl
  | fail oneMet _ _ =>
      exact absurd oneMet (noFaults _)

theorem mono
    {wider : Crash → Prop}
    {first second : Except Failure α}
    (agrees : AgreeUpToFault faults first second)
    (widens : ∀ crash, faults crash → wider crash) :
    AgreeUpToFault wider first second := by
  cases agrees with
  | agree =>
      exact .agree _
  | fail oneMet otherMet different =>
      exact .fail (widens _ oneMet) (widens _ otherMet) different

theorem bind
    {first second : Except Failure α}
    (agrees : AgreeUpToFault faults first second)
    (further : α → Except Failure β) :
    AgreeUpToFault faults (first >>= further) (second >>= further) := by
  cases agrees with
  | agree =>
      exact .agree _
  | fail oneMet otherMet different =>
      exact .fail oneMet otherMet different

/-- In another order the first item that cannot be described may be another one. -/
theorem unlessCrash_findSome?
    {items others : List α}
    {fault? : α → Option Crash}
    (perm : items.Perm others)
    (met : ∀ item ∈ items, ∀ crash, fault? item = some crash → faults crash) :
    AgreeUpToFault faults
      (Failure.unlessCrash (items.findSome? fault?))
      (Failure.unlessCrash (others.findSome? fault?)) := by
  rcases Sorting.findSome?_eq_or_exists_of_perm fault? perm with
    same | ⟨one, other, different, foundOne, foundOther⟩
  · rw [same]
    exact .agree _
  · obtain ⟨item, itemMember, itemFails⟩ := List.exists_of_findSome?_eq_some foundOne
    obtain ⟨another, anotherMember, anotherFails⟩ := List.exists_of_findSome?_eq_some foundOther
    rw [foundOne, foundOther]
    exact
      .fail (met item itemMember one itemFails)
        (met another (perm.mem_iff.mpr anotherMember) other anotherFails) different

/-- What is kept is answered alike, and what is made anew agrees. -/
theorem execute
    {σ : Type}
    (produce otherProduce : Unit → Except Failure α × σ)
    (agrees : AgreeUpToFault faults (produce ()).1 (otherProduce ()).1)
    (cache : ResponseCache α)
    (key : String)
    (lifetime : Except Failure Binary64)
    (noCache : Bool)
    (untouched : σ) :
    AgreeUpToFault faults
      (cache.execute key lifetime noCache produce untouched).1
      (cache.execute key lifetime noCache otherProduce untouched).1 := by
  generalize producedIs : (produce ()).1 = produced at agrees
  generalize otherIs : (otherProduce ()).1 = otherProduced at agrees
  cases agrees with
  | agree =>
      exact
        of_eq (ResponseCache.execute_fst_congr rfl (producedIs.trans otherIs.symm) _ _)
  | fail oneMet otherMet different =>
      unfold ResponseCache.execute
      split
      · rw [producedIs, otherIs]
        exact .fail oneMet otherMet different
      · split
        · exact .agree _
        · simp only [producedIs, otherIs]
          exact .fail oneMet otherMet different

end AgreeUpToFault

/-! ## Answers from a reading -/

namespace Reading

/-- The data of the answer to what a query asks. -/
def answer
    (reading : Reading) : QuerySubject → Except Failure Value
  | .page listing offset =>
    match listing.scope with
    | .types =>
      reading.typeListing listing.stamp listing.options.toFilter listing.options.visibility
        (listing.position offset)
    | .members selection typeName =>
      reading.memberListing listing.stamp selection typeName listing.options.toFilter
        listing.options.visibility (listing.position offset)
  | .type view _ typeName caseSensitive => reading.typeView view typeName caseSensitive
  | .named view stamp typeName memberName options =>
    reading.named stamp view typeName memberName options.toFilter options.visibility

/-- A failure of a type or of a member that a listing comes across. -/
def MeetsFault
    (reading : Reading)
    (listing : ListingSubject)
    (crash : Crash) : Prop :=
  match listing.scope with
  | .types =>
    ∃ type ∈ reading.types.filter (Answer.showsType listing.options.visibility),
      type.describeFault? = some crash
  | .members selection typeName =>
    ∃ type,
      reading.type typeName listing.options.caseSensitive = .ok type ∧
        ∃ member ∈ (reading.membersOf type listing.options.visibility).filter fun member =>
            selection.kinds.contains member.kind && !member.isAccessor,
          member.describeFault? = some crash

/-- A reading whose types have different full names, and in which no two members of a type share
the key that breaks ties. -/
structure TellsApart (reading : Reading) : Prop where
  namesDistinct : (reading.types.map TypeDefinition.fullName).Nodup
  membersDistinct : ∀ type ∈ reading.types, ∀ visibility,
    ((reading.membersOf type visibility).map fun member =>
      Listed.tieKey (MemberDescriptor.describe member)).Nodup

theorem mem_of_type_eq_ok
    {reading : Reading}
    {typeName : String}
    {caseSensitive : Bool}
    {type : TypeDefinition}
    (found : reading.type typeName caseSensitive = .ok type) :
    type ∈ reading.types := by
  unfold Reading.type at found
  split at found
  · next outcome =>
      cases found
      exact TypeDefinition.mem_of_find outcome
  · cases found
  · cases found

/-- In another order a listing comes across the same faults. -/
theorem MeetsFault.of_sameUpToOrder
    {first second : Reading}
    {listing : ListingSubject}
    {crash : Crash}
    (met : first.MeetsFault listing crash)
    (same : first.SameUpToOrder second)
    (apart : first.TellsApart) :
    second.MeetsFault listing crash := by
  cases scopeIs : listing.scope with
  | types =>
      simp only [MeetsFault, scopeIs] at met ⊢
      obtain ⟨type, member, isFault⟩ := met
      exact ⟨type, (same.types_perm.filter _).mem_iff.mp member, isFault⟩
  | members selection typeName =>
      simp only [MeetsFault, scopeIs] at met ⊢
      obtain ⟨type, found, member, isShown, isFault⟩ := met
      rw [same.type_eq apart.namesDistinct] at found
      exact
        ⟨type, found, member, ((same.members_perm type _).filter _).mem_iff.mp isShown, isFault⟩

namespace SameUpToOrder

variable {first second : Reading}

theorem arrangedTypes_agree
    (same : first.SameUpToOrder second)
    (distinct : (first.types.map TypeDefinition.fullName).Nodup)
    {faults : Crash → Prop}
    {visibility : Visibility}
    (met : ∀ type ∈ first.types.filter (Answer.showsType visibility), ∀ crash,
      type.describeFault? = some crash → faults crash)
    (options : FilterOptions) :
    AgreeUpToFault faults
      (first.arrangedTypes options visibility) (second.arrangedTypes options visibility) := by
  have shownPerm := same.types_perm.filter (Answer.showsType visibility)
  have keysDistinct :
      (((first.types.filter (Answer.showsType visibility)).map
        (TypeDescriptor.describe first.name)).map Listed.tieKey).Nodup := by
    -- The key that breaks ties holds the full name, so it is at least as telling.
    apply List.Nodup.of_map Text.RankKey.first
    have firstOfKey (type : TypeDefinition) :
        (Listed.tieKey (TypeDescriptor.describe first.name type)).first = type.fullName := by
      cases type
      rfl
    simp only [List.map_map, Function.comp_def, firstOfKey]
    exact distinct.sublist (List.filter_sublist.map _)
  have sameArranged :=
    Answer.arrange_eq_of_perm (shownPerm.map _) keysDistinct options SortKey.forTypes
  simp only [arrangedTypes, ← same.name_eq, ← sameArranged]
  exact (AgreeUpToFault.unlessCrash_findSome? shownPerm met).bind _

theorem arrangedMembers_agree
    (same : first.SameUpToOrder second)
    {faults : Crash → Prop}
    {type : TypeDefinition}
    {selection : MemberSelection}
    {visibility : Visibility}
    (distinct :
      ((first.membersOf type visibility).map fun member =>
        Listed.tieKey (MemberDescriptor.describe member)).Nodup)
    (met : ∀ member ∈ (first.membersOf type visibility).filter fun member =>
        selection.kinds.contains member.kind && !member.isAccessor,
      ∀ crash, member.describeFault? = some crash → faults crash)
    (options : FilterOptions) :
    AgreeUpToFault faults
      (first.arrangedMembers type selection options visibility)
      (second.arrangedMembers type selection options visibility) := by
  have shownPerm :=
    (same.members_perm type visibility).filter fun member =>
      selection.kinds.contains member.kind && !member.isAccessor
  have keysDistinct :
      ((MemberDescriptor.describeAll selection.kinds (first.membersOf type visibility)).map
        Listed.tieKey).Nodup := by
    rw [MemberDescriptor.describeAll, List.map_map]
    exact distinct.sublist (List.filter_sublist.map _)
  have sameArranged :=
    Answer.arrange_eq_of_perm (shownPerm.map MemberDescriptor.describe) keysDistinct options
      SortKey.forMembers
  simp only [arrangedMembers, MemberDescriptor.describeAll, MemberFact.firstFault?, ← sameArranged]
  exact (AgreeUpToFault.unlessCrash_findSome? shownPerm met).bind _

/-- A page is the same in any order, unless the listing fails for one of several faults. -/
theorem answer_page_agree
    (same : first.SameUpToOrder second)
    (apart : first.TellsApart)
    (listing : ListingSubject)
    (offset : Nat) :
    AgreeUpToFault (first.MeetsFault listing)
      (first.answer (.page listing offset)) (second.answer (.page listing offset)) := by
  cases scopeIs : listing.scope with
  | types =>
      simp only [answer, scopeIs, typeListing, ← same.name_eq]
      apply (same.arrangedTypes_agree apart.namesDistinct _ _).bind
      intro type member crash isFault
      simp only [MeetsFault, scopeIs]
      exact ⟨type, member, isFault⟩
  | members selection typeName =>
      simp only [answer, scopeIs, memberListing, ← same.name_eq,
        ← same.type_eq apart.namesDistinct]
      cases found : first.type typeName listing.options.toFilter.caseSensitive with
      | error failure =>
          exact .agree _
      | ok type =>
          have distinct :=
            apart.membersDistinct type (mem_of_type_eq_ok found) listing.options.visibility
          apply (same.arrangedMembers_agree distinct _ _).bind
          intro member isShown crash isFault
          simp only [MeetsFault, scopeIs]
          exact ⟨type, found, member, isShown, isFault⟩

end SameUpToOrder

end Reading

namespace OpenModule

/-- A module whose types have different full names, and in which no two members of a type share
token, signature and declaring type. -/
structure TellsApart (opened : OpenModule) : Prop where
  namesDistinct : (opened.definition.allTypes.map TypeDefinition.fullName).Nodup
  membersDistinct : ∀ type ∈ opened.definition.allTypes,
    (type.members.map fun member =>
      (member.token, (MemberDescriptor.describe member).signature, member.declaringType)).Nodup

/-- A module that tells its parts apart does so in whatever order it is read. -/
theorem TellsApart.of_sameUpToOrder
    {opened : OpenModule}
    {reading : Reading}
    (apart : opened.TellsApart)
    (same : reading.SameUpToOrder opened.reading) :
    reading.TellsApart := by
  have typesPerm : reading.types.Perm opened.definition.allTypes :=
    same.types_perm.trans (opened.inReadingOrder_perm _)
  constructor
  · exact (typesPerm.map _).nodup_iff.mpr apart.namesDistinct
  · intro type member visibility
    have allDistinct := apart.membersDistinct type (typesPerm.mem_iff.mp member)
    have visiblePerm :=
      (same.members_perm type visibility).trans (opened.inReadingOrder_perm _)
    rw [(visiblePerm.map _).nodup_iff]
    apply List.Nodup.of_map fun key : Text.RankKey => (key.rank, key.first, key.second)
    rw [List.map_map]
    exact allDistinct.sublist (List.filter_sublist.map _)

/-- A module in which everything can be described. -/
structure Describable (opened : OpenModule) : Prop where
  types : ∀ type ∈ opened.definition.allTypes, type.describeFault? = none
  members : ∀ type ∈ opened.definition.allTypes, ∀ member ∈ type.members,
    member.describeFault? = none

/-- Where everything can be described a listing comes across no fault. -/
theorem Describable.not_meetsFault
    {opened : OpenModule}
    (describable : opened.Describable)
    (listing : ListingSubject)
    (crash : Crash) :
    ¬ opened.reading.MeetsFault listing crash := by
  have typesPerm := opened.inReadingOrder_perm opened.definition.allTypes
  intro met
  cases scopeIs : listing.scope with
  | types =>
      simp only [Reading.MeetsFault, scopeIs] at met
      obtain ⟨type, member, isFault⟩ := met
      rw [describable.types type (typesPerm.mem_iff.mp (List.mem_of_mem_filter member))] at isFault
      cases isFault
  | members selection typeName =>
      simp only [Reading.MeetsFault, scopeIs] at met
      obtain ⟨type, found, member, isShown, isFault⟩ := met
      have inType : member ∈ type.members :=
        List.mem_of_mem_filter
          ((opened.inReadingOrder_perm _).mem_iff.mp (List.mem_of_mem_filter isShown))
      rw [describable.members type (typesPerm.mem_iff.mp (Reading.mem_of_type_eq_ok found)) member
        inType] at isFault
      cases isFault

/-- What is answered about an open module that can be read follows from its reading. -/
theorem answer_eq_reading
    {opened : OpenModule}
    (readable : opened.mode ≠ .failing)
    (subject : QuerySubject) :
    subject.answer opened = opened.reading.answer subject := by
  have types := types_eq_reading readable
  have type := type_eq_reading readable
  cases subject with
  | page listing offset =>
      cases scopeIs : listing.scope with
      | types =>
          simp only [QuerySubject.answer, ListingSubject.answer, Reading.answer, scopeIs,
            Answer.typeListing, Answer.arrangedTypes, types]
          rfl
      | members selection typeName =>
          simp only [QuerySubject.answer, ListingSubject.answer, Reading.answer, scopeIs,
            Answer.memberListing, type]
          rfl
  | type view stamp typeName caseSensitive =>
      simp only [QuerySubject.answer, Answer.typeView, type, types]
      rfl
  | named view stamp typeName memberName options =>
      simp only [QuerySubject.answer, Answer.named, type]
      rfl

end OpenModule

end TypeCatalog
