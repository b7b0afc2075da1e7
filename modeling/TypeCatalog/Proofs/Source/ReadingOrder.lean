import Mathlib.Data.List.Forall2
import Mathlib.Data.List.Nodup
import TypeCatalog.Proofs.Query.Sorting
import TypeCatalog.Source.ModuleSource

namespace TypeCatalog

/-!
# Modules read in another order

Two sources may hold the same modules and differ only in the order in which they read types and
members.  Where no two types share a full name, a name means the same type in both.
-/

/-- Two searches whose results have the same image found something of the same image, or they
failed alike. -/
theorem Lookup.found_or_fails_of_map_eq
    {α β : Type}
    {f : α → β}
    {first second : Lookup α}
    (same : first.map f = second.map f) :
    (∃ one other, first = .found one ∧ second = .found other ∧ f one = f other) ∨
      first = second ∧ ∀ one, first ≠ .found one := by
  cases first with
  | found one =>
      cases second with
      | found other =>
          exact .inl ⟨one, other, rfl, rfl, Lookup.found.inj same⟩
      | notFound query =>
          cases same
      | invalid reason =>
          cases same
  | notFound query =>
      cases second <;> cases same
      exact .inr ⟨rfl, fun _ => nofun⟩
  | invalid reason =>
      cases second <;> cases same
      exact .inr ⟨rfl, fun _ => nofun⟩

namespace TypeDefinition

/-- Types with the same full name and the same members, in any order. -/
structure SameMembers
    (first second : TypeDefinition) : Prop where
  fullName_eq : first.fullName = second.fullName
  members_perm : first.members.Perm second.members

/-- The same types in any order, with their members in any order. -/
def SameTypes (first second : List TypeDefinition) : Prop :=
  ∃ between : List TypeDefinition,
    first.Perm between ∧ List.Forall₂ SameMembers between second

theorem SameMembers.refl (type : TypeDefinition) : type.SameMembers type :=
  ⟨rfl, .refl _⟩

theorem sameTypes_of_perm
    {first second : List TypeDefinition}
    (perm : first.Perm second) :
    SameTypes first second :=
  ⟨second, perm, List.forall₂_same.mpr fun type _ => .refl type⟩

namespace SameTypes

variable {first second : List TypeDefinition}

theorem names_perm (same : SameTypes first second) :
    (first.map fullName).Perm (second.map fullName) := by
  obtain ⟨between, perm, sameMembers⟩ := same
  have namesSame : between.map fullName = second.map fullName := by
    clear perm
    induction sameMembers with
    | nil =>
        rfl
    | cons sameHere _ inductionHypothesis =>
        rw [List.map_cons, List.map_cons, sameHere.fullName_eq, inductionHypothesis]
  rw [← namesSame]
  exact perm.map fullName

private theorem exists_sameMembers_of_mem
    {other : TypeDefinition}
    (same : SameTypes first second)
    (member : other ∈ second) :
    ∃ type ∈ first, type.SameMembers other := by
  obtain ⟨between, perm, sameMembers⟩ := same
  have inBetween : ∃ type ∈ between, type.SameMembers other := by
    clear perm
    induction sameMembers with
    | nil =>
        cases member
    | cons sameHere _ inductionHypothesis =>
        rcases List.mem_cons.mp member with rfl | inRest
        · exact ⟨_, List.mem_cons_self, sameHere⟩
        · obtain ⟨type, typeMember, sameThere⟩ := inductionHypothesis inRest
          exact ⟨type, List.mem_cons_of_mem _ typeMember, sameThere⟩
  obtain ⟨type, typeMember, sameThere⟩ := inBetween
  exact ⟨type, perm.mem_iff.mpr typeMember, sameThere⟩

/-- Where no two types share a full name, types with the same full name have the same members. -/
theorem sameMembers
    {type other : TypeDefinition}
    (same : SameTypes first second)
    (distinct : (first.map fullName).Nodup)
    (member : type ∈ first)
    (otherMember : other ∈ second)
    (sameName : type.fullName = other.fullName) :
    type.SameMembers other := by
  obtain ⟨partner, partnerMember, sameThere⟩ := exists_sameMembers_of_mem same otherMember
  have isPartner : type = partner :=
    List.inj_on_of_nodup_map distinct member partnerMember
      (sameName.trans sameThere.fullName_eq.symm)
  rw [isPartner]
  exact sameThere

end SameTypes

/-! ## Finding types -/

private theorem map_find?_congr
    {candidates others : List TypeDefinition}
    (sameNames : candidates.map fullName = others.map fullName)
    (isMeant : String → Bool) :
    (candidates.find? fun type => isMeant type.fullName).map fullName =
      (others.find? fun type => isMeant type.fullName).map fullName := by
  have found := congrArg (List.find? isMeant) sameNames
  rw [List.find?_map, List.find?_map] at found
  exact found

private theorem map_findAmong?_congr
    {candidates others : List TypeDefinition}
    (sameNames : candidates.map fullName = others.map fullName)
    (query : String)
    (caseSensitive : Bool) :
    (findAmong? candidates query caseSensitive).map fullName =
      (findAmong? others query caseSensitive).map fullName := by
  -- All four ways look at the full name alone.
  have found := map_find?_congr sameNames
  simp only [findAmong?, simpleName, Option.orElse_eq_orElse, Option.orElse_eq_or, Option.map_or,
    apply_ite (Option.map fullName), Option.map_none]
  rw [found fun name => Text.foldFor caseSensitive name == Text.foldFor caseSensitive query,
    found fun name =>
      Text.foldFor caseSensitive (QualifiedName.simpleName name) ==
        Text.foldFor caseSensitive query,
    found fun name =>
      Text.foldFor caseSensitive name ==
        Text.replaceCharacter '.' '+' (Text.foldFor caseSensitive query),
    found fun name =>
      Text.replaceCharacter '+' '.' (Text.foldFor caseSensitive name) ==
        Text.replaceCharacter '+' '.' (Text.foldFor caseSensitive query)]

theorem map_sortByFullName (types : List TypeDefinition) :
    (sortByFullName types).map fullName = (types.map fullName).mergeSort Text.atMost :=
  List.map_mergeSort fun _ _ _ _ => rfl

/-- A name means a type of the same full name in both. -/
theorem map_find_of_names_perm
    {first second : List TypeDefinition}
    (perm : (first.map fullName).Perm (second.map fullName))
    (typeName : String)
    (caseSensitive : Bool) :
    (find first typeName caseSensitive).map fullName =
      (find second typeName caseSensitive).map fullName := by
  have sortedNames :
      (sortByFullName first).map fullName = (sortByFullName second).map fullName := by
    rw [map_sortByFullName, map_sortByFullName, Text.mergeSort_eq_of_perm perm]
  have found :=
    map_findAmong?_congr sortedNames (Text.trim typeName) caseSensitive
  by_cases isBlank : (Text.trim typeName).isEmpty = true
  · simp only [find, if_pos isBlank]
  · simp only [find, if_neg isBlank]
    revert found
    cases findAmong? (sortByFullName first) (Text.trim typeName) caseSensitive <;>
      cases findAmong? (sortByFullName second) (Text.trim typeName) caseSensitive <;>
      simp [Lookup.map]

theorem mem_of_findAmong?
    {candidates : List TypeDefinition}
    {query : String}
    {caseSensitive : Bool}
    {type : TypeDefinition}
    (found : findAmong? candidates query caseSensitive = some type) :
    type ∈ candidates := by
  simp only [findAmong?, Option.orElse_eq_orElse, Option.orElse_eq_or, Option.or_eq_some_iff]
    at found
  rcases found with here | ⟨_, here | ⟨_, separated⟩⟩
  · exact List.mem_of_find?_eq_some here
  · exact List.mem_of_find?_eq_some here
  · split at separated
    · rcases Option.or_eq_some_iff.mp separated with here | ⟨_, here⟩
      · exact List.mem_of_find?_eq_some here
      · exact List.mem_of_find?_eq_some here
    · cases separated

theorem mem_of_find
    {types : List TypeDefinition}
    {typeName : String}
    {caseSensitive : Bool}
    {type : TypeDefinition}
    (found : find types typeName caseSensitive = .found type) :
    type ∈ types := by
  simp only [find] at found
  split at found
  · cases found
  · split at found
    · next among =>
        cases found
        exact List.mem_mergeSort.mp (mem_of_findAmong? among)
    · cases found

end TypeDefinition

namespace OpenModule

/-- Two modules that can be read and hold the same types, each read in its own order. -/
structure SameUpToOrder
    (first second : OpenModule) : Prop where
  path_eq : first.path = second.path
  firstReadable : first.mode ≠ .failing
  secondReadable : second.mode ≠ .failing
  sameTypes :
    TypeDefinition.SameTypes first.definition.allTypes second.definition.allTypes

theorem inReadingOrder_perm
    {α : Type}
    (opened : OpenModule)
    (items : List α) :
    (opened.inReadingOrder items).Perm items := by
  unfold inReadingOrder
  split
  · exact List.reverse_perm items
  · exact .refl items

/-- Where types can be read, what a name means is looked for among all of them. -/
theorem type_of_readable
    {opened : OpenModule}
    (readable : opened.mode ≠ .failing)
    (typeName : String)
    (caseSensitive : Bool) :
    opened.type typeName caseSensitive =
      match
        TypeDefinition.find (opened.inReadingOrder opened.definition.allTypes) typeName
          caseSensitive with
      | .found type => .ok type
      | .notFound _ => .error (.reported (.typeNotFound typeName opened.path))
      | .invalid reason => .error (.reported (.invalidArgument "type_name" reason [])) := by
  rw [type, types, if_neg readable]
  rfl

/-- The same members of types with the same members are seen, in any order. -/
theorem membersOf_perm
    {type other : TypeDefinition}
    (first second : OpenModule)
    (same : type.SameMembers other)
    (visibility : Visibility) :
    (first.membersOf type visibility).Perm (second.membersOf other visibility) := by
  have visible : (visibility.membersOf type).Perm (visibility.membersOf other) := by
    unfold Visibility.membersOf
    rw [same.fullName_eq]
    exact same.members_perm.filter _
  exact (first.inReadingOrder_perm _).trans
    (visible.trans (second.inReadingOrder_perm _).symm)

/-- Modules that are the same up to the order of reading have the same type under a name, or fail
alike. -/
theorem type_of_sameUpToOrder
    {first second : OpenModule}
    (same : first.SameUpToOrder second)
    (distinct : (first.definition.allTypes.map TypeDefinition.fullName).Nodup)
    (typeName : String)
    (caseSensitive : Bool) :
    (∃ failure,
      first.type typeName caseSensitive = .error failure ∧
        second.type typeName caseSensitive = .error failure) ∨
    ∃ type other,
      first.type typeName caseSensitive = .ok type ∧
        second.type typeName caseSensitive = .ok other ∧
        type ∈ first.definition.allTypes ∧ type.SameMembers other := by
  have firstOrder := first.inReadingOrder_perm first.definition.allTypes
  have secondOrder := second.inReadingOrder_perm second.definition.allTypes
  have namesPerm :=
    (firstOrder.map TypeDefinition.fullName).trans
      (same.sameTypes.names_perm.trans (secondOrder.map TypeDefinition.fullName).symm)
  have found := TypeDefinition.map_find_of_names_perm namesPerm typeName caseSensitive
  rw [type_of_readable same.firstReadable, type_of_readable same.secondReadable, same.path_eq]
  rcases Lookup.found_or_fails_of_map_eq found with
    ⟨type, other, foundFirst, foundSecond, sameName⟩ | ⟨sameOutcome, noneFound⟩
  · rw [foundFirst, foundSecond]
    have member := firstOrder.mem_iff.mp (TypeDefinition.mem_of_find foundFirst)
    have otherMember := secondOrder.mem_iff.mp (TypeDefinition.mem_of_find foundSecond)
    exact .inr ⟨type, other, rfl, rfl, member,
      same.sameTypes.sameMembers distinct member otherMember sameName⟩
  · rw [← sameOutcome]
    split
    · next type foundFirst =>
        exact absurd foundFirst (noneFound type)
    · exact .inl ⟨_, rfl, rfl⟩
    · exact .inl ⟨_, rfl, rfl⟩

end OpenModule

namespace ModuleSource

/-- What opening a module gives, up to the order in which the module is read. -/
inductive OpeningAlike :
    Except Failure (Option OpenModule) → Except Failure (Option OpenModule) → Prop where
  | failed (failure : Failure) : OpeningAlike (.error failure) (.error failure)
  | absent : OpeningAlike (.ok none) (.ok none)
  | opened {one other : OpenModule} :
      one.SameUpToOrder other → OpeningAlike (.ok (some one)) (.ok (some other))

/-- Two sources that have the same modules with the same stamps, each read in its own order. -/
structure SameUpToOrder
    (first second : ModuleSource)
    (files : FileTree) : Prop where
  stamp?_eq : ∀ path, first.stamp? files path = second.stamp? files path
  opening :
    ∀ path, OpeningAlike (first.openModule files path).1 (second.openModule files path).1

namespace SameUpToOrder

variable {first second : ModuleSource} {files : FileTree}

theorem firstStamp?_eq
    (same : first.SameUpToOrder second files)
    (paths : List String) :
    first.firstStamp? files paths = second.firstStamp? files paths :=
  firstStamp?_congr same.stamp?_eq paths

/-- What does not depend on the order in which a module is read is computed alike from both. -/
theorem withModule_eq
    {α : Type}
    {stamp : ModuleStamp}
    {compute : OpenModule → Except Failure α}
    (same : first.SameUpToOrder second files)
    (alike : ∀ one other,
      (first.openModule files stamp.path).1 = .ok (some one) → one.SameUpToOrder other →
        compute one = compute other) :
    (first.withModule files stamp compute).1 = (second.withModule files stamp compute).1 := by
  have opening := same.opening stamp.path
  rw [withModule_fst, withModule_fst]
  generalize firstOpens : (first.openModule files stamp.path).1 = firstOutcome at opening ⊢
  generalize (second.openModule files stamp.path).1 = secondOutcome at opening ⊢
  cases opening with
  | failed failure =>
      rfl
  | absent =>
      rfl
  | opened sameModule =>
      exact alike _ _ firstOpens sameModule

end SameUpToOrder

/-- Reading backwards is reading in another order. -/
theorem sameUpToOrder_backwards
    {source : ModuleSource}
    (ordinary : source.mode = .ordinary)
    (files : FileTree) :
    source.SameUpToOrder { source with mode := .backwards } files := by
  refine ⟨fun path => rfl, fun path => ?_⟩
  have staysBackwards :
      ({ source with mode := .backwards } : ModuleSource).beforeOpening path =
        { source with mode := .backwards } :=
    rfl
  have sameModule :
      ({ source with mode := .backwards } : ModuleSource).module? files path =
        source.module? files path :=
    rfl
  simp only [openModule, beforeOpening_of_ordinary ordinary, staysBackwards, sameModule]
  split
  · exact .failed _
  · exact .absent
  · next path definition _ =>
      refine .opened ⟨rfl, ?_, nofun, TypeDefinition.sameTypes_of_perm (.refl _)⟩
      rw [ordinary]
      nofun

end ModuleSource

end TypeCatalog
