import TypeCatalog.Answer.Listing
import TypeCatalog.Answer.TypeView
import TypeCatalog.Proofs.Query.Sorting
import TypeCatalog.Proofs.Source.ReadingOrder

namespace TypeCatalog

/-!
# Readings of a module

A reading is all that answers use of an open module: its types and the members of each type, in
whatever order they are enumerated.  Names and hierarchies do not depend on that order where no two
types share a full name.
-/

/-- What is read of an open module, with types and members in the order of reading. -/
structure Reading where
  path : String
  name : String
  types : List TypeDefinition
  membersOf : TypeDefinition → Visibility → List MemberFact

namespace Reading

/-- Readings that differ only in the order of types and members. -/
structure SameUpToOrder
    (first second : Reading) : Prop where
  path_eq : first.path = second.path
  name_eq : first.name = second.name
  types_perm : first.types.Perm second.types
  members_perm :
    ∀ type visibility, (first.membersOf type visibility).Perm (second.membersOf type visibility)

theorem SameUpToOrder.refl (reading : Reading) : reading.SameUpToOrder reading :=
  ⟨rfl, rfl, .refl _, fun _ _ => .refl _⟩

theorem SameUpToOrder.symm
    {first second : Reading}
    (same : first.SameUpToOrder second) :
    second.SameUpToOrder first :=
  ⟨same.path_eq.symm, same.name_eq.symm, same.types_perm.symm,
    fun type visibility => (same.members_perm type visibility).symm⟩

theorem SameUpToOrder.trans
    {first second third : Reading}
    (same : first.SameUpToOrder second)
    (further : second.SameUpToOrder third) :
    first.SameUpToOrder third :=
  ⟨same.path_eq.trans further.path_eq, same.name_eq.trans further.name_eq,
    same.types_perm.trans further.types_perm,
    fun type visibility =>
      (same.members_perm type visibility).trans (further.members_perm type visibility)⟩

/-- The type that a name means. -/
def type
    (reading : Reading)
    (typeName : String)
    (caseSensitive : Bool) : Except Failure TypeDefinition :=
  match TypeDefinition.find reading.types typeName caseSensitive with
  | .found type => .ok type
  | .notFound _ => .error (.reported (.typeNotFound typeName reading.path))
  | .invalid reason => .error (.reported (.invalidArgument "type_name" reason []))

/-- The types that a query asks for, in order. -/
def arrangedTypes
    (reading : Reading)
    (options : FilterOptions)
    (visibility : Visibility) : Except Failure (List TypeDescriptor) := do
  let shown := reading.types.filter (Answer.showsType visibility)
  Failure.unlessCrash (shown.findSome? TypeDefinition.describeFault?)
  Answer.arrange options SortKey.forTypes (shown.map (TypeDescriptor.describe reading.name))

/-- The members of a type that a query asks for, in order. -/
def arrangedMembers
    (reading : Reading)
    (type : TypeDefinition)
    (selection : MemberSelection)
    (options : FilterOptions)
    (visibility : Visibility) : Except Failure (List MemberDescriptor) := do
  let members := reading.membersOf type visibility
  Failure.unlessCrash (MemberFact.firstFault? selection.kinds members)
  Answer.arrange options SortKey.forMembers
    (MemberDescriptor.describeAll selection.kinds members)

/-- A page of the types. -/
def typeListing
    (reading : Reading)
    (stamp : ModuleStamp)
    (options : FilterOptions)
    (visibility : Visibility)
    (position : Answer.PagePosition) : Except Failure Value := do
  let items ← reading.arrangedTypes options visibility
  let page ← Answer.pageOf TypeDescriptor.toOwnValue items position
  return .record
    ([("module", .text reading.name), ("module_path", .text stamp.path)] ++ page.toFields)

/-- A page of the members of a type. -/
def memberListing
    (reading : Reading)
    (stamp : ModuleStamp)
    (selection : MemberSelection)
    (typeName : String)
    (options : FilterOptions)
    (visibility : Visibility)
    (position : Answer.PagePosition) : Except Failure Value := do
  let type ← reading.type typeName options.caseSensitive
  let items ← reading.arrangedMembers type selection options visibility
  let page ← Answer.pageOf MemberDescriptor.toValue items position
  return .record
    ([("module", .text reading.name), ("module_path", .text stamp.path),
      ("type_name", .text type.fullName)] ++
      Answer.countFields selection items ++ page.toFields)

/-- A view of a type. -/
def typeView
    (reading : Reading)
    (view : TypeView)
    (typeName : String)
    (caseSensitive : Bool) : Except Failure Value := do
  let type ← reading.type typeName caseSensitive
  Failure.unlessCrash (Answer.viewFault? view reading.types type)
  return .record
    (("module_path", .text reading.path) ::
      Answer.viewFields view reading.name reading.types type)

/-- All members of a type with a name. -/
def named
    (reading : Reading)
    (stamp : ModuleStamp)
    (view : NameView)
    (typeName memberName : String)
    (options : FilterOptions)
    (visibility : Visibility) : Except Failure Value := do
  let type ← reading.type typeName options.caseSensitive
  let visible := reading.membersOf type visibility
  Failure.unlessCrash (MemberFact.firstFault? MemberKind.all visible)
  let members :=
    Answer.namedMembers memberName options.caseSensitive
      (MemberDescriptor.describeAll MemberKind.all visible)
  if members.isEmpty then
    throw (.reported (.memberNotFound memberName type.fullName))
  else
    return .record
      ([("module_path", .text stamp.path), ("type_name", .text type.fullName),
        ("member_name", .text memberName), ("count", .ofNat members.length)] ++
        Answer.namedFields view members)

end Reading

namespace OpenModule

/-- The reading of an open module. -/
def reading (opened : OpenModule) : Reading :=
  ⟨opened.path, opened.name, opened.inReadingOrder opened.definition.allTypes, opened.membersOf⟩

variable {opened : OpenModule}

theorem types_eq_reading (readable : opened.mode ≠ .failing) :
    opened.types = .ok opened.reading.types :=
  if_neg readable

theorem type_eq_reading
    (readable : opened.mode ≠ .failing)
    (typeName : String)
    (caseSensitive : Bool) :
    opened.type typeName caseSensitive = opened.reading.type typeName caseSensitive := by
  rw [type, types_eq_reading readable]
  rfl

end OpenModule

/-! ## Names and hierarchies in any order -/

namespace TypeDefinition

variable {types others : List TypeDefinition}

theorem find_eq_of_perm
    (perm : types.Perm others)
    (distinct : (types.map fullName).Nodup)
    (typeName : String)
    (caseSensitive : Bool) :
    find types typeName caseSensitive = find others typeName caseSensitive := by
  have sameSorted : sortByFullName types = sortByFullName others :=
    Sorting.mergeSort_eq_of_perm (fun _ _ => decide_eq_true_iff) perm distinct
  rw [find, find, sameSorted]

end TypeDefinition

namespace Answer

variable {types others : List TypeDefinition}

theorem typeNamed?_eq_of_perm
    (perm : types.Perm others)
    (distinct : (types.map TypeDefinition.fullName).Nodup)
    (fullName : String) :
    typeNamed? types fullName = typeNamed? others fullName := by
  -- The last type with a name counts, but no two have the same.
  have reversedPerm : types.reverse.Perm others.reverse :=
    (List.reverse_perm types).trans (perm.trans (List.reverse_perm others).symm)
  rw [typeNamed?, typeNamed?, List.find?_eq_findSome?_guard, List.find?_eq_findSome?_guard]
  apply Sorting.findSome?_eq_of_perm reversedPerm
  intro one oneMember other otherMember result another isResult isAnother
  obtain ⟨rfl, oneNamed⟩ := Option.guard_eq_some_iff.mp isResult
  obtain ⟨rfl, otherNamed⟩ := Option.guard_eq_some_iff.mp isAnother
  exact List.inj_on_of_nodup_map distinct (List.mem_reverse.mp oneMember)
    (List.mem_reverse.mp otherMember) ((eq_of_beq oneNamed).trans (eq_of_beq otherNamed).symm)

/-- A chain of base types looks up names alone. -/
theorem inheritanceChain_congr
    (sameNamed : ∀ fullName, typeNamed? types fullName = typeNamed? others fullName)
    (met : List String)
    (current : TypeDefinition)
    (fuel : Nat) :
    inheritanceChain types met current fuel = inheritanceChain others met current fuel := by
  induction fuel generalizing met current with
  | zero =>
      rfl
  | succ fuel inductionHypothesis =>
      simp only [inheritanceChain, sameNamed, inductionHypothesis]

theorem chainOf_eq_of_perm
    (perm : types.Perm others)
    (distinct : (types.map TypeDefinition.fullName).Nodup)
    (type : TypeDefinition) :
    chainOf types type = chainOf others type := by
  rw [chainOf, chainOf, perm.length_eq]
  exact inheritanceChain_congr (typeNamed?_eq_of_perm perm distinct) _ _ _

theorem derivedTypes_eq_of_perm
    (perm : types.Perm others)
    (type : TypeDefinition) :
    derivedTypes types type = derivedTypes others type :=
  Text.mergeSort_eq_of_perm ((perm.filter _).map _)

end Answer

namespace Reading.SameUpToOrder

variable {first second : Reading}

theorem type_eq
    (same : first.SameUpToOrder second)
    (distinct : (first.types.map TypeDefinition.fullName).Nodup)
    (typeName : String)
    (caseSensitive : Bool) :
    first.type typeName caseSensitive = second.type typeName caseSensitive := by
  rw [Reading.type, Reading.type,
    TypeDefinition.find_eq_of_perm same.types_perm distinct, same.path_eq]

/-- No view of a type shows the order of reading. -/
theorem typeView_eq
    (same : first.SameUpToOrder second)
    (distinct : (first.types.map TypeDefinition.fullName).Nodup)
    (view : TypeView)
    (typeName : String)
    (caseSensitive : Bool) :
    first.typeView view typeName caseSensitive = second.typeView view typeName caseSensitive := by
  have sameChain := Answer.chainOf_eq_of_perm same.types_perm distinct
  have sameDerived := Answer.derivedTypes_eq_of_perm same.types_perm
  have sameFault (type : TypeDefinition) :
      Answer.viewFault? view first.types type = Answer.viewFault? view second.types type := by
    cases view <;> simp only [Answer.viewFault?, sameChain]
  have sameFields (type : TypeDefinition) :
      Answer.viewFields view first.name first.types type =
        Answer.viewFields view second.name second.types type := by
    cases view <;> simp only [Answer.viewFields, sameChain, sameDerived, same.name_eq]
  simp only [Reading.typeView, same.type_eq distinct, sameFault, sameFields, same.path_eq]

end Reading.SameUpToOrder

end TypeCatalog
