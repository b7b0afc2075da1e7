import TypeCatalog.Answer.Kind
import TypeCatalog.Describe.Fault
import TypeCatalog.Paging.Page
import TypeCatalog.Query.Listing
import TypeCatalog.Query.Options
import TypeCatalog.Source.ModuleSource

namespace TypeCatalog.Answer

/-!
# Answers with listings

Answers that list types or members, and answers about the members with a name.
-/

/-!
## Listings

The data of answers that show a page of types or of members: filter, sort, then cut out the page.
-/

/-- Which page of a listing is shown, and the salt that binds its token to the query. -/
structure PagePosition where
  offset : Nat
  take : Nat
  salt : String
deriving Repr, DecidableEq

/-- The page of a sorted listing. -/
def pageOf
    {α : Type}
    (render : α → Value)
    (items : List α)
    (position : PagePosition) : Except Failure Page :=
  let page :=
    Page.build render items position.offset position.take position.salt Limits.pageTarget
  (Failure.unlessCrash
    (page.measureFault? (Page.candidates render items position.offset position.take))).map
      fun _ => page

/-- Filters and sorts descriptors as the options of a query say. -/
def arrange
    {α : Type}
    [Listed α]
    (options : FilterOptions)
    (supported : List SortKey)
    (items : List α) : Except Failure (List α) :=
  Listing.sortItems options.sortBy options.sortOrder supported
    (Listing.filterItems options.nameContains? options.attributeContains? options.caseSensitive
      items)

/-- Whether a query sees a type. -/
def showsType
    (visibility : Visibility)
    (type : TypeDefinition) : Bool :=
  if type.accessibility = .public then visibility.publicMembers else visibility.nonPublicMembers

/-- The types of a module that a query asks for, in order. -/
def arrangedTypes
    (opened : OpenModule)
    (options : FilterOptions)
    (visibility : Visibility) : Except Failure (List TypeDescriptor) := do
  let types ← opened.types
  let shown := types.filter (showsType visibility)
  Failure.unlessCrash (shown.findSome? TypeDefinition.describeFault?)
  arrange options SortKey.forTypes (shown.map (TypeDescriptor.describe opened.name))

/-- A page of the types of a module. -/
def typeListing
    (stamp : ModuleStamp)
    (options : FilterOptions)
    (visibility : Visibility)
    (position : PagePosition)
    (opened : OpenModule) : Except Failure Value := do
  let items ← arrangedTypes opened options visibility
  let page ← pageOf TypeDescriptor.toOwnValue items position
  return .record
    ([("module", .text opened.name), ("module_path", .text stamp.path)] ++ page.toFields)

/-- The members of a type that a query asks for, in order. -/
def arrangedMembers
    (opened : OpenModule)
    (type : TypeDefinition)
    (selection : MemberSelection)
    (options : FilterOptions)
    (visibility : Visibility) : Except Failure (List MemberDescriptor) := do
  let members := opened.membersOf type visibility
  Failure.unlessCrash (MemberFact.firstFault? selection.kinds members)
  arrange options SortKey.forMembers (MemberDescriptor.describeAll selection.kinds members)

/-- The number of members of each kind. -/
def memberCounts (items : List MemberDescriptor) : Value :=
  .record
    (MemberKind.all.map fun kind =>
      (kind.word, .ofNat (items.countP fun item => item.kind = kind)))

/-- The numbers of members of each kind, for a listing of all kinds. -/
def countFields
    (selection : MemberSelection)
    (items : List MemberDescriptor) : List (String × Value) :=
  match selection with
  | .ofKind _ => []
  | .all => [("counts", memberCounts items)]

/-- A page of the members of a type. -/
def memberListing
    (stamp : ModuleStamp)
    (selection : MemberSelection)
    (typeName : String)
    (options : FilterOptions)
    (visibility : Visibility)
    (position : PagePosition)
    (opened : OpenModule) : Except Failure Value := do
  let type ← opened.type typeName options.caseSensitive
  let items ← arrangedMembers opened type selection options visibility
  let page ← pageOf MemberDescriptor.toValue items position
  return .record
    ([("module", .text opened.name), ("module_path", .text stamp.path),
      ("type_name", .text type.fullName)] ++
      countFields selection items ++ page.toFields)

/-!
## Members by name

The data of answers that show every member of a type with one name, whatever its kind.
-/

/-- Members by kind, then signature, then the type that declares them. -/
def namedAtMost (first second : MemberDescriptor) : Bool :=
  if first.kind.word < second.kind.word then true
  else if second.kind.word < first.kind.word then false
  else if first.signature < second.signature then true
  else if second.signature < first.signature then false
  else Text.atMost first.declaringType second.declaringType

/-- The members with a name, in order. -/
def namedMembers
    (memberName : String)
    (caseSensitive : Bool)
    (members : List MemberDescriptor) : List MemberDescriptor :=
  (members.filter fun member =>
    Text.foldFor caseSensitive member.name == Text.foldFor caseSensitive memberName).mergeSort
      namedAtMost

/-- A member with its documentation. -/
def documentedMember (member : MemberDescriptor) : Value :=
  .record
    [("kind", .text member.kind.word), ("name", .text member.name),
      ("signature", .text member.signature), ("declaring_type", .text member.declaringType),
      ("docs", DocsDescriptor.optionToValue member.docs?)]

/-- The fields of a view of members. -/
def namedFields
    (view : NameView)
    (members : List MemberDescriptor) : List (String × Value) :=
  match view with
  | .lookup => [("items", .list (members.map MemberDescriptor.toValue))]
  | .documentation =>
    [("documented", .ofNat (members.countP fun member => member.docs?.isSome)),
      ("items", .list (members.map documentedMember))]

/-- All members of a type with a name. -/
def named
    (stamp : ModuleStamp)
    (view : NameView)
    (typeName memberName : String)
    (options : FilterOptions)
    (visibility : Visibility)
    (opened : OpenModule) : Except Failure Value := do
  let type ← opened.type typeName options.caseSensitive
  let visible := opened.membersOf type visibility
  Failure.unlessCrash (MemberFact.firstFault? MemberKind.all visible)
  let members :=
    namedMembers memberName options.caseSensitive
      (MemberDescriptor.describeAll MemberKind.all visible)
  if members.isEmpty then
    throw (.reported (.memberNotFound memberName type.fullName))
  else
    return .record
      ([("module_path", .text stamp.path), ("type_name", .text type.fullName),
        ("member_name", .text memberName), ("count", .ofNat members.length)] ++
        namedFields view members)

end TypeCatalog.Answer
