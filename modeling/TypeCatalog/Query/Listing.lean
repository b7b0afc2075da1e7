import TypeCatalog.Describe.Member
import TypeCatalog.Describe.Type
import TypeCatalog.Query.Options
import TypeCatalog.Report.Error
import TypeCatalog.Text.LetterCase

namespace TypeCatalog

/-!
# Filtering and sorting

A listing keeps the descriptors that match two substring filters and sorts them.  Descriptors with
equal sort values follow their declaration order, then their signature or full name, then the type
that declares them, so the order never depends on the order in which a module is read.
-/

/-- What sorting compares. -/
inductive SortValue where
  | text (content : String)
  | number (rank : Int)
deriving Repr, DecidableEq

/-- Whether a sort value comes before another or equals it; numbers come before texts. -/
def SortValue.atMost : SortValue → SortValue → Bool
  | .text first, .text second => Text.atMost first second
  | .number first, .number second => decide (first ≤ second)
  | .number _, .text _ => true
  | .text _, .number _ => false

/-- What can stand in a listing. -/
class Listed (α : Type) where
  /-- The name that filters and sorting use. -/
  nameKey : α → String
  /-- The attributes that the attribute filter looks at. -/
  attributes : α → List AttributeDescriptor
  /-- The value for a sort key, if the key applies. -/
  sortValue? : SortKey → α → Option SortValue
  /-- The key that orders descriptors with equal sort values. -/
  tieKey : α → Text.RankKey

instance : Listed MemberDescriptor where
  nameKey := MemberDescriptor.nameKey
  attributes := MemberDescriptor.attributes
  sortValue? key member :=
    match key with
    | .name => some (.text member.nameKey)
    | .kind => some (.text member.kind.word)
    | .accessibility => some (.text member.accessibility.word)
    | .declaration => some (.number member.order)
    | .signature => some (.text member.signature)
    | .fullName | .namespaceName => none
  tieKey member := ⟨member.order, member.signature, member.declaringType⟩

instance : Listed TypeDescriptor where
  nameKey := TypeDescriptor.simpleName
  attributes := TypeDescriptor.attributes
  sortValue? key type :=
    match key with
    | .name => some (.text type.simpleName)
    | .kind => some (.text type.kind.word)
    | .accessibility => some (.text type.accessibility.word)
    | .declaration => some (.number type.order)
    | .fullName => some (.text type.fullName)
    | .namespaceName => some (.text type.namespaceName)
    | .signature => none
  tieKey type := ⟨type.order, type.fullName, ""⟩

namespace Listing

variable {α : Type} [Listed α]

/-- Whether one text occurs in another, with or without regard to case. -/
def matchesText
    (caseSensitive : Bool)
    (whole part : String) : Bool :=
  Text.contains (Text.foldFor caseSensitive whole) (Text.foldFor caseSensitive part)

/-- A filter that is absent or empty lets everything pass. -/
def filterText (filter? : Option String) : String :=
  filter?.getD ""

/-- Whether the name of a descriptor matches a filter. -/
def matchesName
    (filter? : Option String)
    (caseSensitive : Bool)
    (item : α) : Bool :=
  (filterText filter?).isEmpty ||
    matchesText caseSensitive (Listed.nameKey item) (filterText filter?)

/-- Whether an attribute of a descriptor matches a filter. -/
def matchesAttribute
    (filter? : Option String)
    (caseSensitive : Bool)
    (item : α) : Bool :=
  (filterText filter?).isEmpty ||
    (Listed.attributes item).any fun descriptor =>
      matchesText caseSensitive descriptor.typeName (filterText filter?)

/-- Keeps the descriptors that match both filters. -/
def filterItems
    (nameContains? attributeContains? : Option String)
    (caseSensitive : Bool)
    (items : List α) : List α :=
  (items.filter (matchesName nameContains? caseSensitive)).filter
    (matchesAttribute attributeContains? caseSensitive)

/-- The value by which a descriptor is sorted. -/
def sortValue
    (key : SortKey)
    (item : α) : SortValue :=
  (Listed.sortValue? key item).getD (.text "")

/-- Descriptors in the order that breaks ties. -/
def sortByTie (items : List α) : List α :=
  items.mergeSort fun first second => (Listed.tieKey first).atMost (Listed.tieKey second)

/-- Whether a descriptor may stand before another in a direction. -/
def inOrder
    (key : SortKey)
    (order : SortOrder)
    (first second : α) : Bool :=
  match order with
  | .ascending => (sortValue key first).atMost (sortValue key second)
  | .descending => (sortValue key second).atMost (sortValue key first)

/-- The error for a sort key that a listing does not have. -/
def unsupportedKey
    (key : SortKey)
    (supported : List SortKey) : ReportedError :=
  .invalidArgument "sort_by" ("'" ++ key.word ++ "' is not supported for this operation")
    [("supported", .ofTexts ((supported.map SortKey.word).mergeSort Text.atMost))]

/-- The crash for a sort key that descriptors have no value for. -/
def missingSortValue (key : SortKey) : Crash :=
  ⟨.invalidValue, "no sort value for " ++ key.word⟩

/-- Sorts descriptors by a key that the listing has.  Equal ones keep the order that breaks ties,
in both directions. -/
def sortItems
    (key : SortKey)
    (order : SortOrder)
    (supported : List SortKey)
    (items : List α) : Except Failure (List α) :=
  if !supported.contains key then
    .error (.reported (unsupportedKey key supported))
  else if items.any fun item => (Listed.sortValue? key item).isNone then
    .error (.crashed (missingSortValue key))
  else
    .ok ((sortByTie items).mergeSort (inOrder key order))

end Listing

end TypeCatalog
