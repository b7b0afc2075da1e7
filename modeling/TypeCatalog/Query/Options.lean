import TypeCatalog.Limits
import TypeCatalog.Metadata.TypeDefinition

namespace TypeCatalog

/-!
# Query options

What a listing shows, in which order, and which part of it.
-/

/-- What a listing is sorted by. -/
inductive SortKey where
  | name
  | fullName
  | namespaceName
  | kind
  | accessibility
  | signature
  | declaration
deriving Repr, DecidableEq

namespace SortKey

/-- The word for a sort key. -/
def word : SortKey → String
  | .name => "name"
  | .fullName => "full_name"
  | .namespaceName => "namespace"
  | .kind => "kind"
  | .accessibility => "accessibility"
  | .signature => "signature"
  | .declaration => "declaration"

/-- All sort keys. -/
def all : List SortKey :=
  [.name, .fullName, .namespaceName, .kind, .accessibility, .signature, .declaration]

/-- The sort keys of listings of members. -/
def forMembers : List SortKey :=
  [.name, .kind, .accessibility, .signature, .declaration]

/-- The sort keys of listings of types. -/
def forTypes : List SortKey :=
  [.name, .fullName, .namespaceName, .kind, .accessibility, .declaration]

end SortKey

/-- The direction of sorting. -/
inductive SortOrder where
  | ascending
  | descending
deriving Repr, DecidableEq

namespace SortOrder

/-- The word for a direction. -/
def word : SortOrder → String
  | .ascending => "asc"
  | .descending => "desc"

/-- Both directions. -/
def all : List SortOrder :=
  [.ascending, .descending]

end SortOrder

/-- The options of a query.  Members and types that are not public follow the runtime default when
the query does not say; a token positions the page before `skip` does. -/
structure FilterOptions where
  includePublic : Bool
  includeNonPublic? : Option Bool
  includeStatic : Bool
  includeInstance : Bool
  includeInherited : Bool
  declaredOnly : Bool
  caseSensitive : Bool
  nameContains? : Option String
  attributeContains? : Option String
  sortBy : SortKey
  sortOrder : SortOrder
  skip? : Option Nat
  maxItems? : Option Nat
  continuationToken? : Option String
deriving Repr, DecidableEq

namespace FilterOptions

/-- The options of a query that says nothing. -/
def standard : FilterOptions :=
  ⟨true, none, true, true, false, true, true, none, none, .name, .ascending, none, none, none⟩

/-- The names of the options. -/
def fieldNames : List String :=
  ["include_public", "include_non_public", "include_static", "include_instance",
    "include_inherited", "declared_only", "case_sensitive", "name_contains",
    "has_attribute_contains", "sort_by", "sort_order", "skip", "max_items", "continuation_token"]

/-- One issue for each entry that is no option. -/
def unknownFields (entries : List (Key × Value)) : List Schema.Issue :=
  (entries.filter fun entry => !fieldNames.any fun name => entry.1 == Key.text name).map
    fun entry => ⟨[Schema.stepOfKey entry.1], "Extra inputs are not permitted", entry.2⟩

/-- Refuses entries that are no options. -/
def checkKnown (entries : List (Key × Value)) : Schema.Checked Unit :=
  match unknownFields entries with
  | [] => .ok ()
  | issues => .rejected issues

/-- Reads options from the entries of a mapping. -/
def ofEntries (entries : List (Key × Value)) : Schema.Checked FilterOptions :=
  let options :=
    FilterOptions.mk
      <$> Schema.optional entries "include_public" true Schema.truth
      <*> Schema.optional entries "include_non_public" none (Schema.nullable Schema.truth)
      <*> Schema.optional entries "include_static" true Schema.truth
      <*> Schema.optional entries "include_instance" true Schema.truth
      <*> Schema.optional entries "include_inherited" false Schema.truth
      <*> Schema.optional entries "declared_only" true Schema.truth
      <*> Schema.optional entries "case_sensitive" true Schema.truth
      <*> Schema.optional entries "name_contains" none (Schema.nullable Schema.text)
      <*> Schema.optional entries "has_attribute_contains" none (Schema.nullable Schema.text)
      <*> Schema.optional entries "sort_by" .name
        (Schema.choice (SortKey.all.map fun key => (key.word, key)))
      <*> Schema.optional entries "sort_order" .ascending
        (Schema.choice (SortOrder.all.map fun order => (order.word, order)))
      <*> Schema.optional entries "skip" none
        (Schema.nullable fun value => (Schema.wholeFrom 0 value).map Int.toNat)
      <*> Schema.optional entries "max_items" none
        (Schema.nullable fun value =>
          (Schema.wholeBetween 1 Limits.maximumPageSize value).map Int.toNat)
      <*> Schema.optional entries "continuation_token" none (Schema.nullable Schema.text)
  Schema.Checked.combine (fun checked _ => checked) options (checkKnown entries)

/-- Checks a value as options. -/
def check : Schema.Check FilterOptions :=
  Schema.recordOf "FilterOptions" ofEntries

/-- Checks a value as options; nothing stands for the options of a query that says nothing. -/
def checkOptional : Schema.Check FilterOptions
  | .null => .ok standard
  | value => check value

/-- What the query sees under a default for what is not public. -/
def visibility
    (options : FilterOptions)
    (nonPublicDefault : Bool) : Visibility :=
  ⟨options.includePublic, options.includeNonPublic?.getD nonPublicDefault, options.includeStatic,
    options.includeInstance, options.includeInherited, options.declaredOnly⟩

/-- The parts of a cache key that stand for options whose runtime defaults are resolved.  The
position of the page is no part of them. -/
def keyParts
    (options : FilterOptions)
    (nonPublic : Bool)
    (take : Nat) : List Value :=
  [.bool options.includePublic, .bool nonPublic, .bool options.includeStatic,
    .bool options.includeInstance, .bool options.includeInherited, .bool options.declaredOnly,
    .bool options.caseSensitive, .ofText? options.nameContains?,
    .ofText? options.attributeContains?, .text options.sortBy.word, .text options.sortOrder.word,
    .ofNat take]

/-- A number, if any, as a value. -/
def numberValue : Option Nat → Value
  | some number => .ofNat number
  | none => .null

/-- Options as a value. -/
def toValue (options : FilterOptions) : Value :=
  .record
    [("include_public", .bool options.includePublic),
      ("include_non_public",
        match options.includeNonPublic? with
        | some truth => .bool truth
        | none => .null),
      ("include_static", .bool options.includeStatic),
      ("include_instance", .bool options.includeInstance),
      ("include_inherited", .bool options.includeInherited),
      ("declared_only", .bool options.declaredOnly),
      ("case_sensitive", .bool options.caseSensitive),
      ("name_contains", .ofText? options.nameContains?),
      ("has_attribute_contains", .ofText? options.attributeContains?),
      ("sort_by", .text options.sortBy.word), ("sort_order", .text options.sortOrder.word),
      ("skip", numberValue options.skip?), ("max_items", numberValue options.maxItems?),
      ("continuation_token", .ofText? options.continuationToken?)]

end FilterOptions

end TypeCatalog
