import TypeCatalog.Limits
import TypeCatalog.Report.Error
import TypeCatalog.Schema.Scalar
import TypeCatalog.Text.Order

namespace TypeCatalog

/-!
# Runtime options

The defaults that queries fall back on.  They can be changed while the program runs; a change is
checked as a whole and takes effect as a whole.
-/

/-- The options in force. -/
structure RuntimeOptions where
  defaultPageSize : Nat
  pageSizeOverrides : List (String × Int)
  cacheLifetime : Int
  includeNonPublic : Bool
  searchRoots : List String
deriving Repr, DecidableEq

namespace RuntimeOptions

/-- The options when nothing is configured. -/
def standard : RuntimeOptions :=
  ⟨Limits.defaultPageSize, [], Limits.defaultLifetime, false, []⟩

/-- The first page size of a list that is out of range. -/
def overrideFault? (overrides : List (String × Int)) : Option String :=
  (overrides.find? fun entry =>
      entry.2 < 1 || entry.2 > (Limits.maximumPageSize : Int)).map fun entry =>
    "Page size for '" ++ entry.1 ++ "' must be 1-" ++ Text.decimal Limits.maximumPageSize ++
      ", got " ++ Text.signedDecimal entry.2

/-- Checks a value as page sizes for kinds of queries. -/
def checkOverrides : Schema.Check (List (String × Int)) := fun value =>
  (Schema.mappingOf Schema.whole value).andThen fun overrides =>
    match overrideFault? overrides with
    | some reason => .rejectRule reason value
    | none => .ok overrides

/-- Reads options from the entries of a mapping. -/
def ofEntries (entries : List (Key × Value)) : Schema.Checked RuntimeOptions :=
  RuntimeOptions.mk
    <$> Schema.optional entries "default_page_size" Limits.defaultPageSize
      (fun value => (Schema.wholeBetween 1 Limits.maximumPageSize value).map Int.toNat)
    <*> Schema.optional entries "page_size_overrides" [] checkOverrides
    <*> Schema.optional entries "cache_ttl_seconds" Limits.defaultLifetime Schema.whole
    <*> Schema.optional entries "include_non_public_by_default" false Schema.truth
    <*> Schema.optional entries "search_roots" [] (Schema.sequenceOf Schema.text)

/-- Checks a value as options. -/
def check : Schema.Check RuntimeOptions :=
  Schema.recordOf "RuntimeOptions" ofEntries

/-- The page size for a kind of query that does not say one. -/
def pageSizeFor
    (options : RuntimeOptions)
    (kind : String) : Int :=
  ((options.pageSizeOverrides.find? fun entry => entry.1 == kind).map Prod.snd).getD
    options.defaultPageSize

/-- The lifetime of cached answers, never below the least one. -/
def effectiveLifetime (options : RuntimeOptions) : Int :=
  max Limits.leastLifetime options.cacheLifetime

/-- Page sizes in the order of the kinds. -/
def sortedOverrides (options : RuntimeOptions) : List (String × Int) :=
  options.pageSizeOverrides.mergeSort fun first second => Text.atMost first.1 second.1

/-- The fields of the options, page sizes in the order in which they were set. -/
def storedEntries (options : RuntimeOptions) : List (Key × Value) :=
  [(.text "default_page_size", .ofNat options.defaultPageSize),
    (.text "page_size_overrides",
      .record (options.pageSizeOverrides.map fun entry => (entry.1, .int entry.2))),
    (.text "cache_ttl_seconds", .int options.cacheLifetime),
    (.text "include_non_public_by_default", .bool options.includeNonPublic),
    (.text "search_roots", .ofTexts options.searchRoots)]

/-- Options as a value. -/
def toValue (options : RuntimeOptions) : Value :=
  .record
    [("default_page_size", .ofNat options.defaultPageSize),
      ("page_size_overrides",
        .record (options.sortedOverrides.map fun entry => (entry.1, .int entry.2))),
      ("cache_ttl_seconds", .int options.cacheLifetime),
      ("include_non_public_by_default", .bool options.includeNonPublic),
      ("search_roots", .ofTexts options.searchRoots)]

/-- Applies changes to options.  Without changes the options stay as they are, unchecked. -/
def update
    (options : RuntimeOptions)
    (changes : List (Key × Value)) : Schema.Checked RuntimeOptions :=
  if changes.isEmpty then
    .ok options
  else
    ofEntries (Value.insertAll options.storedEntries changes)

end RuntimeOptions

end TypeCatalog
