import TypeCatalog.Proofs.Json.Record
import TypeCatalog.Proofs.Schema.Checked
import TypeCatalog.Proofs.Value.Entries
import TypeCatalog.Query.Options

namespace TypeCatalog

/-!
# One option more

The options of a query with one entry set anew are the options of before with that option changed.
-/

/-- The options of a query with one entry set; what has no entries counts as having none. -/
def Value.withOption
    (name : String)
    (value : Value) : Value → Value
  | .map entries | .again (.map entries) => .map (insert entries (.text name) value)
  | _ => .map [(.text name, value)]

private theorem Schema.optional_insert_of_ne
    {α : Type}
    {name other : String}
    (entries : List (Key × Value))
    (value : Value)
    (otherwise : α)
    (check : Schema.Check α)
    (different : other ≠ name) :
    optional (Value.insert entries (.text name) value) other otherwise check =
      optional entries other otherwise check := by
  rw [optional, optional, Value.lookup?_insert_of_ne entries value different]

private theorem Schema.optional_insert_self
    {α : Type}
    (entries : List (Key × Value))
    (name : String)
    (value : Value)
    (otherwise : α)
    (check : Schema.Check α) :
    optional (Value.insert entries (.text name) value) name otherwise check =
      (check value).under (.field name) := by
  rw [optional, Value.lookup?_insert_self]

namespace FilterOptions

/-- Entries that are read as options but for the position of the page: each field is that of its
entry, and no entry is none. -/
structure FiltersReadFrom
    (options : FilterOptions)
    (entries : List (Key × Value)) : Prop where
  includePublic :
    Schema.optional entries "include_public" true Schema.truth = .ok options.includePublic
  includeNonPublic :
    Schema.optional entries "include_non_public" none (Schema.nullable Schema.truth) =
      .ok options.includeNonPublic?
  includeStatic :
    Schema.optional entries "include_static" true Schema.truth = .ok options.includeStatic
  includeInstance :
    Schema.optional entries "include_instance" true Schema.truth = .ok options.includeInstance
  includeInherited :
    Schema.optional entries "include_inherited" false Schema.truth =
      .ok options.includeInherited
  declaredOnly :
    Schema.optional entries "declared_only" true Schema.truth = .ok options.declaredOnly
  caseSensitive :
    Schema.optional entries "case_sensitive" true Schema.truth = .ok options.caseSensitive
  nameContains :
    Schema.optional entries "name_contains" none (Schema.nullable Schema.text) =
      .ok options.nameContains?
  attributeContains :
    Schema.optional entries "has_attribute_contains" none (Schema.nullable Schema.text) =
      .ok options.attributeContains?
  sortBy :
    Schema.optional entries "sort_by" .name
        (Schema.choice (SortKey.all.map fun key => (key.word, key))) =
      .ok options.sortBy
  sortOrder :
    Schema.optional entries "sort_order" .ascending
        (Schema.choice (SortOrder.all.map fun order => (order.word, order))) =
      .ok options.sortOrder
  maxItems :
    Schema.optional entries "max_items" none
        (Schema.nullable fun value =>
          (Schema.wholeBetween 1 Limits.maximumPageSize value).map Int.toNat) =
      .ok options.maxItems?
  known : checkKnown entries = .ok ()

/-- Entries that are read as options. -/
structure ReadFrom
    (options : FilterOptions)
    (entries : List (Key × Value)) : Prop where
  filters : options.FiltersReadFrom entries
  skip :
    Schema.optional entries "skip" none
        (Schema.nullable fun value => (Schema.wholeFrom 0 value).map Int.toNat) =
      .ok options.skip?
  continuationToken :
    Schema.optional entries "continuation_token" none (Schema.nullable Schema.text) =
      .ok options.continuationToken?

/-- Checking entries gives the options that are read from them. -/
theorem ofEntries_eq_ok_iff
    {entries : List (Key × Value)}
    {options : FilterOptions} :
    ofEntries entries = .ok options ↔ options.ReadFrom entries := by
  constructor
  · intro passed
    simp only [ofEntries, Schema.Checked.combine_eq_ok_iff, Schema.Checked.seq_eq_ok_iff,
      Schema.Checked.functor_map_eq_ok_iff] at passed
    obtain ⟨_, _, ⟨_, _, ⟨_, _, ⟨_, _, ⟨_, _, ⟨_, _, ⟨_, _, ⟨_, _, ⟨_, _, ⟨_, _, ⟨_, _, ⟨_,
      _, ⟨_, _, ⟨_, _, ⟨_, includePublic, rfl⟩, includeNonPublic, rfl⟩, includeStatic, rfl⟩,
      includeInstance, rfl⟩, includeInherited, rfl⟩, declaredOnly, rfl⟩, caseSensitive, rfl⟩,
      nameContains, rfl⟩, attributeContains, rfl⟩, sortBy, rfl⟩, sortOrder, rfl⟩, skip, rfl⟩,
      maxItems, rfl⟩, continuationToken, rfl⟩, known, rfl⟩ := passed
    exact ⟨⟨includePublic, includeNonPublic, includeStatic, includeInstance, includeInherited,
      declaredOnly, caseSensitive, nameContains, attributeContains, sortBy, sortOrder, maxItems,
      known⟩, skip, continuationToken⟩
  · intro read
    have filters := read.filters
    simp only [ofEntries, filters.includePublic, filters.includeNonPublic,
      filters.includeStatic, filters.includeInstance, filters.includeInherited,
      filters.declaredOnly, filters.caseSensitive, filters.nameContains,
      filters.attributeContains, filters.sortBy, filters.sortOrder, read.skip,
      filters.maxItems, read.continuationToken, filters.known]
    rfl

private theorem checkKnown_eq_ok_iff (entries : List (Key × Value)) :
    checkKnown entries = .ok () ↔
      ∀ entry ∈ entries, (fieldNames.any fun name => entry.1 == Key.text name) = true := by
  have noneUnknown :
      unknownFields entries = [] ↔
        ∀ entry ∈ entries, (fieldNames.any fun name => entry.1 == Key.text name) = true := by
    rw [unknownFields, List.map_eq_nil_iff, List.filter_eq_nil_iff]
    simp
  rw [← noneUnknown, checkKnown]
  split <;> simp_all

private theorem checkKnown_insert
    {entries : List (Key × Value)}
    {name : String}
    (known : checkKnown entries = .ok ())
    (isOption : name ∈ fieldNames)
    (value : Value) :
    checkKnown (Value.insert entries (.text name) value) = .ok () := by
  rw [checkKnown_eq_ok_iff] at known ⊢
  intro entry member
  rcases Value.key_of_mem_insert member with isName | ⟨before, wasThere, sameKey⟩
  · exact List.any_eq_true.mpr ⟨name, isOption, by rw [isName]; exact beq_self_eq_true _⟩
  · rw [← sameKey]
    exact known before wasThere

private theorem FiltersReadFrom.insert_position
    {entries : List (Key × Value)}
    {options : FilterOptions}
    {name : String}
    (read : options.FiltersReadFrom entries)
    (isPosition : name = "skip" ∨ name = "continuation_token")
    (value : Value)
    (skip? : Option Nat)
    (token? : Option String) :
    FilterOptions.FiltersReadFrom
      { options with skip? := skip?, continuationToken? := token? }
      (Value.insert entries (.text name) value) := by
  have isOption : name ∈ fieldNames := by
    rcases isPosition with rfl | rfl <;> decide
  have notFilter {other : String} (otherIs : other ≠ "skip" ∧ other ≠ "continuation_token") :
      other ≠ name := by
    rcases isPosition with rfl | rfl
    · exact otherIs.1
    · exact otherIs.2
  constructor
  case known =>
    exact checkKnown_insert read.known isOption value
  all_goals
    rw [Schema.optional_insert_of_ne _ _ _ _ (notFilter (by decide))]
  · exact read.includePublic
  · exact read.includeNonPublic
  · exact read.includeStatic
  · exact read.includeInstance
  · exact read.includeInherited
  · exact read.declaredOnly
  · exact read.caseSensitive
  · exact read.nameContains
  · exact read.attributeContains
  · exact read.sortBy
  · exact read.sortOrder
  · exact read.maxItems

theorem ReadFrom.insert_token
    {entries : List (Key × Value)}
    {options : FilterOptions}
    (read : options.ReadFrom entries)
    (token : String) :
    FilterOptions.ReadFrom { options with continuationToken? := some token }
      (Value.insert entries (.text "continuation_token") (.text token)) := by
  refine ⟨read.filters.insert_position (.inr rfl) _ _ _, ?_, ?_⟩
  · rw [Schema.optional_insert_of_ne _ _ _ _ (by decide)]
    exact read.skip
  · rw [Schema.optional_insert_self]
    rfl

theorem ReadFrom.insert_skip
    {entries : List (Key × Value)}
    {options : FilterOptions}
    (read : options.ReadFrom entries)
    (skip : Nat) :
    FilterOptions.ReadFrom { options with skip? := some skip }
      (Value.insert entries (.text "skip") (.ofNat skip)) := by
  refine ⟨read.filters.insert_position (.inl rfl) _ _ _, ?_, ?_⟩
  · have notNegative : ¬ (skip : Int) < 0 := Int.not_lt.mpr (Int.natCast_nonneg skip)
    rw [Schema.optional_insert_self]
    simp [Value.ofNat, Schema.nullable, Schema.wholeFrom, Schema.whole, Schema.Checked.andThen,
      Schema.Checked.map, Schema.Checked.under, notNegative]
  · rw [Schema.optional_insert_of_ne _ _ _ _ (by decide)]
    exact read.continuationToken

theorem ReadFrom.insert_maxItems
    {entries : List (Key × Value)}
    {options : FilterOptions}
    {size : Nat}
    (read : options.ReadFrom entries)
    (inRange : 1 ≤ size ∧ size ≤ Limits.maximumPageSize) :
    FilterOptions.ReadFrom { options with maxItems? := some size }
      (Value.insert entries (.text "max_items") (.ofNat size)) := by
  have filters := read.filters
  refine ⟨⟨?_, ?_, ?_, ?_, ?_, ?_, ?_, ?_, ?_, ?_, ?_, ?_, ?_⟩, ?_, ?_⟩
  case refine_12 =>
    have passes :
        Schema.wholeBetween 1 Limits.maximumPageSize (.ofNat size) = .ok (size : Int) :=
      Schema.wholeBetween_eq_ok_iff.mpr ⟨rfl, by omega, by omega⟩
    rw [Schema.optional_insert_self]
    simp only [Value.ofNat] at passes ⊢
    simp [Schema.nullable, passes, Schema.Checked.map, Schema.Checked.under]
  case refine_13 =>
    exact checkKnown_insert filters.known (by decide) _
  all_goals
    rw [Schema.optional_insert_of_ne _ _ _ _ (by decide)]
  · exact filters.includePublic
  · exact filters.includeNonPublic
  · exact filters.includeStatic
  · exact filters.includeInstance
  · exact filters.includeInherited
  · exact filters.declaredOnly
  · exact filters.caseSensitive
  · exact filters.nameContains
  · exact filters.attributeContains
  · exact filters.sortBy
  · exact filters.sortOrder
  · exact read.skip
  · exact read.continuationToken

private theorem exists_readFrom_of_checkOptional
    {given : Value}
    {options : FilterOptions}
    (passed : checkOptional given = .ok options) :
    ∃ entries, options.ReadFrom entries ∧
      ∀ name value,
        Value.withOption name value given = .map (Value.insert entries (.text name) value) := by
  unfold checkOptional at passed
  split at passed
  · cases passed
    exact ⟨[], ofEntries_eq_ok_iff.mp rfl, fun _ _ => rfl⟩
  · obtain ⟨entries, rfl | rfl, read⟩ := Schema.recordOf_eq_ok_iff.mp passed
    · exact ⟨entries, ofEntries_eq_ok_iff.mp read, fun _ _ => rfl⟩
    · exact ⟨entries, ofEntries_eq_ok_iff.mp read, fun _ _ => rfl⟩

/-- Options with a token added are the options with that token. -/
theorem checkOptional_withOption_token
    {given : Value}
    {options : FilterOptions}
    (passed : checkOptional given = .ok options)
    (token : String) :
    checkOptional (.withOption "continuation_token" (.text token) given) =
      .ok { options with continuationToken? := some token } := by
  obtain ⟨entries, read, setIs⟩ := exists_readFrom_of_checkOptional passed
  rw [setIs]
  exact ofEntries_eq_ok_iff.mpr (read.insert_token token)

theorem checkOptional_withOption_skip
    {given : Value}
    {options : FilterOptions}
    (passed : checkOptional given = .ok options)
    (skip : Nat) :
    checkOptional (.withOption "skip" (.ofNat skip) given) =
      .ok { options with skip? := some skip } := by
  obtain ⟨entries, read, setIs⟩ := exists_readFrom_of_checkOptional passed
  rw [setIs]
  exact ofEntries_eq_ok_iff.mpr (read.insert_skip skip)

theorem checkOptional_withOption_maxItems
    {given : Value}
    {options : FilterOptions}
    {size : Nat}
    (passed : checkOptional given = .ok options)
    (inRange : 1 ≤ size ∧ size ≤ Limits.maximumPageSize) :
    checkOptional (.withOption "max_items" (.ofNat size) given) =
      .ok { options with maxItems? := some size } := by
  obtain ⟨entries, read, setIs⟩ := exists_readFrom_of_checkOptional passed
  rw [setIs]
  exact ofEntries_eq_ok_iff.mpr (read.insert_maxItems inRange)

/-- A page that a query says the size of keeps to the bounds on pages. -/
theorem maxItems_bounds_of_checkOptional
    {given : Value}
    {options : FilterOptions}
    {maxItems : Nat}
    (passed : checkOptional given = .ok options)
    (stated : options.maxItems? = some maxItems) :
    1 ≤ maxItems ∧ maxItems ≤ Limits.maximumPageSize := by
  obtain ⟨entries, read, _⟩ := exists_readFrom_of_checkOptional passed
  have checked := read.filters.maxItems
  rw [stated] at checked
  rcases Schema.eq_or_checked_of_optional checked with isDefault | ⟨value, passed⟩
  · cases isDefault
  · unfold Schema.nullable at passed
    split at passed
    · cases passed
    · obtain ⟨read, inRange, isSome⟩ := Schema.Checked.map_eq_ok_iff.mp passed
      obtain ⟨number, bounded, rfl⟩ := Schema.Checked.map_eq_ok_iff.mp inRange
      cases isSome
      have bounds := Schema.bounds_of_wholeBetween bounded
      omega

end FilterOptions

end TypeCatalog
