import TypeCatalog.Proofs.Query.OptionEntries
import TypeCatalog.Proofs.Schema.Checked
import TypeCatalog.Proofs.Schema.NamedValues
import TypeCatalog.Settings.RuntimeOptions

namespace TypeCatalog.RuntimeOptions

/-!
# Page sizes in force

Options that passed their check have page sizes within the bounds on pages, one for each kind, so
every query that does not say how many items a page has gets at least one.  Options within the
bounds pass their check as they stand.
-/

/-- Options with one page size for each kind. -/
def OneSizeEach (options : RuntimeOptions) : Prop :=
  (options.pageSizeOverrides.map Prod.fst).Nodup

theorem oneSizeEach_standard : standard.OneSizeEach :=
  List.nodup_nil

/-- A page size within the bounds on pages. -/
def IsPageSize (size : Int) : Prop :=
  1 ≤ size ∧ size ≤ Limits.maximumPageSize

/-- Options whose page sizes are all within the bounds, one for each kind. -/
structure InBounds (options : RuntimeOptions) : Prop where
  default_bounds : IsPageSize options.defaultPageSize
  override_bounds : ∀ entry ∈ options.pageSizeOverrides, IsPageSize entry.2
  oneSizeEach : options.OneSizeEach

/-- The page size in force for a kind of queries is within the bounds. -/
theorem InBounds.isPageSize_pageSizeFor
    {options : RuntimeOptions}
    (inBounds : options.InBounds)
    (kind : String) :
    IsPageSize (options.pageSizeFor kind) := by
  unfold pageSizeFor
  cases found : options.pageSizeOverrides.find? fun entry => entry.1 == kind with
  | none =>
      exact inBounds.default_bounds
  | some entry =>
      exact inBounds.override_bounds entry (List.mem_of_find?_eq_some found)

theorem inBounds_standard : standard.InBounds :=
  ⟨⟨by decide, by decide⟩, by simp [standard], oneSizeEach_standard⟩

/-- Checks a value as the default page size. -/
def checkDefaultSize : Schema.Check Nat := fun value =>
  (Schema.wholeBetween 1 Limits.maximumPageSize value).map Int.toNat

/-- Entries that are read as options, field by field. -/
structure ReadFrom
    (options : RuntimeOptions)
    (entries : List (Key × Value)) : Prop where
  defaultPageSize :
    Schema.optional entries "default_page_size" Limits.defaultPageSize checkDefaultSize =
      .ok options.defaultPageSize
  pageSizeOverrides :
    Schema.optional entries "page_size_overrides" [] checkOverrides =
      .ok options.pageSizeOverrides
  cacheLifetime :
    Schema.optional entries "cache_ttl_seconds" Limits.defaultLifetime Schema.whole =
      .ok options.cacheLifetime
  includeNonPublic :
    Schema.optional entries "include_non_public_by_default" false Schema.truth =
      .ok options.includeNonPublic
  searchRoots :
    Schema.optional entries "search_roots" [] (Schema.sequenceOf Schema.text) =
      .ok options.searchRoots

theorem ofEntries_eq_ok_iff
    {entries : List (Key × Value)}
    {options : RuntimeOptions} :
    ofEntries entries = .ok options ↔ options.ReadFrom entries := by
  constructor
  · intro passed
    simp only [ofEntries, Schema.Checked.seq_eq_ok_iff, Schema.Checked.functor_map_eq_ok_iff]
      at passed
    obtain ⟨_, _, ⟨_, _, ⟨_, _, ⟨_, _, ⟨_, defaultPageSize, rfl⟩, pageSizeOverrides, rfl⟩,
      cacheLifetime, rfl⟩, includeNonPublic, rfl⟩, searchRoots, rfl⟩ := passed
    exact ⟨defaultPageSize, pageSizeOverrides, cacheLifetime, includeNonPublic, searchRoots⟩
  · intro read
    have defaultPageSize := read.defaultPageSize
    unfold checkDefaultSize at defaultPageSize
    simp only [ofEntries, defaultPageSize, read.pageSizeOverrides, read.cacheLifetime,
      read.includeNonPublic, read.searchRoots]
    rfl

/-! ### What passed is within the bounds -/

theorem checkDefaultSize_eq_ok_iff
    {value : Value}
    {size : Nat} :
    checkDefaultSize value = .ok size ↔
      Schema.whole value = .ok (size : Int) ∧ IsPageSize size := by
  rw [checkDefaultSize, Schema.Checked.map_eq_ok_iff]
  constructor
  · rintro ⟨number, passed, rfl⟩
    have passed := Schema.wholeBetween_eq_ok_iff.mp passed
    have isNumber : (number.toNat : Int) = number := by
      omega
    rw [isNumber]
    exact passed
  · intro passed
    exact ⟨size, Schema.wholeBetween_eq_ok_iff.mpr passed, Int.toNat_natCast size⟩

private theorem overrideFault?_eq_none_iff {overrides : List (String × Int)} :
    overrideFault? overrides = none ↔ ∀ entry ∈ overrides, IsPageSize entry.2 := by
  rw [overrideFault?, Option.map_eq_none_iff, List.find?_eq_none]
  refine forall₂_congr fun entry _ => ?_
  simp only [Bool.or_eq_true, decide_eq_true_eq, not_or, IsPageSize]
  omega

theorem checkOverrides_eq_ok_iff
    {value : Value}
    {overrides : List (String × Int)} :
    checkOverrides value = .ok overrides ↔
      Schema.mappingOf Schema.whole value = .ok overrides ∧
        ∀ entry ∈ overrides, IsPageSize entry.2 := by
  rw [checkOverrides, Schema.Checked.andThen_eq_ok_iff]
  constructor
  · rintro ⟨read, mapped, passed⟩
    cases fault : overrideFault? read with
    | some reason =>
        rw [fault] at passed
        cases passed
    | none =>
        rw [fault] at passed
        cases passed
        exact ⟨mapped, overrideFault?_eq_none_iff.mp fault⟩
  · rintro ⟨mapped, inBounds⟩
    refine ⟨overrides, mapped, ?_⟩
    rw [overrideFault?_eq_none_iff.mpr inBounds]

/-- Options that passed their check are within the bounds. -/
theorem inBounds_of_ofEntries
    {entries : List (Key × Value)}
    {options : RuntimeOptions}
    (passed : ofEntries entries = .ok options) :
    options.InBounds := by
  have read := ofEntries_eq_ok_iff.mp passed
  have sizesRead := Schema.eq_or_checked_of_optional read.pageSizeOverrides
  constructor
  · rcases Schema.eq_or_checked_of_optional read.defaultPageSize with isDefault | ⟨_, checked⟩
    · rw [isDefault]
      exact inBounds_standard.default_bounds
    · exact (checkDefaultSize_eq_ok_iff.mp checked).2
  · rcases sizesRead with isDefault | ⟨_, checked⟩
    · simp [isDefault]
    · exact (checkOverrides_eq_ok_iff.mp checked).2
  · rcases sizesRead with isDefault | ⟨_, checked⟩
    · rw [OneSizeEach, isDefault]
      exact List.nodup_nil
    · exact Schema.nodup_of_mappingOf (checkOverrides_eq_ok_iff.mp checked).1

/-- A change of options leaves them as they are or gives options within the bounds. -/
theorem eq_or_inBounds_of_update
    {options changed : RuntimeOptions}
    {changes : List (Key × Value)}
    (updated : options.update changes = .ok changed) :
    changed = options ∨ changed.InBounds := by
  unfold update at updated
  split at updated
  · cases updated
    exact .inl rfl
  · exact .inr (inBounds_of_ofEntries updated)

/-- Changed options are within the bounds. -/
theorem InBounds.update
    {options changed : RuntimeOptions}
    {changes : List (Key × Value)}
    (inBounds : options.InBounds)
    (updated : options.update changes = .ok changed) :
    changed.InBounds := by
  rcases eq_or_inBounds_of_update updated with rfl | changedInBounds
  · exact inBounds
  · exact changedInBounds

/-- Changed options have one page size for each kind. -/
theorem OneSizeEach.update
    {options changed : RuntimeOptions}
    {changes : List (Key × Value)}
    (oneSizeEach : options.OneSizeEach)
    (updated : options.update changes = .ok changed) :
    changed.OneSizeEach := by
  rcases eq_or_inBounds_of_update updated with rfl | inBounds
  · exact oneSizeEach
  · exact inBounds.oneSizeEach

/-! ### Pages that get at least one item -/

/-- Options whose page sizes are in range. -/
structure Valid (options : RuntimeOptions) : Prop where
  default_pos : 1 ≤ options.defaultPageSize
  override_pos : ∀ entry ∈ options.pageSizeOverrides, 1 ≤ entry.2

theorem valid_standard : standard.Valid :=
  ⟨by decide, by simp [standard]⟩

theorem InBounds.valid
    {options : RuntimeOptions}
    (inBounds : options.InBounds) :
    options.Valid where
  default_pos := Int.ofNat_le.mp inBounds.default_bounds.1
  override_pos := fun entry member => (inBounds.override_bounds entry member).1

/-- Changed options are valid. -/
theorem valid_update
    {options changed : RuntimeOptions}
    {changes : List (Key × Value)}
    (valid : options.Valid)
    (updated : options.update changes = .ok changed) :
    changed.Valid := by
  rcases eq_or_inBounds_of_update updated with rfl | inBounds
  · exact valid
  · exact inBounds.valid

/-- A query that does not say a page size gets at least one item. -/
theorem Valid.pageSizeFor_pos
    {options : RuntimeOptions}
    (valid : options.Valid)
    (kind : String) :
    1 ≤ options.pageSizeFor kind := by
  unfold pageSizeFor
  cases found : options.pageSizeOverrides.find? fun entry => entry.1 == kind with
  | none =>
      exact Int.ofNat_le.mpr valid.default_pos
  | some entry =>
      exact valid.override_pos entry (List.mem_of_find?_eq_some found)

/-! ### What is within the bounds passes -/

/-- Page sizes under the names of their kinds. -/
def sizeValues (sizes : List (String × Int)) : List (String × Value) :=
  sizes.map fun entry => (entry.1, .int entry.2)

theorem sizeValues_passes (sizes : List (String × Int)) :
    List.Forall₂ (Schema.PassesAs Schema.whole) (sizeValues sizes) sizes := by
  induction sizes with
  | nil =>
      exact .nil
  | cons entry rest inductionHypothesis =>
      exact .cons ⟨rfl, rfl⟩ inductionHypothesis

theorem lookup_sizeValues
    (sizes : List (String × Int))
    (kind : String) :
    (sizeValues sizes).lookup kind = (sizes.lookup kind).map .int := by
  induction sizes with
  | nil =>
      rfl
  | cons entry rest inductionHypothesis =>
      rw [sizeValues, List.map_cons, List.lookup_cons, List.lookup_cons]
      cases kind == entry.1 with
      | true =>
          rfl
      | false =>
          exact inductionHypothesis

/-- Options within the bounds are read from their own fields. -/
theorem ofEntries_storedEntries
    {options : RuntimeOptions}
    (inBounds : options.InBounds) :
    ofEntries options.storedEntries = .ok options := by
  have distinct : ((sizeValues options.pageSizeOverrides).map Prod.fst).Nodup := by
    rw [Schema.map_fst_of_passesAs (sizeValues_passes _)]
    exact inBounds.oneSizeEach
  have sizesPass :
      checkOverrides (.record (sizeValues options.pageSizeOverrides)) =
        .ok options.pageSizeOverrides :=
    checkOverrides_eq_ok_iff.mpr
      ⟨(Schema.mappingOf_record_eq_ok_iff distinct).mpr (sizeValues_passes _),
        inBounds.override_bounds⟩
  apply ofEntries_eq_ok_iff.mpr
  constructor <;> rw [Schema.optional_eq_ok_iff]
  · exact checkDefaultSize_eq_ok_iff.mpr ⟨rfl, inBounds.default_bounds⟩
  · exact sizesPass
  · rfl
  · rfl
  · exact Schema.sequenceOf_text_ofTexts options.searchRoots

end TypeCatalog.RuntimeOptions
