import TypeCatalog.Proofs.Query.StableSorting
import TypeCatalog.Proofs.Text.LetterCase

namespace TypeCatalog

/-!
# Filtering

A filter keeps the descriptors with a name, or an attribute, in which its text occurs, and changes
nothing else: neither the order, nor what another filter or sorting makes of what is kept.  A text
that occurs in another still occurs in it when both are folded, so disregarding case never keeps
less.
-/

namespace Text

theorem occursIn_iff (part whole : List Char) :
    occursIn part whole = true ↔ part <:+: whole := by
  induction whole with
  | nil =>
      rw [occursIn, List.isEmpty_iff, List.infix_nil]
  | cons c rest inductionHypothesis =>
      rw [occursIn, Bool.or_eq_true, List.isPrefixOf_iff_prefix, inductionHypothesis,
        List.infix_cons_iff]

/-- Folding may change the length of a text, but what stands next to one another stays so. -/
theorem foldCharacters_infix
    {part whole : List Char}
    (occurs : part <:+: whole) :
    foldCharacters part <:+: foldCharacters whole := by
  obtain ⟨before, after, rfl⟩ := occurs
  rw [foldCharacters_append, foldCharacters_append]
  exact List.infix_append _ _ _

/-- Whether a text occurs in another, as they are or in their folded forms. -/
def OccursFolded
    (caseSensitive : Bool)
    (part whole : String) : Prop :=
  (foldFor caseSensitive part).toList <:+: (foldFor caseSensitive whole).toList

instance
    (caseSensitive : Bool)
    (part whole : String) :
    Decidable (OccursFolded caseSensitive part whole) :=
  inferInstanceAs (Decidable (_ <:+: _))

theorem OccursFolded.withoutCase
    {part whole : String}
    (occurs : OccursFolded true part whole) :
    OccursFolded false part whole := by
  simpa [OccursFolded, foldFor, caseFold] using foldCharacters_infix occurs

end Text

namespace Listing

/-- Whether one of some texts has what a filter asks for.  A filter that is absent or empty asks for
nothing. -/
def Passes
    (filter? : Option String)
    (caseSensitive : Bool)
    (texts : List String) : Prop :=
  ∀ part ∈ filter?, part ≠ "" → ∃ whole ∈ texts, Text.OccursFolded caseSensitive part whole

instance
    (filter? : Option String)
    (caseSensitive : Bool)
    (texts : List String) :
    Decidable (Passes filter? caseSensitive texts) :=
  inferInstanceAs (Decidable (∀ part ∈ filter?, _))

/-- What passes with regard to case passes without. -/
theorem Passes.withoutCase
    {filter? : Option String}
    {texts : List String}
    (passes : Passes filter? true texts) :
    Passes filter? false texts := by
  intro part asked notEmpty
  obtain ⟨whole, member, occurs⟩ := passes part asked notEmpty
  exact ⟨whole, member, occurs.withoutCase⟩

theorem matchesText_iff
    (caseSensitive : Bool)
    (whole part : String) :
    matchesText caseSensitive whole part = true ↔
      Text.OccursFolded caseSensitive part whole :=
  Text.occursIn_iff _ _

theorem passes_iff
    (filter? : Option String)
    (caseSensitive : Bool)
    (texts : List String) :
    Passes filter? caseSensitive texts ↔
      (filterText filter?).isEmpty = true ∨
        ∃ whole ∈ texts, matchesText caseSensitive whole (filterText filter?) = true := by
  simp only [matchesText_iff, String.isEmpty_iff]
  cases filter? with
  | none =>
      simp [Passes, filterText]
  | some part =>
      simp only [Passes, Option.mem_def, Option.some.injEq, forall_eq', filterText, Option.getD_some]
      exact Decidable.imp_iff_not_or.trans (by rw [not_not])

section Filters

variable {α : Type} [Listed α] (nameContains? attributeContains? : Option String)

/-- The names in which the attribute filter looks. -/
def attributeNames (item : α) : List String :=
  (Listed.attributes item).map AttributeDescriptor.typeName

/-- Whether a descriptor has what both filters ask for. -/
def PassesBoth
    (caseSensitive : Bool)
    (item : α) : Prop :=
  Passes nameContains? caseSensitive [Listed.nameKey item] ∧
    Passes attributeContains? caseSensitive (attributeNames item)

instance
    (caseSensitive : Bool)
    (item : α) :
    Decidable (PassesBoth nameContains? attributeContains? caseSensitive item) :=
  inferInstanceAs (Decidable (_ ∧ _))

theorem matchesName_iff
    (filter? : Option String)
    (caseSensitive : Bool)
    (item : α) :
    matchesName filter? caseSensitive item = true ↔
      Passes filter? caseSensitive [Listed.nameKey item] := by
  simp [passes_iff, matchesName]

theorem matchesAttribute_iff
    (filter? : Option String)
    (caseSensitive : Bool)
    (item : α) :
    matchesAttribute filter? caseSensitive item = true ↔
      Passes filter? caseSensitive (attributeNames item) := by
  simp [passes_iff, matchesAttribute, attributeNames]

theorem filterItems_eq_filter
    (caseSensitive : Bool)
    (items : List α) :
    filterItems nameContains? attributeContains? caseSensitive items =
      items.filter fun item => PassesBoth nameContains? attributeContains? caseSensitive item := by
  rw [filterItems, List.filter_filter]
  refine List.filter_congr fun item _ => ?_
  rw [Bool.eq_iff_iff, Bool.and_eq_true, matchesName_iff, matchesAttribute_iff, decide_eq_true_iff,
    and_comm, PassesBoth]

theorem filterItems_noName
    (caseSensitive : Bool)
    (items : List α) :
    filterItems none attributeContains? caseSensitive items =
      items.filter (matchesAttribute attributeContains? caseSensitive) := by
  have everyName : items.filter (matchesName none caseSensitive) = items :=
    List.filter_eq_self.mpr fun _ _ => rfl
  rw [filterItems, everyName]

theorem filterItems_noAttribute
    (caseSensitive : Bool)
    (items : List α) :
    filterItems nameContains? none caseSensitive items =
      items.filter (matchesName nameContains? caseSensitive) :=
  List.filter_eq_self.mpr fun _ _ => rfl

theorem filterItems_withoutCase_sublist (items : List α) :
    (filterItems nameContains? attributeContains? true items).Sublist
      (filterItems nameContains? attributeContains? false items) := by
  rw [filterItems_eq_filter, filterItems_eq_filter]
  refine List.monotone_filter_right items fun item passesBoth => ?_
  rw [decide_eq_true_iff] at passesBoth ⊢
  exact ⟨passesBoth.1.withoutCase, passesBoth.2.withoutCase⟩

/-- What is kept of a sorted list is what is kept, sorted. -/
theorem sortItems_filterItems
    {key : SortKey}
    {order : SortOrder}
    {supported : List SortKey}
    {items sorted : List α}
    (caseSensitive : Bool)
    (isSorted : sortItems key order supported items = .ok sorted) :
    sortItems key order supported
        (filterItems nameContains? attributeContains? caseSensitive items) =
      .ok (filterItems nameContains? attributeContains? caseSensitive sorted) := by
  rw [filterItems_eq_filter, filterItems_eq_filter]
  exact sortItems_filter isSorted _

/-- The filters of a listing with some sort keys select descriptors and do nothing else. -/
structure FiltersSelect
    (keys : List SortKey)
    (caseSensitive : Bool)
    (items : List α) : Prop where
  selects :
    filterItems nameContains? attributeContains? caseSensitive items =
      items.filter fun item => PassesBoth nameContains? attributeContains? caseSensitive item
  name_then_attribute :
    filterItems none attributeContains? caseSensitive
        (filterItems nameContains? none caseSensitive items) =
      filterItems nameContains? attributeContains? caseSensitive items
  attribute_then_name :
    filterItems nameContains? none caseSensitive
        (filterItems none attributeContains? caseSensitive items) =
      filterItems nameContains? attributeContains? caseSensitive items
  before_sorting (key : SortKey) (order : SortOrder) :
    sortItems key order keys
        (filterItems nameContains? attributeContains? caseSensitive items) =
      (sortItems key order keys items).map
        (filterItems nameContains? attributeContains? caseSensitive)
  before_sorting_by_any_keys
    (key : SortKey)
    (order : SortOrder)
    (supported : List SortKey)
    (sorted : List α)
    (isSorted : sortItems key order supported items = .ok sorted) :
    sortItems key order supported
        (filterItems nameContains? attributeContains? caseSensitive items) =
      .ok (filterItems nameContains? attributeContains? caseSensitive sorted)

theorem filtersSelect
    {keys : List SortKey}
    (keyed : ∀ key ∈ keys, Keyed α key)
    (caseSensitive : Bool)
    (items : List α) :
    FiltersSelect nameContains? attributeContains? keys caseSensitive items where
  selects := filterItems_eq_filter _ _ _ _
  name_then_attribute := by
    rw [filterItems_noAttribute, filterItems_noName, filterItems]
  attribute_then_name := by
    rw [filterItems_noAttribute, filterItems_noName, filterItems, List.filter_comm]
  before_sorting key order := by
    by_cases isSupported : key ∈ keys
    · obtain ⟨sorted, isSorted, _⟩ :=
        exists_sorts_of_keyed (keyed key isSupported) isSupported order items
      rw [isSorted, sortItems_filterItems _ _ _ isSorted, Except.map]
    · have notContained : (!keys.contains key) = true := by
        simpa using isSupported
      rw [sortItems, sortItems, if_pos notContained, if_pos notContained, Except.map]
  before_sorting_by_any_keys _ _ _ _ isSorted := sortItems_filterItems _ _ _ isSorted

end Filters

/-- For all members and types, all filters and both ways to regard case: filtering keeps exactly what
has what both filters ask for, in the order it had; one filter after the other, in either order,
keeps the same, and so does filtering after sorting in place of before; and what is kept with
regard to case is kept without. -/
theorem filterItems_selects
    (nameContains? attributeContains? : Option String) :
    (∀ members : List MemberDescriptor,
      (∀ caseSensitive,
        FiltersSelect nameContains? attributeContains? SortKey.forMembers caseSensitive members) ∧
      (filterItems nameContains? attributeContains? true members).Sublist
        (filterItems nameContains? attributeContains? false members)) ∧
    ∀ types : List TypeDescriptor,
      (∀ caseSensitive,
        FiltersSelect nameContains? attributeContains? SortKey.forTypes caseSensitive types) ∧
      (filterItems nameContains? attributeContains? true types).Sublist
        (filterItems nameContains? attributeContains? false types) :=
  ⟨fun members =>
      ⟨fun caseSensitive =>
          filtersSelect _ _ (fun _ isSupported => keyed_member isSupported) caseSensitive members,
        filterItems_withoutCase_sublist _ _ members⟩,
    fun types =>
      ⟨fun caseSensitive =>
          filtersSelect _ _ (fun _ isSupported => keyed_type isSupported) caseSensitive types,
        filterItems_withoutCase_sublist _ _ types⟩⟩

/-- The folded form of a name may be longer than the name. -/
example :
    matchesText false "Straße" "STRASSE" = true ∧ matchesText true "Straße" "STRASSE" = false := by
  decide

end Listing

end TypeCatalog
