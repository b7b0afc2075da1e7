import TypeCatalog.Proofs.Number.Rounding
import TypeCatalog.Proofs.Value.UniqueKeys
import TypeCatalog.Value.Basic

namespace TypeCatalog

/-!
# What values consist of

Containers hold values that hold no others, and mappings hold keys.  A property of such values and of
keys becomes one of all values.
-/

namespace Value

section Contents

variable (sort : Value → Prop) (keySort : Key → Prop)

mutual

/-- Whether what holds no other values in a value is of one sort, and each key of another. -/
def ConsistsOf : Value → Prop
  | .pair first second => first.ConsistsOf ∧ second.ConsistsOf
  | .list items => ItemsConsistOf items
  | .map entries => EntriesConsistOf entries
  | .again container => container.ConsistsOf
  | value => sort value

/-- Whether items consist of values and keys of two sorts. -/
def ItemsConsistOf : List Value → Prop
  | [] => True
  | item :: rest => item.ConsistsOf ∧ ItemsConsistOf rest

/-- Whether entries consist of values and keys of two sorts. -/
def EntriesConsistOf : List (Key × Value) → Prop
  | [] => True
  | (key, value) :: rest => (keySort key ∧ value.ConsistsOf) ∧ EntriesConsistOf rest

end

section Decidable

variable [DecidablePred sort] [DecidablePred keySort]

mutual

/-- Whether a value consists of values and keys of two sorts can be decided if the sorts can. -/
def decideConsistsOf : (value : Value) → Decidable (value.ConsistsOf sort keySort)
  | .pair first second =>
    @instDecidableAnd _ _ (decideConsistsOf first) (decideConsistsOf second)
  | .list items => decideItemsConsistOf items
  | .map entries => decideEntriesConsistOf entries
  | .again container => decideConsistsOf container
  | .null | .bool _ | .int _ | .float _ | .text _ | .unpaired _ | .bytes _ | .timestamp _
  | .set _ => inferInstanceAs (Decidable (sort _))

/-- The same of items. -/
def decideItemsConsistOf : (items : List Value) → Decidable (ItemsConsistOf sort keySort items)
  | [] => .isTrue trivial
  | item :: rest => @instDecidableAnd _ _ (decideConsistsOf item) (decideItemsConsistOf rest)

/-- The same of entries. -/
def decideEntriesConsistOf : (entries : List (Key × Value)) →
    Decidable (EntriesConsistOf sort keySort entries)
  | [] => .isTrue trivial
  | (_, value) :: rest =>
    @instDecidableAnd _ _ (@instDecidableAnd _ _ inferInstance (decideConsistsOf value))
      (decideEntriesConsistOf rest)

end

instance : DecidablePred (ConsistsOf sort keySort) :=
  decideConsistsOf sort keySort

end Decidable

end Contents

section Lemmas

variable {sort : Value → Prop} {keySort : Key → Prop}

theorem consistsOf_list_iff
    {items : List Value} :
    (Value.list items).ConsistsOf sort keySort ↔ ∀ item ∈ items, item.ConsistsOf sort keySort := by
  rw [ConsistsOf]
  induction items with
  | nil => exact iff_of_true trivial nofun
  | cons item rest inductionHypothesis =>
      rw [ItemsConsistOf, inductionHypothesis, List.forall_mem_cons]

theorem consistsOf_map_iff
    {entries : List (Key × Value)} :
    (Value.map entries).ConsistsOf sort keySort ↔
      ∀ entry ∈ entries, keySort entry.1 ∧ entry.2.ConsistsOf sort keySort := by
  rw [ConsistsOf]
  induction entries with
  | nil => exact iff_of_true trivial nofun
  | cons entry rest inductionHypothesis =>
      rw [EntriesConsistOf, inductionHypothesis, List.forall_mem_cons]

theorem consistsOf_record_iff
    {fields : List (String × Value)} :
    (Value.record fields).ConsistsOf sort keySort ↔
      ∀ field ∈ fields, keySort (.text field.1) ∧ field.2.ConsistsOf sort keySort := by
  rw [record, consistsOf_map_iff, List.forall_mem_map]

/-- What stands under a name in a record consists of what the record consists of. -/
theorem consistsOf_of_lookup
    {fields : List (String × Value)}
    (consists : (Value.record fields).ConsistsOf sort keySort)
    (name : String)
    {value : Value}
    (found : fields.lookup name = some value) :
    value.ConsistsOf sort keySort := by
  rw [consistsOf_record_iff] at consists
  induction fields with
  | nil => cases found
  | cons field rest inductionHypothesis =>
      obtain ⟨consistsFirst, consistRest⟩ := List.forall_mem_cons.mp consists
      rw [List.lookup_cons] at found
      split at found
      · cases found
        exact consistsFirst.2
      · exact inductionHypothesis consistRest found

/-- Two sorts of values and keys that texts, truth values, whole numbers, nothing and names belong
to. -/
structure TakesPlain
    (sort : Value → Prop)
    (keySort : Key → Prop) : Prop where
  null : sort .null
  bool (truth : Bool) : sort (.bool truth)
  int (number : Int) : sort (.int number)
  text (content : String) : sort (.text content)
  name (content : String) : keySort (.text content)

namespace TakesPlain

variable (plain : TakesPlain sort keySort)

include plain

theorem consistsOf_text (content : String) : (Value.text content).ConsistsOf sort keySort :=
  plain.text content

theorem consistsOf_bool (truth : Bool) : (Value.bool truth).ConsistsOf sort keySort :=
  plain.bool truth

theorem consistsOf_int (number : Int) : (Value.int number).ConsistsOf sort keySort :=
  plain.int number

theorem consistsOf_ofNat (number : Nat) : (Value.ofNat number).ConsistsOf sort keySort :=
  plain.int number

theorem consistsOf_ofText? (content? : Option String) :
    (Value.ofText? content?).ConsistsOf sort keySort := by
  cases content? with
  | none => exact plain.null
  | some content => exact plain.text content

theorem consistsOf_ofTexts (contents : List String) :
    (Value.ofTexts contents).ConsistsOf sort keySort :=
  consistsOf_list_iff.mpr (List.forall_mem_map.mpr fun content _ => plain.text content)

/-- A record consists of two sorts if its fields do. -/
theorem consistsOf_record
    {fields : List (String × Value)}
    (consist : ∀ field ∈ fields, field.2.ConsistsOf sort keySort) :
    (Value.record fields).ConsistsOf sort keySort :=
  consistsOf_record_iff.mpr fun field member => ⟨plain.name field.1, consist field member⟩

end TakesPlain

end Lemmas

end Value

/-!
## Genuine values

A value is genuine if each number in it is an integer or a double and each text a sequence of code
points.  Mappings and lists that are put together from genuine values are genuine.
-/

/-- Whether the code points of a text that is no sequence of characters are such: all are code
points, and a half of a surrogate pair is among them. -/
def IsUnpairedText (points : List Nat) : Prop :=
  points.any Text.isHalf = true ∧ ∀ point ∈ points, point ≤ 0x10FFFF

/-- Whether a text that was written with escapes is one. -/
def Text.Written.IsGenuine : Text.Written → Prop
  | .whole _ => True
  | .unpaired points => IsUnpairedText points

/-- Whether a key is what it stands for. -/
def Key.IsGenuine : Key → Prop
  | .float number => number.IsDouble
  | .unpaired points => IsUnpairedText points
  | _ => True

namespace Value

/-- Whether a number is an integer or a double, a text is one, and the members of a set are such. -/
def IsGenuineSingle : Value → Prop
  | .float number => number.IsDouble
  | .unpaired points => IsUnpairedText points
  | .set members => ∀ member ∈ members, member.IsGenuine
  | _ => True

/-- Whether each number in a value is an integer or a double, and each text is one. -/
def IsGenuine (value : Value) : Prop :=
  value.ConsistsOf IsGenuineSingle Key.IsGenuine

/-- Whether items are genuine. -/
abbrev AreGenuine (items : List Value) : Prop :=
  ItemsConsistOf IsGenuineSingle Key.IsGenuine items

/-- Whether the keys and values of entries are genuine. -/
abbrev HoldGenuine (entries : List (Key × Value)) : Prop :=
  EntriesConsistOf IsGenuineSingle Key.IsGenuine entries

theorem takesPlain_isGenuine : TakesPlain IsGenuineSingle Key.IsGenuine :=
  ⟨trivial, fun _ => trivial, fun _ => trivial, fun _ => trivial, fun _ => trivial⟩

theorem isGenuine_list_iff
    {items : List Value} :
    (list items).IsGenuine ↔ ∀ item ∈ items, item.IsGenuine :=
  consistsOf_list_iff

theorem isGenuine_map_iff
    {entries : List (Key × Value)} :
    (map entries).IsGenuine ↔ ∀ entry ∈ entries, entry.1.IsGenuine ∧ entry.2.IsGenuine :=
  consistsOf_map_iff

/-- What stands under a name in genuine entries is genuine. -/
theorem isGenuine_of_lookup?
    {entries : List (Key × Value)}
    {name : String}
    {value : Value}
    (genuine : (map entries).IsGenuine)
    (found : lookup? entries name = some value) :
    value.IsGenuine :=
  (isGenuine_map_iff.mp genuine _ (mem_of_lookup? found)).2

theorem isGenuine_insertAll
    {entries added : List (Key × Value)}
    (genuine : (map entries).IsGenuine)
    (addedGenuine : (map added).IsGenuine) :
    (map (insertAll entries added)).IsGenuine := by
  rw [isGenuine_map_iff] at genuine addedGenuine ⊢
  intro entry member
  constructor
  · rcases key_of_mem_insertAll member with ⟨other, isThere, isSame⟩ | ⟨other, isThere, isSame⟩
    · exact isSame ▸ (addedGenuine other isThere).1
    · exact isSame ▸ (genuine other isThere).1
  · rcases value_of_mem_insertAll member with ⟨other, isThere, isSame⟩ | isThere
    · exact isSame ▸ (addedGenuine other isThere).2
    · exact (genuine entry isThere).2

theorem isGenuine_insert
    {entries : List (Key × Value)}
    {key : Key}
    {value : Value}
    (genuine : (map entries).IsGenuine)
    (keyGenuine : key.IsGenuine)
    (valueGenuine : value.IsGenuine) :
    (map (insert entries key value)).IsGenuine :=
  @isGenuine_insertAll entries [(key, value)] genuine
    (isGenuine_map_iff.mpr (List.forall_mem_singleton.mpr ⟨keyGenuine, valueGenuine⟩))

theorem isGenuine_collect
    {entries : List (Key × Value)}
    (genuine : (map entries).IsGenuine) :
    (map (collect entries)).IsGenuine :=
  isGenuine_insertAll (isGenuine_map_iff.mpr (List.forall_mem_nil _)) genuine

end Value

theorem Key.isGenuine_toValue
    {key : Key}
    (genuine : key.IsGenuine) :
    key.toValue.IsGenuine := by
  cases key <;> exact genuine

/-- The number of a character is a code point. -/
theorem Text.toNat_le_lastPoint (c : Char) : c.toNat ≤ 0x10FFFF := by
  have valid : c.toNat < 0xD800 ∨ (0xDFFF < c.toNat ∧ c.toNat < 0x110000) := c.valid
  omega

namespace Text.Written

theorem isGenuine_ofPoints
    {points : List Nat}
    (bounded : ∀ point ∈ points, point ≤ 0x10FFFF) :
    (ofPoints points).IsGenuine := by
  unfold ofPoints
  split
  · next hasHalf => exact ⟨hasHalf, bounded⟩
  · trivial

variable {written : Written} (genuine : written.IsGenuine)

include genuine

theorem IsGenuine.key : (Key.ofWritten written).IsGenuine := by
  cases written <;> exact genuine

theorem IsGenuine.value : (Value.ofWritten written).IsGenuine := by
  cases written <;> exact genuine

end Text.Written

/-! ### Deciding -/

instance : DecidablePred Key.IsGenuine
  | .float number => inferInstanceAs (Decidable number.IsDouble)
  | .unpaired _ => inferInstanceAs (Decidable (_ ∧ _))
  | .null | .bool _ | .int _ | .text _ | .bytes _ | .timestamp _ => .isTrue trivial

instance : DecidablePred Value.IsGenuineSingle
  | .float number => inferInstanceAs (Decidable number.IsDouble)
  | .unpaired _ => inferInstanceAs (Decidable (_ ∧ _))
  | .set members => inferInstanceAs (Decidable (∀ member ∈ members, member.IsGenuine))
  | .null | .bool _ | .int _ | .text _ | .bytes _ | .timestamp _ | .pair .. | .list _
  | .map _ | .again _ => .isTrue trivial

instance : DecidablePred Value.IsGenuine :=
  fun value => inferInstanceAs (Decidable (value.ConsistsOf _ _))

end TypeCatalog
