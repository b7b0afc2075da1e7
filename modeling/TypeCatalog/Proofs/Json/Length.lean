import TypeCatalog.Json.Printer
import TypeCatalog.Proofs.Json.Record
import TypeCatalog.Proofs.Value.Entries

namespace TypeCatalog.Json

/-!
# Lengths of JSON texts

Settled values, indented texts and compact texts compared by their lengths.
-/

/-!
## Settled values are not longer

Reading back the text of a value gives a value whose own text is not longer: every part is written
as before, and of entries that get one name only the last is left.
-/

/-- The number of characters of an entry with its name, the colon behind it and one comma. -/
def entryLength
    (depth : Nat)
    (entry : Key × Value) : Nat :=
  (stringCharacters (keyName entry.1)).length + (characters .compact depth entry.2).length + 2

/-- The number of characters of entries, one comma for each. -/
def entriesLength
    (depth : Nat)
    (entries : List (Key × Value)) : Nat :=
  (entries.map (entryLength depth)).sum

private theorem length_entryCharacters
    (depth : Nat)
    (entries : List (Key × Value)) :
    (entryCharacters .compact depth entries).length = entriesLength depth entries := by
  induction entries with
  | nil =>
      rfl
  | cons entry rest inductionHypothesis =>
      simp only [entryCharacters, Layout.afterComma, Layout.lineBreak, Layout.afterName,
        List.length_cons, List.length_append, List.length_nil, inductionHypothesis, entriesLength,
        entryLength, List.map_cons, List.sum_cons]
      omega

/-- A mapping is as long as its entries and one bracket more, whose partner stands for the comma
that the first entry does not have. -/
theorem length_map
    {entries : List (Key × Value)}
    (nonempty : entries ≠ [])
    (depth : Nat) :
    (characters .compact depth (.map entries)).length = entriesLength (depth + 1) entries + 1 := by
  obtain ⟨⟨key, value⟩, rest, rfl⟩ := List.exists_cons_of_ne_nil nonempty
  simp only [characters, Layout.lineBreak, Layout.afterName, List.length_cons, List.length_append,
    List.length_nil, length_entryCharacters, entriesLength, entryLength, List.map_cons,
    List.sum_cons]
  omega

/-! ### Entries set one after the other -/

private theorem isName_settledKey (key : Key) : (settledKey key).IsName := by
  cases key <;> trivial

private theorem keyName_settledKey (key : Key) : keyName (settledKey key) = keyName key := by
  cases key <;> rfl

private theorem isName_of_mem_settledEntries (entries : List (Key × Value)) :
    ∀ entry ∈ settledEntries entries, entry.1.IsName := by
  induction entries with
  | nil =>
      intro entry member
      cases member
  | cons first rest inductionHypothesis =>
      intro entry member
      rcases List.mem_cons.mp member with rfl | inRest
      · exact isName_settledKey first.1
      · exact inductionHypothesis entry inRest

private theorem entriesLength_insertAll_le
    {entries added : List (Key × Value)}
    (depth : Nat)
    (different : DifferentKeys entries)
    (areNames : ∀ entry ∈ entries, entry.1.IsName)
    (addedAreNames : ∀ entry ∈ added, entry.1.IsName) :
    entriesLength depth (Value.insertAll entries added) ≤
      entriesLength depth entries + entriesLength depth added := by
  induction added generalizing entries with
  | nil =>
      exact Nat.le_refl _
  | cons entry rest inductionHypothesis =>
      obtain ⟨key, value⟩ := entry
      have isName := addedAreNames (key, value) (by simp)
      have afterFirst :=
        Key.sum_insert_le (entryLength depth) different areNames isName value
      have afterRest :=
        inductionHypothesis (different.insert key value)
          (Key.isName_of_mem_insert areNames isName)
          fun other member => addedAreNames other (List.mem_cons_of_mem _ member)
      change entriesLength depth (Value.insertAll (Key.insert entries key value) rest) ≤ _
      simp only [entriesLength, List.map_cons, List.sum_cons] at afterFirst afterRest ⊢
      omega

private theorem entriesLength_collect_le
    {entries : List (Key × Value)}
    (depth : Nat)
    (areNames : ∀ entry ∈ entries, entry.1.IsName) :
    entriesLength depth (Value.collect entries) ≤ entriesLength depth entries := by
  have bound :=
    entriesLength_insertAll_le depth DifferentKeys.nil (by simp) areNames
  simpa [entriesLength, Value.collect] using bound

/-! ### Values -/

mutual

/-- The text of a settled value is not longer than the text of the value. -/
theorem length_settled_le
    (depth : Nat) : (value : Value) →
    (characters .compact depth (settled value)).length ≤
      (characters .compact depth value).length
  | .null | .bool _ | .int _ | .float _ | .text _ | .unpaired _ | .bytes _ | .timestamp _
  | .set _ | .again _ => Nat.le_refl _
  | .pair first second => by
      have firstBound := length_settled_le (depth + 1) first
      have secondBound := length_settled_le (depth + 1) second
      simp [settled, characters, itemCharacters, Layout.lineBreak, Layout.afterComma]
      omega
  | .list [] => Nat.le_refl _
  | .list (first :: rest) => by
      have firstBound := length_settled_le (depth + 1) first
      have restBound := length_settledItems_le (depth + 1) rest
      simp [settled, settledItems, characters, Layout.lineBreak]
      omega
  | .map [] => Nat.le_refl _
  | .map (first :: rest) => by
      have settledBound := entriesLength_settledEntries_le (depth + 1) (first :: rest)
      have collectBound :=
        entriesLength_collect_le (depth + 1) (isName_of_mem_settledEntries (first :: rest))
      rw [settled, length_map (List.cons_ne_nil first rest)]
      by_cases nothingLeft : Value.collect (settledEntries (first :: rest)) = []
      · rw [nothingLeft]
        simp only [characters, List.length_cons, List.length_nil, entriesLength, entryLength,
          List.map_cons, List.sum_cons]
        omega
      · rw [length_map nothingLeft]
        omega

theorem length_settledItems_le
    (depth : Nat) : (items : List Value) →
    (itemCharacters .compact depth (settledItems items)).length ≤
      (itemCharacters .compact depth items).length
  | [] => Nat.le_refl _
  | item :: rest => by
      have itemBound := length_settled_le depth item
      have restBound := length_settledItems_le depth rest
      simp [settledItems, itemCharacters]
      omega

theorem entriesLength_settledEntries_le
    (depth : Nat) : (entries : List (Key × Value)) →
    entriesLength depth (settledEntries entries) ≤ entriesLength depth entries
  | [] => Nat.le_refl _
  | (key, value) :: rest => by
      have valueBound := length_settled_le depth value
      have restBound := entriesLength_settledEntries_le depth rest
      simp only [settledEntries, entriesLength, entryLength, List.map_cons, List.sum_cons,
        keyName_settledKey] at restBound ⊢
      omega

end

/-!
## Lengths of written values

A value is written in full wherever it stands, so the text of a list or a record is at least as
long as the text of each of its parts, and a string at least as long as its content.
-/

section

/-- Every character of a string is written as at least one. -/
theorem length_le_length_stringCharacters (content : String) :
    content.toList.length ≤ (stringCharacters content).length := by
  have escaped :
      ∀ characters : List Char, characters.length ≤ (characters.flatMap escape).length := by
    intro characters
    induction characters with
    | nil =>
        exact Nat.le_refl 0
    | cons c rest inductionHypothesis =>
        have some_characters : 1 ≤ (escape c).length := by
          unfold escape
          split_ifs <;> simp
        rw [List.flatMap_cons, List.length_append, List.length_cons]
        omega
  have atMost := escaped content.toList
  rw [stringCharacters, List.length_cons, List.length_append]
  omega

variable {layout : Layout} {depth : Nat}

private theorem length_le_length_itemCharacters
    {items : List Value}
    {item : Value}
    (member : item ∈ items) :
    (characters layout depth item).length ≤ (itemCharacters layout depth items).length := by
  induction items with
  | nil =>
      cases member
  | cons first rest inductionHypothesis =>
      rw [itemCharacters, List.length_cons, List.length_append, List.length_append]
      rcases List.mem_cons.mp member with rfl | inRest
      · omega
      · have atMost := inductionHypothesis inRest
        omega

theorem length_le_of_mem_list
    {items : List Value}
    {item : Value}
    (member : item ∈ items) :
    (characters layout (depth + 1) item).length ≤
      (characters layout depth (.list items)).length := by
  cases items with
  | nil =>
      cases member
  | cons first rest =>
      simp only [characters, List.length_cons, List.length_append]
      rcases List.mem_cons.mp member with rfl | inRest
      · omega
      · have atMost :
            (characters layout (depth + 1) item).length ≤
              (itemCharacters layout (depth + 1) rest).length :=
          length_le_length_itemCharacters inRest
        omega

private theorem length_le_length_entryCharacters
    {fields : List (String × Value)}
    {field : String × Value}
    (member : field ∈ fields) :
    (characters layout depth field.2).length ≤
      (entryCharacters layout depth (Value.entriesOf fields)).length := by
  induction fields with
  | nil =>
      cases member
  | cons first rest inductionHypothesis =>
      rw [Value.entriesOf, List.map_cons, entryCharacters]
      simp only [List.length_cons, List.length_append]
      rcases List.mem_cons.mp member with rfl | inRest
      · omega
      · have atMost := inductionHypothesis inRest
        rw [Value.entriesOf] at atMost
        omega

/-- The fields of a record are written in full. -/
theorem length_le_of_mem_record
    {fields : List (String × Value)}
    {field : String × Value}
    (member : field ∈ fields) :
    (characters layout (depth + 1) field.2).length ≤
      (characters layout depth (.record fields)).length := by
  cases fields with
  | nil =>
      cases member
  | cons first rest =>
      simp only [Value.record, List.map_cons, characters, List.length_cons, List.length_append]
      rcases List.mem_cons.mp member with rfl | inRest
      · omega
      · have atMost :
            (characters layout (depth + 1) field.2).length ≤
              (entryCharacters layout (depth + 1) (Value.entriesOf rest)).length :=
          length_le_length_entryCharacters inRest
        rw [Value.entriesOf] at atMost
        omega

end

/-!
## Lengths of compact texts

A compact text has no blanks that would depend on its depth, so the text of a value is as long
wherever the value stands: a list is as long as its items with the commas between them and two
brackets, and a record without the items of one of its lists is shorter by just these items.
-/

mutual

/-- A compact text does not depend on the depth. -/
theorem characters_compact_eq
    (first second : Nat) : (value : Value) →
    characters .compact first value = characters .compact second value
  | .null | .bool _ | .int _ | .float _ | .text _ | .unpaired _ | .bytes _ | .timestamp _
  | .set _ | .again _ => by simp only [characters]
  | .pair one other => by
      simp only [characters, Layout.lineBreak, Layout.afterComma,
        characters_compact_eq (first + 1) (second + 1) one,
        characters_compact_eq (first + 1) (second + 1) other]
  | .list [] => by simp only [characters]
  | .list (item :: rest) => by
      simp only [characters, Layout.lineBreak,
        characters_compact_eq (first + 1) (second + 1) item,
        itemCharacters_compact_eq (first + 1) (second + 1) rest]
  | .map [] => by simp only [characters]
  | .map ((key, value) :: rest) => by
      simp only [characters, Layout.lineBreak,
        characters_compact_eq (first + 1) (second + 1) value,
        entryCharacters_compact_eq (first + 1) (second + 1) rest]

theorem itemCharacters_compact_eq
    (first second : Nat) : (items : List Value) →
    itemCharacters .compact first items = itemCharacters .compact second items
  | [] => by simp only [itemCharacters]
  | item :: rest => by
      simp only [itemCharacters, Layout.afterComma, Layout.lineBreak,
        characters_compact_eq first second item, itemCharacters_compact_eq first second rest]

theorem entryCharacters_compact_eq
    (first second : Nat) : (entries : List (Key × Value)) →
    entryCharacters .compact first entries = entryCharacters .compact second entries
  | [] => by simp only [entryCharacters]
  | (key, value) :: rest => by
      simp only [entryCharacters, Layout.afterComma, Layout.lineBreak,
        characters_compact_eq first second value, entryCharacters_compact_eq first second rest]

end

/-- The number of characters of a value at any depth. -/
theorem length_characters_compact
    (depth : Nat)
    (value : Value) :
    (characters .compact depth value).length = measure value := by
  rw [measure, characters_compact_eq depth 0]

/-- The number of characters of items, with a comma before every item but the first. -/
def itemsLength (items : List Value) : Nat :=
  (items.map measure).sum + (items.length - 1)

@[simp] theorem itemsLength_nil : itemsLength [] = 0 :=
  rfl

theorem itemsLength_append_singleton
    (items : List Value)
    (item : Value) :
    itemsLength (items ++ [item]) =
      itemsLength items + (measure item + if items.isEmpty then 0 else 1) := by
  cases items with
  | nil =>
      simp [itemsLength]
  | cons first rest =>
      simp [itemsLength]
      omega

private theorem length_itemCharacters
    (depth : Nat)
    (items : List Value) :
    (itemCharacters .compact depth items).length = (items.map measure).sum + items.length := by
  induction items with
  | nil =>
      rfl
  | cons item rest inductionHypothesis =>
      simp only [itemCharacters, Layout.afterComma, Layout.lineBreak, List.nil_append,
        List.length_cons, List.length_append, length_characters_compact, inductionHypothesis,
        List.map_cons, List.sum_cons]
      omega

/-- A list is as long as its items and two brackets. -/
theorem measure_list (items : List Value) : measure (.list items) = itemsLength items + 2 := by
  rw [measure]
  cases items with
  | nil =>
      rfl
  | cons item rest =>
      simp only [characters, Layout.lineBreak, List.nil_append, List.length_cons,
        List.length_append, List.append_nil, length_characters_compact, length_itemCharacters,
        itemsLength, List.map_cons, List.sum_cons, List.length_nil]
      omega

/-- A list can be written if each of its items can. -/
theorem unwritable?_list_eq_none_iff
    {items : List Value} :
    unwritable? (.list items) = none ↔ ∀ item ∈ items, unwritable? item = none := by
  rw [unwritable?]
  induction items with
  | nil => simp [unwritableWithin?]
  | cons item rest inductionHypothesis =>
      rw [unwritableWithin?, Option.or_eq_none_iff, inductionHypothesis, List.forall_mem_cons]

theorem measured_eq_ok_iff
    {value : Value}
    {length : Nat} :
    measured value = .ok length ↔ unwritable? value = none ∧ measure value = length := by
  unfold measured
  cases unwritable? value <;> simp

/-- An item at the end makes a list longer by the item and by the comma before it. -/
theorem measured_list_append_singleton
    {items : List Value}
    {item : Value}
    {length : Nat}
    (itemsAre : measured (.list items) = .ok length)
    (writable : unwritable? item = none) :
    measured (.list (items ++ [item])) =
      .ok (length + (measure item + if items.isEmpty then 0 else 1)) := by
  rw [measured_eq_ok_iff, measure_list, unwritable?_list_eq_none_iff] at itemsAre ⊢
  rw [List.forall_mem_append, List.forall_mem_singleton, itemsLength_append_singleton]
  refine ⟨⟨itemsAre.1, writable⟩, ?_⟩
  have lengthIs := itemsAre.2
  omega

/-- The number of characters of a field with its name, a colon and one comma. -/
theorem entryLength_field
    (depth : Nat)
    (name : String)
    (value : Value) :
    entryLength depth (.text name, value) =
      (stringCharacters name).length + measure value + 2 := by
  rw [entryLength, length_characters_compact]
  rfl

/-- With another value in one of its fields a record is longer by as much as the value is. -/
theorem measure_record_replace
    (before after : List (String × Value))
    (name : String)
    (first second : Value) :
    measure (.record (before ++ (name, first) :: after)) + measure second =
      measure (.record (before ++ (name, second) :: after)) + measure first := by
  have lengthIs
      (value : Value) :
      measure (.record (before ++ (name, value) :: after)) =
        entriesLength 1 (Value.entriesOf before) + (stringCharacters name).length +
          measure value + entriesLength 1 (Value.entriesOf after) + 3 := by
    rw [measure, Value.record, length_map (by simp)]
    simp only [entriesLength, Value.entriesOf, List.map_append, List.map_cons, List.sum_append,
      List.sum_cons, entryLength_field, Nat.zero_add]
    omega
  rw [lengthIs, lengthIs]
  omega

/-- A record is shorter without the items of one of its lists by just these items. -/
theorem measure_record_without_items
    (before after : List (String × Value))
    (name : String)
    (items : List Value) :
    measure (.record (before ++ (name, .list items) :: after)) =
      measure (.record (before ++ (name, .list []) :: after)) + itemsLength items := by
  have replaced := measure_record_replace before after name (.list items) (.list [])
  rw [measure_list, measure_list, itemsLength_nil] at replaced
  omega

end TypeCatalog.Json
