import TypeCatalog.Proofs.Value.Entries

namespace TypeCatalog

/-!
# Values with unique keys

No mapping in a value has the same key twice.  This is so of every value that comes from a document,
since a mapping is built by setting its entries.
-/

namespace Value

/-- Whether a value holds no other values. -/
def IsSingle : Value → Prop
  | .pair .. | .list _ | .map _ | .again _ => False
  | _ => True

/-- Whether each mapping in a value has different keys. -/
inductive HasUniqueKeys : Value → Prop
  | single {value : Value} (isSingle : value.IsSingle) : HasUniqueKeys value
  | pair {first second : Value} (firstUnique : HasUniqueKeys first)
      (secondUnique : HasUniqueKeys second) : HasUniqueKeys (.pair first second)
  | list {items : List Value} (itemsUnique : ∀ item ∈ items, HasUniqueKeys item) :
      HasUniqueKeys (.list items)
  | map {entries : List (Key × Value)} (different : DifferentKeys entries)
      (entriesUnique : ∀ entry ∈ entries, HasUniqueKeys entry.2) : HasUniqueKeys (.map entries)
  | again {container : Value} (containerUnique : HasUniqueKeys container) :
      HasUniqueKeys (.again container)

namespace HasUniqueKeys

theorem items
    {items : List Value}
    (unique : HasUniqueKeys (.list items)) :
    ∀ item ∈ items, HasUniqueKeys item := by
  cases unique with
  | single isSingle => exact isSingle.elim
  | list itemsUnique => exact itemsUnique

theorem entries
    {entries : List (Key × Value)}
    (unique : HasUniqueKeys (.map entries)) :
    DifferentKeys entries ∧ ∀ entry ∈ entries, HasUniqueKeys entry.2 := by
  cases unique with
  | single isSingle => exact isSingle.elim
  | map different entriesUnique => exact ⟨different, entriesUnique⟩

theorem container
    {container : Value}
    (unique : HasUniqueKeys (.again container)) :
    HasUniqueKeys container := by
  cases unique with
  | single isSingle => exact isSingle.elim
  | again containerUnique => exact containerUnique

theorem parts
    {first second : Value}
    (unique : HasUniqueKeys (.pair first second)) :
    HasUniqueKeys first ∧ HasUniqueKeys second := by
  cases unique with
  | single isSingle => exact isSingle.elim
  | pair firstUnique secondUnique => exact ⟨firstUnique, secondUnique⟩

/-- What stands under a name in a mapping has unique keys as well. -/
theorem of_lookup?
    {entries : List (Key × Value)}
    {name : String}
    {value : Value}
    (entriesUnique : ∀ entry ∈ entries, HasUniqueKeys entry.2)
    (found : lookup? entries name = some value) :
    HasUniqueKeys value :=
  entriesUnique _ (mem_of_lookup? found)

theorem of_entries?
    {value : Value}
    {entries : List (Key × Value)}
    (unique : HasUniqueKeys value)
    (areEntries : value.entries? = some entries) :
    HasUniqueKeys (.map entries) := by
  rcases eq_of_entries? areEntries with rfl | rfl
  · exact unique
  · exact unique.container

end HasUniqueKeys

theorem hasUniqueKeys_list_iff
    {items : List Value} :
    (Value.list items).HasUniqueKeys ↔ ∀ item ∈ items, item.HasUniqueKeys :=
  ⟨HasUniqueKeys.items, .list⟩

theorem hasUniqueKeys_map_iff
    {entries : List (Key × Value)} :
    (Value.map entries).HasUniqueKeys ↔
      DifferentKeys entries ∧ ∀ entry ∈ entries, entry.2.HasUniqueKeys :=
  ⟨HasUniqueKeys.entries, fun unique => .map unique.1 unique.2⟩

theorem isSingle_ofWritten
    (written : Text.Written) :
    (ofWritten written).IsSingle := by
  cases written <;> trivial

theorem isSingle_toValue
    (key : Key) :
    key.toValue.IsSingle := by
  cases key <;> trivial

/-- Entries with different keys stay so when others are set. -/
theorem differentKeys_insertAll
    {entries : List (Key × Value)}
    (different : DifferentKeys entries)
    (added : List (Key × Value)) :
    DifferentKeys (insertAll entries added) := by
  induction added generalizing entries with
  | nil => exact different
  | cons entry rest inductionHypothesis =>
      exact inductionHypothesis (different.insert entry.1 entry.2)

theorem value_of_mem_insert
    {entries : List (Key × Value)}
    {key : Key}
    {value : Value}
    {entry : Key × Value}
    (member : entry ∈ insert entries key value) :
    entry.2 = value ∨ entry ∈ entries := by
  unfold insert Key.insert at member
  split at member
  · obtain ⟨before, wasThere, rfl⟩ := List.mem_map.mp member
    split
    · exact .inl rfl
    · exact .inr wasThere
  · rcases List.mem_append.mp member with wasThere | isNew
    · exact .inr wasThere
    · rw [List.mem_singleton.mp isNew]
      exact .inl rfl

theorem value_of_mem_insertAll
    {entries added : List (Key × Value)}
    {entry : Key × Value}
    (member : entry ∈ insertAll entries added) :
    (∃ other ∈ added, entry.2 = other.2) ∨ entry ∈ entries := by
  induction added generalizing entries with
  | nil => exact .inr member
  | cons first rest inductionHypothesis =>
      rcases inductionHypothesis member with ⟨other, isAdded, isSame⟩ | wasThere
      · exact .inl ⟨other, List.mem_cons_of_mem first isAdded, isSame⟩
      · rcases value_of_mem_insert wasThere with isSame | wasThere
        · exact .inl ⟨first, List.mem_cons_self, isSame⟩
        · exact .inr wasThere

theorem key_of_mem_insertAll
    {entries added : List (Key × Value)}
    {entry : Key × Value}
    (member : entry ∈ insertAll entries added) :
    (∃ other ∈ added, other.1 = entry.1) ∨ ∃ before ∈ entries, before.1 = entry.1 := by
  induction added generalizing entries with
  | nil => exact .inr ⟨entry, member, rfl⟩
  | cons first rest inductionHypothesis =>
      rcases inductionHypothesis member with ⟨other, isAdded, isSame⟩ | ⟨before, wasThere, isSame⟩
      · exact .inl ⟨other, List.mem_cons_of_mem first isAdded, isSame⟩
      · rcases key_of_mem_insert wasThere with isFirst | ⟨earlier, wasEarlier, isEarlier⟩
        · exact .inl ⟨first, List.mem_cons_self, isFirst.symm.trans isSame⟩
        · exact .inr ⟨earlier, wasEarlier, isEarlier.trans isSame⟩

theorem HasUniqueKeys.insert
    {entries : List (Key × Value)}
    {value : Value}
    (unique : (Value.map entries).HasUniqueKeys)
    (key : Key)
    (valueUnique : value.HasUniqueKeys) :
    (Value.map (insert entries key value)).HasUniqueKeys := by
  obtain ⟨different, entriesUnique⟩ := unique.entries
  refine .map (different.insert key value) fun entry member => ?_
  rcases value_of_mem_insert member with isNew | wasThere
  · rw [isNew]
    exact valueUnique
  · exact entriesUnique entry wasThere

/-- A mapping that is collected from entries has unique keys if their values have. -/
theorem hasUniqueKeys_collect
    {entries : List (Key × Value)}
    (entriesUnique : ∀ entry ∈ entries, HasUniqueKeys entry.2) :
    HasUniqueKeys (.map (collect entries)) := by
  refine .map (differentKeys_insertAll .nil entries) fun entry member => ?_
  rcases value_of_mem_insertAll member with ⟨other, isThere, isSame⟩ | isThere
  · rw [isSame]
    exact entriesUnique other isThere
  · cases isThere

end Value

end TypeCatalog
