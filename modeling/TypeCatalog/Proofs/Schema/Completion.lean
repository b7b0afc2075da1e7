import TypeCatalog.Proofs.Schema.Crashing
import TypeCatalog.Proofs.Value.UniqueKeys

namespace TypeCatalog.Schema

/-!
# Items that are completed before they are checked

The items of a field are run through before anything is known about its value.  This crashes for a
value that counts as something and has no items; else it leaves all other fields alone, and in the
items it adds nothing but the defaults.
-/

/-- A value that counts as something but has no items to run through. -/
inductive IsSolid : Value → Prop
  | truth : IsSolid (.bool true)
  | int {number : Int} (nonzero : number ≠ 0) : IsSolid (.int number)
  | float {number : Binary64} (nonzero : number.equal (.zero false) = false) :
      IsSolid (.float number)
  | timestamp (time : Timestamp) : IsSolid (.timestamp time)
  | again {container : Value} (noList : ∀ items, container ≠ .list items)
      (noMap : ∀ entries, container ≠ .map entries) : IsSolid (.again container)

/-- An item that is met when a value is run through. -/
def IsMetIn (item held : Value) : Prop :=
  ∃ items, itemsOf held = .ok items ∧ item ∈ items

theorem isSolid_iff
    {value : Value} :
    IsSolid value ↔ value.isSomething = true ∧ (itemsOf value).Crashes := by
  constructor
  · rintro (_ | nonzero | nonzero | _ | ⟨noList, noMap⟩)
    · exact ⟨rfl, _, rfl⟩
    · exact ⟨by simpa [Value.isSomething] using nonzero, _, rfl⟩
    · exact ⟨by simp [Value.isSomething, nonzero], _, rfl⟩
    · exact ⟨rfl, _, rfl⟩
    · refine ⟨rfl, ?_⟩
      unfold itemsOf
      split <;> simp_all
  · rintro ⟨isSomething, crashes⟩
    cases value with
    | null => cases isSomething
    | bool truth =>
        cases truth with
        | false => cases isSomething
        | true => exact .truth
    | int number => exact .int (by simpa [Value.isSomething] using isSomething)
    | float number => exact .float (by simpa [Value.isSomething] using isSomething)
    | timestamp time => exact .timestamp time
    | again container =>
        refine .again ?_ ?_ <;>
          · rintro _ rfl
            simp [itemsOf] at crashes
    | text _ | unpaired _ | bytes _ | pair _ _ | list _ | set _ | map _ =>
        simp [itemsOf] at crashes

/-- A value that counts as nothing has no items. -/
private theorem items_eq_nil
    {held : Value}
    {items : List Value}
    (isNothing : held.isSomething = false)
    (areItems : itemsOf held = .ok items) :
    items = [] := by
  cases held <;> simp_all [Value.isSomething, itemsOf]

private theorem listItems_eq_nil
    {held : Value}
    (isNothing : held.isSomething = false) :
    listItems held = [] := by
  cases held <;> simp_all [Value.isSomething, listItems]

theorem not_isMetIn_of_isNothing
    {item held : Value}
    (isNothing : held.isSomething = false) :
    ¬ IsMetIn item held := by
  rintro ⟨items, areItems, member⟩
  rw [items_eq_nil isNothing areItems] at member
  cases member

variable {α : Type}

theorem crashes_completeItems_iff
    {name : String}
    {defaults : Nat → List (Key × Value)}
    {entries : List (Key × Value)} :
    (completeItems name defaults entries).Crashes ↔
      ∃ held, Value.lookup? entries name = some held ∧ IsSolid held := by
  unfold completeItems
  split
  · next isMissing =>
      simp [isMissing]
  · next held isHeld =>
      split
      · next isSomething =>
          simp [isHeld, isSolid_iff, isSomething]
      · next isNothing =>
          simp [isHeld, isSolid_iff, isNothing]

/-- Completing the items of one field leaves all other fields alone. -/
theorem lookup?_completeItems_of_ne
    {name other : String}
    {defaults : Nat → List (Key × Value)}
    {entries completed : List (Key × Value)}
    (isCompleted : completeItems name defaults entries = .ok completed)
    (different : other ≠ name) :
    Value.lookup? completed other = Value.lookup? entries other := by
  unfold completeItems at isCompleted
  split at isCompleted
  · cases isCompleted
    rfl
  · split at isCompleted
    · obtain ⟨items, _, rfl⟩ := Checked.map_eq_ok_iff.mp isCompleted
      exact Value.lookup?_insert_of_ne entries _ different
    · cases isCompleted
      rfl

private theorem crashes_completed_iff
    {name : String}
    {defaults : Nat → List (Key × Value)}
    {entries completed : List (Key × Value)}
    {check : Check α}
    {sort : Value → Prop}
    (isCompleted : completeItems name defaults entries = .ok completed)
    (crashes_iff : ∀ held item, Value.lookup? entries name = some held → IsMetIn item held →
      ∀ index, (check (complete (defaults index) item)).Crashes ↔ sort item) :
    (∃ held, Value.lookup? completed name = some held ∧ (sequenceOf check held).Crashes) ↔
      ∃ held item, Value.lookup? entries name = some held ∧ IsMetIn item held ∧ sort item := by
  unfold completeItems at isCompleted
  split at isCompleted
  · next isMissing =>
      cases isCompleted
      simp [isMissing]
  · next held isHeld =>
      split at isCompleted
      · obtain ⟨items, areItems, rfl⟩ := Checked.map_eq_ok_iff.mp isCompleted
        simp only [Value.lookup?_insert_self, isHeld, Option.some.injEq, exists_eq_left',
          crashes_sequenceOf_iff, HasItem, listItems, List.mem_mapIdx]
        constructor
        · rintro ⟨_, ⟨index, inRange, rfl⟩, crashes⟩
          have isMet : IsMetIn items[index] held :=
            ⟨items, areItems, List.getElem_mem inRange⟩
          exact ⟨held, items[index], rfl, isMet,
            (crashes_iff held _ isHeld isMet index).mp crashes⟩
        · rintro ⟨_, item, rfl, ⟨others, areOthers, member⟩, isSort⟩
          obtain rfl : items = others := Checked.ok.inj (areItems.symm.trans areOthers)
          obtain ⟨index, inRange, rfl⟩ := List.getElem_of_mem member
          exact ⟨_, ⟨index, inRange, rfl⟩,
            (crashes_iff held _ isHeld ⟨items, areItems, member⟩ index).mpr isSort⟩
      · next isNothing =>
          cases isCompleted
          have isNothing : held.isSomething = false := by simpa using isNothing
          simp [isHeld, crashes_sequenceOf_iff, HasItem, listItems_eq_nil isNothing,
            not_isMetIn_of_isNothing isNothing]

/-! ## Several fields, one after the other -/

/-- Completes the items of several fields, one field after the other. -/
def completeFields :
    List (String × (Nat → List (Key × Value))) → List (Key × Value) →
      Checked (List (Key × Value))
  | [], entries => .ok entries
  | (name, defaults) :: rest, entries =>
    (completeItems name defaults entries).andThen (completeFields rest)

theorem completeFields_noEntries
    (fields : List (String × (Nat → List (Key × Value)))) :
    completeFields fields [] = .ok [] := by
  induction fields with
  | nil => rfl
  | cons field rest inductionHypothesis => exact inductionHypothesis

/-- Running through a value gives items or crashes. -/
private theorem exists_completed
    {name : String}
    {defaults : Nat → List (Key × Value)}
    {entries : List (Key × Value)}
    (passes : ¬ (completeItems name defaults entries).Crashes) :
    ∃ completed, completeItems name defaults entries = .ok completed := by
  cases outcome : completeItems name defaults entries with
  | ok completed => exact ⟨completed, rfl⟩
  | crashed crash => exact (passes ⟨crash, outcome⟩).elim
  | rejected issues =>
      unfold completeItems at outcome
      split at outcome
      · cases outcome
      · split at outcome
        · next held _ _ =>
            unfold itemsOf at outcome
            split at outcome <;> cases outcome
        · cases outcome

variable {fields : List (String × (Nat → List (Key × Value)))}

theorem crashes_completeFields_iff
    (different : (fields.map Prod.fst).Nodup)
    {entries : List (Key × Value)} :
    (completeFields fields entries).Crashes ↔
      ∃ name ∈ fields.map Prod.fst, ∃ held,
        Value.lookup? entries name = some held ∧ IsSolid held := by
  induction fields generalizing entries with
  | nil =>
      simp [completeFields]
  | cons field rest inductionHypothesis =>
      obtain ⟨notInRest, differentInRest⟩ := List.nodup_cons.mp different
      simp only [completeFields, Checked.crashes_andThen_iff, crashes_completeItems_iff,
        List.map_cons, List.mem_cons, or_and_right, exists_or, exists_eq_left]
      refine or_congr_right' fun notSolid => ?_
      obtain ⟨completed, isCompleted⟩ :
          ∃ completed, completeItems field.1 field.2 entries = .ok completed :=
        exists_completed fun crashes => notSolid (crashes_completeItems_iff.mp crashes)
      simp only [isCompleted, Checked.ok.injEq, exists_eq_left',
        inductionHypothesis differentInRest]
      refine exists_congr fun name => and_congr_right fun member => ?_
      rw [lookup?_completeItems_of_ne isCompleted fun isSame => notInRest (isSame ▸ member)]

private theorem exists_completeFields
    {entries : List (Key × Value)}
    (passes : ¬ (completeFields fields entries).Crashes) :
    ∃ final, completeFields fields entries = .ok final := by
  induction fields generalizing entries with
  | nil =>
      exact ⟨entries, rfl⟩
  | cons field rest inductionHypothesis =>
      simp only [completeFields, Checked.crashes_andThen_iff, not_or, not_exists, not_and]
        at passes
      obtain ⟨completed, isCompleted⟩ := exists_completed passes.1
      obtain ⟨final, isFinal⟩ := inductionHypothesis (passes.2 completed isCompleted)
      exact ⟨final, Checked.andThen_eq_ok_iff.mpr ⟨completed, isCompleted, isFinal⟩⟩

/-- Reading a record whose fields are completed first crashes exactly if one of these fields is
solid, or if what was completed makes the reading crash. -/
theorem crashes_completeFields_andThen_iff
    (different : (fields.map Prod.fst).Nodup)
    {entries : List (Key × Value)}
    {read : List (Key × Value) → Checked α}
    {isFound : Prop}
    (crashes_iff : ∀ {final}, completeFields fields entries = .ok final →
      ((read final).Crashes ↔ isFound)) :
    ((completeFields fields entries).andThen read).Crashes ↔
      (∃ name ∈ fields.map Prod.fst, ∃ held,
        Value.lookup? entries name = some held ∧ IsSolid held) ∨ isFound := by
  rw [Checked.crashes_andThen_iff, ← crashes_completeFields_iff different]
  refine or_congr_right' fun passes => ?_
  obtain ⟨final, isFinal⟩ := exists_completeFields passes
  rw [← crashes_iff isFinal]
  simp [isFinal]

/-- Completing the items of some fields leaves all other fields alone. -/
theorem lookup?_completeFields_of_not_mem
    {entries final : List (Key × Value)}
    {name : String}
    (isFinal : completeFields fields entries = .ok final)
    (notMember : name ∉ fields.map Prod.fst) :
    Value.lookup? final name = Value.lookup? entries name := by
  induction fields generalizing entries with
  | nil =>
      cases isFinal
      rfl
  | cons field rest inductionHypothesis =>
      obtain ⟨completed, isCompleted, isFinal⟩ := Checked.andThen_eq_ok_iff.mp isFinal
      rw [List.map_cons, List.mem_cons, not_or] at notMember
      rw [inductionHypothesis isFinal notMember.2,
        lookup?_completeItems_of_ne isCompleted notMember.1]

/-- A completed field stands as if it were the only one that is completed. -/
theorem exists_lookup?_completeFields
    (different : (fields.map Prod.fst).Nodup)
    {entries final : List (Key × Value)}
    {name : String}
    {defaults : Nat → List (Key × Value)}
    (isFinal : completeFields fields entries = .ok final)
    (member : (name, defaults) ∈ fields) :
    ∃ before completed,
      Value.lookup? before name = Value.lookup? entries name ∧
        completeItems name defaults before = .ok completed ∧
        Value.lookup? final name = Value.lookup? completed name := by
  induction fields generalizing entries with
  | nil =>
      cases member
  | cons field rest inductionHypothesis =>
      obtain ⟨completed, isCompleted, restCompleted⟩ := Checked.andThen_eq_ok_iff.mp isFinal
      obtain ⟨notInRest, differentInRest⟩ := List.nodup_cons.mp different
      rcases List.mem_cons.mp member with rfl | member
      · exact ⟨entries, completed, rfl, isCompleted,
          lookup?_completeFields_of_not_mem restCompleted notInRest⟩
      · obtain ⟨before, after, sameBefore, isAfter, sameAfter⟩ :=
          inductionHypothesis differentInRest restCompleted member
        refine ⟨before, after, sameBefore.trans ?_, isAfter, sameAfter⟩
        refine lookup?_completeItems_of_ne isCompleted fun isSame => notInRest ?_
        exact List.mem_map.mpr ⟨(name, defaults), member, isSame⟩

/-- A check of a completed field crashes exactly if it does so for an item that is met in the
field. -/
theorem crashes_completedField_iff
    (different : (fields.map Prod.fst).Nodup)
    {entries final : List (Key × Value)}
    {name : String}
    {defaults : Nat → List (Key × Value)}
    {check : Check α}
    {sort : Value → Prop}
    (isFinal : completeFields fields entries = .ok final)
    (member : (name, defaults) ∈ fields)
    (crashes_iff : ∀ held item, Value.lookup? entries name = some held → IsMetIn item held →
      ∀ index, (check (complete (defaults index) item)).Crashes ↔ sort item) :
    (∃ held, Value.lookup? final name = some held ∧ (sequenceOf check held).Crashes) ↔
      ∃ held item, Value.lookup? entries name = some held ∧ IsMetIn item held ∧ sort item := by
  obtain ⟨before, completed, sameBefore, isCompleted, sameAfter⟩ :=
    exists_lookup?_completeFields different isFinal member
  rw [sameAfter, ← sameBefore]
  rw [← sameBefore] at crashes_iff
  exact crashes_completed_iff isCompleted crashes_iff

/-! ## Completed items -/

/-- An item that is met in a value with unique keys has unique keys. -/
theorem hasUniqueKeys_of_isMetIn
    {item held : Value}
    (unique : held.HasUniqueKeys)
    (isMet : IsMetIn item held) :
    item.HasUniqueKeys := by
  obtain ⟨items, areItems, member⟩ := isMet
  unfold itemsOf at areItems
  split at areItems
  · cases areItems
    exact unique.items item member
  · cases areItems
    exact unique.container.items item member
  · cases areItems
    rcases List.mem_cons.mp member with rfl | member
    · exact unique.parts.1
    · rw [List.mem_singleton.mp member]
      exact unique.parts.2
  · cases areItems
    obtain ⟨key, _, rfl⟩ := List.mem_map.mp member
    exact .single (Value.isSingle_toValue key)
  · cases areItems
    obtain ⟨entry, _, rfl⟩ := List.mem_map.mp member
    exact .single (Value.isSingle_toValue entry.1)
  · cases areItems
    obtain ⟨entry, _, rfl⟩ := List.mem_map.mp member
    exact .single (Value.isSingle_toValue entry.1)
  · cases areItems
    obtain ⟨c, _, rfl⟩ := List.mem_map.mp member
    exact .single trivial
  · cases areItems
    obtain ⟨point, _, rfl⟩ := List.mem_map.mp member
    exact .single (Value.isSingle_ofWritten _)
  · cases areItems
    obtain ⟨octet, _, rfl⟩ := List.mem_map.mp member
    exact .single trivial
  · cases areItems

theorem hasUniqueKeys_of_mem_listItems
    {item held : Value}
    (unique : held.HasUniqueKeys)
    (member : item ∈ listItems held) :
    item.HasUniqueKeys := by
  unfold listItems at member
  split at member
  · exact unique.items item member
  · exact unique.container.items item member
  · rcases List.mem_cons.mp member with rfl | member
    · exact unique.parts.1
    · rw [List.mem_singleton.mp member]
      exact unique.parts.2
  · obtain ⟨key, _, rfl⟩ := List.mem_map.mp member
    exact .single (Value.isSingle_toValue key)
  · cases member

theorem hasUniqueKeys_modelEntries
    {value : Value}
    (unique : value.HasUniqueKeys) :
    (Value.map (modelEntries value)).HasUniqueKeys := by
  unfold modelEntries
  split
  · exact unique
  · exact unique.container
  · exact .map .nil (by simp)

/-- What a completed item has under a name that has no default, it had before. -/
theorem lookup?_complete
    {defaults : List (Key × Value)}
    {name : String}
    {item : Value}
    (unique : item.HasUniqueKeys)
    (noDefault : Value.lookup? defaults name = none) :
    Value.lookup? (modelEntries (complete defaults item)) name =
      Value.lookup? (modelEntries item) name := by
  have ofEntries :
      ∀ entries : List (Key × Value), DifferentKeys entries →
        Value.lookup? (Value.insertAll defaults entries) name = Value.lookup? entries name := by
    intro entries different
    rw [Value.lookup?_insertAll different, noDefault, Option.or_none]
  unfold complete
  split
  · exact ofEntries _ unique.entries.1
  · rfl
  · exact ofEntries _ unique.container.entries.1
  · rfl

/-- An item stays without keys that stand twice when it is completed. -/
theorem hasUniqueKeys_complete
    {defaults : List (Key × Value)}
    {item : Value}
    (unique : item.HasUniqueKeys)
    (defaultsUnique : (Value.map defaults).HasUniqueKeys) :
    (complete defaults item).HasUniqueKeys := by
  have ofEntries :
      ∀ entries : List (Key × Value), (Value.map entries).HasUniqueKeys →
        (Value.map (Value.insertAll defaults entries)).HasUniqueKeys := by
    intro entries entriesUnique
    refine .map (Value.differentKeys_insertAll defaultsUnique.entries.1 entries) ?_
    intro entry member
    rcases Value.value_of_mem_insertAll member with ⟨other, isThere, isSame⟩ | isDefault
    · rw [isSame]
      exact entriesUnique.entries.2 other isThere
    · exact defaultsUnique.entries.2 entry isDefault
  unfold complete
  split
  · exact ofEntries _ unique
  · exact unique
  · exact ofEntries _ unique.container
  · exact unique

end TypeCatalog.Schema
