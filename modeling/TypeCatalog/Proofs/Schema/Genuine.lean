import TypeCatalog.Proofs.Schema.Completion
import TypeCatalog.Proofs.Value.Contents

namespace TypeCatalog.Schema

/-!
# Checks of genuine values

What a check keeps of a value, it keeps as it stands there.  So a genuine value gives genuine parts,
and it stays genuine when its items are completed.
-/

variable {α : Type}

/-- Whether a check finds only results of one sort in genuine values. -/
def FindsInGenuine
    (sort : α → Prop)
    (check : Check α) : Prop :=
  ∀ ⦃value result⦄, value.IsGenuine → check value = .ok result → sort result

/-! ## Items -/

theorem isGenuine_of_mem_listItems
    {item held : Value}
    (genuine : held.IsGenuine)
    (member : item ∈ listItems held) :
    item.IsGenuine := by
  unfold listItems at member
  split at member
  · exact Value.isGenuine_list_iff.mp genuine item member
  · exact Value.isGenuine_list_iff.mp genuine item member
  · rcases List.mem_cons.mp member with rfl | isSecond
    · exact genuine.1
    · rw [List.mem_singleton.mp isSecond]
      exact genuine.2
  · obtain ⟨key, isMember, rfl⟩ := List.mem_map.mp member
    exact Key.isGenuine_toValue (genuine key isMember)
  · cases member

private theorem exists_mem_of_checkItems
    {check : Check α}
    {index : Nat}
    {items : List Value}
    {results : List α}
    (passed : checkItems check index items = .ok results) :
    ∀ result ∈ results, ∃ item ∈ items, check item = .ok result := by
  induction items generalizing index results with
  | nil =>
      cases passed
      exact List.forall_mem_nil _
  | cons item rest inductionHypothesis =>
      obtain ⟨first, others, firstPassed, othersPassed, rfl⟩ :=
        Checked.combine_eq_ok_iff.mp passed
      refine List.forall_mem_cons.mpr
        ⟨⟨item, List.mem_cons_self, Checked.under_eq_ok_iff.mp firstPassed⟩, ?_⟩
      intro result member
      obtain ⟨other, inRest, otherPassed⟩ := inductionHypothesis othersPassed result member
      exact ⟨other, List.mem_cons_of_mem item inRest, otherPassed⟩

theorem FindsInGenuine.sequenceOf
    {sort : α → Prop}
    {check : Check α}
    (finds : FindsInGenuine sort check) :
    FindsInGenuine (fun results => ∀ result ∈ results, sort result) (sequenceOf check) := by
  intro value results genuine passed result member
  have isItem : ∃ item ∈ listItems value, check item = .ok result := by
    unfold Schema.sequenceOf listOf at passed
    unfold listItems
    split at passed
    · exact exists_mem_of_checkItems passed result member
    · exact exists_mem_of_checkItems passed result member
    · exact exists_mem_of_checkItems passed result member
    · exact exists_mem_of_checkItems passed result member
    · cases passed
  obtain ⟨item, isThere, itemPassed⟩ := isItem
  exact finds (isGenuine_of_mem_listItems genuine isThere) itemPassed

theorem findsInGenuine_anything : FindsInGenuine Value.IsGenuine anything := by
  intro value result genuine passed
  cases passed
  exact genuine

/-! ## Entries -/

section Entries

variable {sort : α → Prop} {check : Check α} (finds : FindsInGenuine sort check)

include finds

private theorem sort_of_checkEntries
    {entries : List (Key × Value)}
    {found : List (String × α)}
    (genuine : (Value.map entries).IsGenuine)
    (passed : checkEntries check entries = .ok found) :
    ∀ one ∈ found, sort one.2 := by
  induction entries generalizing found with
  | nil =>
      cases passed
      exact List.forall_mem_nil _
  | cons entry rest inductionHypothesis =>
      rw [Value.isGenuine_map_iff, List.forall_mem_cons] at genuine
      obtain ⟨first, others, firstPassed, othersPassed, rfl⟩ :=
        Checked.combine_eq_ok_iff.mp passed
      obtain ⟨name, result, _, resultPassed, rfl⟩ := Checked.combine_eq_ok_iff.mp firstPassed
      refine List.forall_mem_cons.mpr ⟨?_, ?_⟩
      · exact finds genuine.1.2 (Checked.under_eq_ok_iff.mp resultPassed)
      · exact inductionHypothesis (Value.isGenuine_map_iff.mpr genuine.2) othersPassed

omit finds in
private theorem sort_of_mem_setUnder
    {entries : List (String × α)}
    (areSort : ∀ entry ∈ entries, sort entry.2)
    (name : String)
    {value : α}
    (isSort : sort value) :
    ∀ entry ∈ setUnder entries name value, sort entry.2 := by
  unfold setUnder
  split
  · refine List.forall_mem_map.mpr fun entry member => ?_
    split
    · exact isSort
    · exact areSort entry member
  · exact List.forall_mem_append.mpr ⟨areSort, List.forall_mem_singleton.mpr isSort⟩

omit finds in
private theorem sort_of_mem_lastOfEach
    {entries : List (String × α)}
    (areSort : ∀ entry ∈ entries, sort entry.2) :
    ∀ entry ∈ lastOfEach entries, sort entry.2 :=
  List.foldlRecOn (motive := fun kept : List (String × α) => ∀ entry ∈ kept, sort entry.2)
    entries _ (List.forall_mem_nil _) fun _ keptSort entry member =>
      sort_of_mem_setUnder keptSort entry.1 (areSort entry member)

theorem FindsInGenuine.mappingOf :
    FindsInGenuine (fun found => ∀ one ∈ found, sort one.2) (mappingOf check) := by
  intro value found genuine passed
  unfold Schema.mappingOf at passed
  split at passed
  · obtain ⟨read, entriesPassed, rfl⟩ := Checked.map_eq_ok_iff.mp passed
    exact sort_of_mem_lastOfEach (sort_of_checkEntries finds genuine entriesPassed)
  · obtain ⟨read, entriesPassed, rfl⟩ := Checked.map_eq_ok_iff.mp passed
    exact sort_of_mem_lastOfEach (sort_of_checkEntries finds genuine entriesPassed)
  · cases passed

/-- What a field of genuine entries gives is of the sort of its check if its default is. -/
theorem FindsInGenuine.optional
    {entries : List (Key × Value)}
    {name : String}
    {otherwise result : α}
    (genuine : (Value.map entries).IsGenuine)
    (isSort : sort otherwise)
    (passed : optional entries name otherwise check = .ok result) :
    sort result := by
  unfold Schema.optional at passed
  split at passed
  · next value isHeld =>
      exact finds (Value.isGenuine_of_lookup? genuine isHeld) (Checked.under_eq_ok_iff.mp passed)
  · cases passed
    exact isSort

end Entries

theorem findsInGenuine_recordOf
    {sort : α → Prop}
    {model : String}
    {read : List (Key × Value) → Checked α}
    (finds : ∀ ⦃entries result⦄, (Value.map entries).IsGenuine → read entries = .ok result →
      sort result) :
    FindsInGenuine sort (recordOf model read) := by
  intro value result genuine passed
  obtain ⟨entries, rfl | rfl, read⟩ := recordOf_eq_ok_iff.mp passed
  · exact finds genuine read
  · exact finds genuine read

/-! ## Completed items -/

private theorem isGenuine_of_isMetIn
    {item held : Value}
    (genuine : held.IsGenuine)
    (isMet : IsMetIn item held) :
    item.IsGenuine := by
  obtain ⟨items, areItems, member⟩ := isMet
  unfold itemsOf at areItems
  split at areItems
  · cases areItems
    exact Value.isGenuine_list_iff.mp genuine item member
  · cases areItems
    exact Value.isGenuine_list_iff.mp genuine item member
  · cases areItems
    exact @isGenuine_of_mem_listItems item (.pair _ _) genuine member
  · cases areItems
    exact @isGenuine_of_mem_listItems item (.set _) genuine member
  · cases areItems
    obtain ⟨entry, isThere, rfl⟩ := List.mem_map.mp member
    exact Key.isGenuine_toValue (Value.isGenuine_map_iff.mp genuine entry isThere).1
  · cases areItems
    obtain ⟨entry, isThere, rfl⟩ := List.mem_map.mp member
    exact Key.isGenuine_toValue (Value.isGenuine_map_iff.mp genuine entry isThere).1
  · cases areItems
    obtain ⟨c, _, rfl⟩ := List.mem_map.mp member
    trivial
  · cases areItems
    obtain ⟨point, isThere, rfl⟩ := List.mem_map.mp member
    exact (Text.Written.isGenuine_ofPoints
      (List.forall_mem_singleton.mpr (genuine.2 point isThere))).value
  · cases areItems
    obtain ⟨octet, _, rfl⟩ := List.mem_map.mp member
    trivial
  · cases areItems

private theorem isGenuine_complete
    {defaults : List (Key × Value)}
    {item : Value}
    (genuine : item.IsGenuine)
    (defaultsGenuine : (Value.map defaults).IsGenuine) :
    (complete defaults item).IsGenuine := by
  unfold complete
  split
  · exact Value.isGenuine_insertAll defaultsGenuine genuine
  · exact genuine
  · exact Value.isGenuine_insertAll defaultsGenuine genuine
  · exact genuine

private theorem isGenuine_completeItems
    {name : String}
    {defaults : Nat → List (Key × Value)}
    {entries completed : List (Key × Value)}
    (genuine : (Value.map entries).IsGenuine)
    (defaultsGenuine : ∀ index, (Value.map (defaults index)).IsGenuine)
    (isCompleted : completeItems name defaults entries = .ok completed) :
    (Value.map completed).IsGenuine := by
  unfold completeItems at isCompleted
  split at isCompleted
  · cases isCompleted
    exact genuine
  · next held isHeld =>
      split at isCompleted
      · obtain ⟨items, areItems, rfl⟩ := Checked.map_eq_ok_iff.mp isCompleted
        refine Value.isGenuine_insert genuine trivial (Value.isGenuine_list_iff.mpr ?_)
        intro item member
        obtain ⟨index, inBounds, rfl⟩ := List.mem_mapIdx.mp member
        have isMet : IsMetIn items[index] held := ⟨items, areItems, List.getElem_mem inBounds⟩
        have heldGenuine := Value.isGenuine_of_lookup? genuine isHeld
        exact isGenuine_complete (isGenuine_of_isMetIn heldGenuine isMet) (defaultsGenuine index)
      · cases isCompleted
        exact genuine

/-- Genuine entries stay genuine when the items of some fields are completed with what is
genuine. -/
theorem isGenuine_completeFields
    {fields : List (String × (Nat → List (Key × Value)))}
    {entries completed : List (Key × Value)}
    (genuine : (Value.map entries).IsGenuine)
    (defaultsGenuine : ∀ field ∈ fields, ∀ index, (Value.map (field.2 index)).IsGenuine)
    (isCompleted : completeFields fields entries = .ok completed) :
    (Value.map completed).IsGenuine := by
  induction fields generalizing entries with
  | nil =>
      cases isCompleted
      exact genuine
  | cons field rest inductionHypothesis =>
      obtain ⟨ofFirst, ofRest⟩ := List.forall_mem_cons.mp defaultsGenuine
      obtain ⟨between, firstCompleted, restCompleted⟩ := Checked.andThen_eq_ok_iff.mp isCompleted
      exact inductionHypothesis (isGenuine_completeItems genuine ofFirst firstCompleted) ofRest
        restCompleted

end TypeCatalog.Schema
