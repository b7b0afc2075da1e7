import Mathlib.Data.List.Forall2
import TypeCatalog.Proofs.Json.Record
import TypeCatalog.Proofs.Schema.Checked
import TypeCatalog.Proofs.Value.Entries

namespace TypeCatalog

/-!
# Values under names

Setting a value under a name changes what is found under that name and nothing else.  A record
passes the check of a mapping exactly when every field passes, and what passed stands under the
names of the fields, in their order.
-/

namespace Schema

variable {α β : Type}

/-! ## Setting values -/

private theorem lookup_replaced
    (entries : List (String × α))
    (name other : String)
    (value : α) :
    (entries.map fun entry => if entry.1 == name then (name, value) else entry).lookup other =
      if other = name then
        if (entries.any fun entry => entry.1 == name) = true then some value else none
      else entries.lookup other := by
  induction entries with
  | nil =>
      simp
  | cons entry rest inductionHypothesis =>
      obtain ⟨first, old⟩ := entry
      rw [List.map_cons, List.any_cons]
      by_cases isFirst : first = name
      · subst isFirst
        simp only [beq_self_eq_true, if_true, Bool.true_or, List.lookup_cons]
        by_cases isOther : other = first
        · simp [isOther]
        · rw [if_neg isOther] at inductionHypothesis ⊢
          rw [beq_eq_false_iff_ne.mpr isOther]
          exact inductionHypothesis
      · have notFirst : (first == name) = false :=
          beq_eq_false_iff_ne.mpr isFirst
        rw [notFirst, Bool.false_or, if_neg Bool.false_ne_true, List.lookup_cons,
          List.lookup_cons, inductionHypothesis]
        by_cases isOther : other = name
        · rw [isOther, beq_eq_false_iff_ne.mpr (Ne.symm isFirst)]
        · simp [isOther]

theorem lookup_setUnder_self
    (entries : List (String × α))
    (name : String)
    (value : α) :
    (setUnder entries name value).lookup name = some value := by
  unfold setUnder
  split
  · next isThere =>
      rw [lookup_replaced, if_pos rfl, if_pos isThere]
  · next notThere =>
      have nothing : entries.lookup name = none := by
        rw [List.lookup_eq_none_iff]
        intro entry member
        rw [bne_iff_ne]
        intro isName
        exact notThere (List.any_eq_true.mpr ⟨entry, member, by simp [isName]⟩)
      rw [List.lookup_append, nothing]
      simp

theorem lookup_setUnder_of_ne
    {name other : String}
    (entries : List (String × α))
    (value : α)
    (different : other ≠ name) :
    (setUnder entries name value).lookup other = entries.lookup other := by
  unfold setUnder
  split
  · rw [lookup_replaced, if_neg different]
  · have notName : (other == name) = false :=
      beq_eq_false_iff_ne.mpr different
    rw [List.lookup_append]
    simp [List.lookup_cons, notName]

/-- Under different names every value is found. -/
theorem lookup_of_mem
    {entries : List (String × α)}
    (distinct : (entries.map Prod.fst).Nodup)
    {entry : String × α}
    (member : entry ∈ entries) :
    entries.lookup entry.1 = some entry.2 := by
  induction entries with
  | nil =>
      cases member
  | cons first rest inductionHypothesis =>
      rw [List.map_cons, List.nodup_cons] at distinct
      rw [List.lookup_cons]
      rcases List.mem_cons.mp member with rfl | inRest
      · rw [beq_self_eq_true]
      · have notFirst : (entry.1 == first.1) = false := by
          rw [beq_eq_false_iff_ne]
          intro isFirst
          exact distinct.1 (isFirst ▸ List.mem_map_of_mem inRest)
        rw [notFirst]
        exact inductionHypothesis distinct.2 inRest

/-- What is found stands under its name. -/
theorem mem_of_lookup
    {entries : List (String × α)}
    {name : String}
    {value : α}
    (found : entries.lookup name = some value) :
    (name, value) ∈ entries := by
  obtain ⟨_, _, isSplit, _⟩ := List.lookup_eq_some_iff.mp found
  simp [isSplit]

/-- Values under a name are taken out together. -/
theorem lookup_without
    (entries : List (String × α))
    (name other : String) :
    (entries.filter fun entry => entry.1 != name).lookup other =
      if other = name then none else entries.lookup other := by
  induction entries with
  | nil =>
      simp
  | cons entry rest inductionHypothesis =>
      obtain ⟨first, value⟩ := entry
      by_cases isName : first = name
      · subst isName
        rw [List.filter_cons_of_neg (by simp), inductionHypothesis, List.lookup_cons]
        by_cases isOther : other = first
        · simp [isOther]
        · simp [isOther, beq_eq_false_iff_ne.mpr isOther]
      · rw [List.filter_cons_of_pos (by simpa using isName), List.lookup_cons, List.lookup_cons,
          inductionHypothesis]
        by_cases isOther : other = name
        · simp [isOther, beq_eq_false_iff_ne.mpr (Ne.symm isName)]
        · simp [isOther]

private theorem setUnder_of_fresh
    {entries : List (String × α)}
    {name : String}
    (fresh : name ∉ entries.map Prod.fst)
    (value : α) :
    setUnder entries name value = entries ++ [(name, value)] := by
  have notThere : (entries.any fun entry => entry.1 == name) = false := by
    rw [List.any_eq_false]
    intro entry member isName
    exact fresh (List.mem_map.mpr ⟨entry, member, by simpa using isName⟩)
  rw [setUnder, notThere, if_neg Bool.false_ne_true]

private theorem foldl_setUnder_of_nodup
    {kept entries : List (String × α)}
    (distinct : ((kept ++ entries).map Prod.fst).Nodup) :
    entries.foldl (fun kept entry => setUnder kept entry.1 entry.2) kept = kept ++ entries := by
  induction entries generalizing kept with
  | nil =>
      simp
  | cons entry rest inductionHypothesis =>
      have regrouped : kept ++ entry :: rest = (kept ++ [entry]) ++ rest := by
        simp
      have fresh : entry.1 ∉ kept.map Prod.fst := by
        rw [List.map_append, List.nodup_append] at distinct
        intro member
        exact distinct.2.2 _ member _ (by simp) rfl
      rw [regrouped] at distinct ⊢
      rw [List.foldl_cons, setUnder_of_fresh fresh]
      exact inductionHypothesis distinct

/-- Entries with different names are kept as they are. -/
theorem lastOfEach_of_nodup
    {entries : List (String × α)}
    (distinct : (entries.map Prod.fst).Nodup) :
    lastOfEach entries = entries :=
  @foldl_setUnder_of_nodup α [] entries distinct

end Schema

namespace Value

/-- Setting an entry under a name sets the field under it. -/
theorem insert_entriesOf_text
    (fields : List (String × Value))
    (name : String)
    (value : Value) :
    insert (entriesOf fields) (.text name) value =
      entriesOf (Schema.setUnder fields name value) := by
  have sameTest :
      ((entriesOf fields).any fun entry => entry.1.same (.text name)) =
        fields.any fun field => field.1 == name := by
    rw [entriesOf, List.any_map]
    congr 1
    funext field
    simp [beq_eq_decide]
  rw [insert, Key.insert, Schema.setUnder, sameTest]
  split
  · rw [entriesOf, entriesOf, List.map_map, List.map_map]
    refine List.map_congr_left fun field _ => ?_
    by_cases isName : field.1 = name <;> simp [isName]
  · simp [entriesOf]

end Value

namespace Schema

/-! ## Checking records -/

variable {check : Check α}

/-- A field that passed a check: what is found stands under the name of the field. -/
def PassesAs
    (check : Check α)
    (field : String × Value)
    (found : String × α) : Prop :=
  field.1 = found.1 ∧ check field.2 = .ok found.2

theorem checkEntries_entriesOf_eq_ok_iff
    {fields : List (String × Value)}
    {found : List (String × α)} :
    checkEntries check (Value.entriesOf fields) = .ok found ↔
      List.Forall₂ (PassesAs check) fields found := by
  induction fields generalizing found with
  | nil =>
      simp [Value.entriesOf, checkEntries, eq_comm]
  | cons field rest inductionHypothesis =>
      obtain ⟨name, value⟩ := field
      have nameRead : text (Key.text name).toValue = .ok name :=
        rfl
      have unfolded :
          checkEntries check (Value.entriesOf ((name, value) :: rest)) =
            Checked.combine List.cons
              (Checked.combine Prod.mk
                (((text (Key.text name).toValue).under (.field "[key]")).under
                  (stepOfKey (.text name)))
                ((check value).under (stepOfKey (.text name))))
              (checkEntries check (Value.entriesOf rest)) :=
        rfl
      simp only [unfolded, Checked.combine_eq_ok_iff, Checked.under_eq_ok_iff, nameRead,
        inductionHypothesis]
      constructor
      · rintro ⟨_, others, ⟨_, read, isName, passed, rfl⟩, passedToo, rfl⟩
        cases isName
        exact .cons ⟨rfl, passed⟩ passedToo
      · intro passed
        cases passed with
        | cons here inRest =>
            obtain ⟨isName, passed⟩ := here
            exact ⟨_, _, ⟨_, _, rfl, passed, rfl⟩, inRest, congrArg (· :: _) (Prod.ext isName rfl)⟩

theorem map_fst_of_passesAs
    {fields : List (String × Value)}
    {found : List (String × α)}
    (passed : List.Forall₂ (PassesAs check) fields found) :
    fields.map Prod.fst = found.map Prod.fst := by
  induction passed with
  | nil =>
      rfl
  | cons here _ inductionHypothesis =>
      rw [List.map_cons, List.map_cons, here.1, inductionHypothesis]

/-- What is found under a name is the field under it, checked. -/
theorem lookup_of_passesAs
    {fields : List (String × Value)}
    {found : List (String × α)}
    (passed : List.Forall₂ (PassesAs check) fields found)
    (name : String) :
    (fields.lookup name).map check = (found.lookup name).map .ok := by
  induction passed with
  | nil =>
      rfl
  | @cons field one _ _ here _ inductionHypothesis =>
      obtain ⟨isName, passedHere⟩ := here
      rw [List.lookup_cons, List.lookup_cons, ← isName]
      cases name == field.1 with
      | true =>
          simp [passedHere]
      | false =>
          exact inductionHypothesis

/-- Fields that passed still pass when a field with the same outcome takes the place of one. -/
theorem passesAs_setUnder
    {fields : List (String × Value)}
    {found : List (String × α)}
    {name : String}
    {value : Value}
    (passed : List.Forall₂ (PassesAs check) fields found)
    (isThere : name ∈ found.map Prod.fst)
    (sameOutcome : ∀ one ∈ found, one.1 = name → check value = .ok one.2) :
    List.Forall₂ (PassesAs check) (setUnder fields name value) found := by
  have isField : (fields.any fun field => field.1 == name) = true := by
    rw [← map_fst_of_passesAs passed] at isThere
    obtain ⟨field, member, isName⟩ := List.mem_map.mp isThere
    exact List.any_eq_true.mpr ⟨field, member, by simp [isName]⟩
  rw [setUnder, if_pos isField]
  clear isThere isField
  induction passed with
  | nil =>
      exact .nil
  | @cons field one _ _ here _ inductionHypothesis =>
      refine .cons ?_ (inductionHypothesis fun other member =>
        sameOutcome other (List.mem_cons_of_mem _ member))
      change PassesAs check (if field.1 == name then (name, value) else field) one
      by_cases isName : field.1 = name
      · rw [if_pos (by simpa using isName)]
        have oneIsName : one.1 = name := here.1.symm.trans isName
        exact ⟨oneIsName.symm, sameOutcome one List.mem_cons_self oneIsName⟩
      · rw [if_neg (by simpa using isName)]
        exact here

/-- A record of fields with different names passes exactly when every field passes. -/
theorem mappingOf_record_eq_ok_iff
    {fields : List (String × Value)}
    {found : List (String × α)}
    (distinct : (fields.map Prod.fst).Nodup) :
    mappingOf check (.record fields) = .ok found ↔
      List.Forall₂ (PassesAs check) fields found := by
  change (checkEntries check (Value.entriesOf fields)).map lastOfEach = .ok found ↔ _
  rw [Checked.map_eq_ok_iff]
  constructor
  · rintro ⟨read, passed, rfl⟩
    have passed := checkEntries_entriesOf_eq_ok_iff.mp passed
    rw [map_fst_of_passesAs passed] at distinct
    rw [lastOfEach_of_nodup distinct]
    exact passed
  · intro passed
    rw [map_fst_of_passesAs passed] at distinct
    exact ⟨found, checkEntries_entriesOf_eq_ok_iff.mpr passed, lastOfEach_of_nodup distinct⟩

private theorem lookup_foldl_setUnder
    {entries : List (Key × Value)}
    {name : String}
    (different : DifferentKeys entries)
    (inText : ∀ entry ∈ entries, text entry.1.toValue = .ok name → entry.1 = .text name)
    {read kept : List (String × α)}
    (passed : checkEntries check entries = .ok read) :
    ((read.foldl (fun kept entry => setUnder kept entry.1 entry.2) kept).lookup name).map .ok =
      ((Value.lookup? entries name).map check).or ((kept.lookup name).map .ok) := by
  induction entries generalizing read kept with
  | nil =>
      cases passed
      rfl
  | cons entry rest inductionHypothesis =>
      obtain ⟨key, value⟩ := entry
      obtain ⟨differHere, differInRest⟩ := List.pairwise_cons.mp different
      obtain ⟨inTextHere, inTextInRest⟩ := List.forall_mem_cons.mp inText
      unfold checkEntries at passed
      simp only [Checked.combine_eq_ok_iff, Checked.under_eq_ok_iff] at passed
      obtain ⟨_, others, ⟨content, result, isContent, passedHere, rfl⟩, passedToo, rfl⟩ := passed
      rw [List.foldl_cons, inductionHypothesis differInRest inTextInRest passedToo,
        Value.lookup?_cons]
      by_cases isName : key = .text name
      · subst isName
        cases isContent
        rw [Value.lookup?_eq_none_of_different differHere, lookup_setUnder_self, if_pos rfl]
        simp [passedHere]
      · have notName : name ≠ content := by
          rintro rfl
          exact isName (inTextHere isContent)
        rw [lookup_setUnder_of_ne _ _ notName, if_neg isName]

/-- What passed as a mapping is a mapping whose entries passed. -/
theorem checkEntries_of_mappingOf
    {value : Value}
    {found : List (String × α)}
    (passed : mappingOf check value = .ok found) :
    ∃ entries read, value.entries? = some entries ∧ checkEntries check entries = .ok read ∧
      found = lastOfEach read := by
  unfold mappingOf at passed
  split at passed
  · obtain ⟨read, entriesPassed, rfl⟩ := Checked.map_eq_ok_iff.mp passed
    exact ⟨_, read, rfl, entriesPassed, rfl⟩
  · obtain ⟨read, entriesPassed, rfl⟩ := Checked.map_eq_ok_iff.mp passed
    exact ⟨_, read, rfl, entriesPassed, rfl⟩
  · cases passed

/-- Where only one key is read as a name, what is found under the name is what stands under that
key, checked. -/
theorem lookup_of_mappingOf
    {value : Value}
    {entries : List (Key × Value)}
    {name : String}
    {found : List (String × α)}
    (areEntries : value.entries? = some entries)
    (different : DifferentKeys entries)
    (inText : ∀ entry ∈ entries, text entry.1.toValue = .ok name → entry.1 = .text name)
    (passed : mappingOf check value = .ok found) :
    (found.lookup name).map .ok = (Value.lookup? entries name).map check := by
  obtain ⟨_, read, areEntriesToo, entriesPassed, rfl⟩ := checkEntries_of_mappingOf passed
  rw [areEntries] at areEntriesToo
  cases areEntriesToo
  exact (lookup_foldl_setUnder different inText entriesPassed).trans Option.or_none

/-- Texts pass as a sequence of texts. -/
theorem sequenceOf_text_ofTexts (contents : List String) :
    sequenceOf text (.ofTexts contents) = .ok contents := by
  have fromAnyPosition (index : Nat) :
      checkItems text index (contents.map Value.text) = .ok contents := by
    induction contents generalizing index with
    | nil =>
        rfl
    | cons content rest inductionHypothesis =>
        rw [List.map_cons, checkItems, inductionHypothesis]
        rfl
  exact fromAnyPosition 0

end Schema

end TypeCatalog
