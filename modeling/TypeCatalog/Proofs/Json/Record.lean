import Mathlib.Data.List.Nodup
import TypeCatalog.Json.Printer
import TypeCatalog.Proofs.Value.Entries

namespace TypeCatalog

/-!
# Records

A record whose fields have different names is settled field by field, and it can be written only
if each of its fields can.
-/

namespace Key

@[simp] theorem same_text (first second : String) :
    (Key.text first).same (.text second) = decide (first = second) := by
  simp [same, normalized]

end Key

namespace Value

/-- Fields under names as entries of a mapping. -/
def entriesOf (fields : List (String × Value)) : List (Key × Value) :=
  fields.map fun field => (Key.text field.1, field.2)

theorem differentKeys_entriesOf
    {fields : List (String × Value)}
    (distinct : (fields.map Prod.fst).Nodup) :
    DifferentKeys (entriesOf fields) := by
  refine List.pairwise_map.mpr ((List.pairwise_map.mp distinct).imp fun {first second} differ => ?_)
  rw [Key.same_text, decide_eq_false_iff_not]
  exact differ

private theorem insert_entriesOf
    {fields : List (String × Value)}
    {field : String × Value}
    (fresh : field.1 ∉ fields.map Prod.fst) :
    insert (entriesOf fields) (.text field.1) field.2 = entriesOf (fields ++ [field]) := by
  have noSame :
      ((entriesOf fields).any fun entry => entry.1.same (.text field.1)) = false := by
    rw [List.any_eq_false]
    intro entry member
    obtain ⟨other, inFields, rfl⟩ := List.mem_map.mp member
    rw [Key.same_text, decide_eq_true_eq]
    intro sameName
    exact fresh (List.mem_map.mpr ⟨other, inFields, sameName⟩)
  rw [insert, Key.insert, noSame]
  simp [entriesOf]

private theorem insertAll_entriesOf
    {fields added : List (String × Value)}
    (distinct : ((fields ++ added).map Prod.fst).Nodup) :
    insertAll (entriesOf fields) (entriesOf added) = entriesOf (fields ++ added) := by
  induction added generalizing fields with
  | nil =>
      simp [insertAll, entriesOf]
  | cons field rest inductionHypothesis =>
      have regrouped : fields ++ field :: rest = (fields ++ [field]) ++ rest := by
        simp
      have fresh : field.1 ∉ fields.map Prod.fst := by
        rw [List.map_append, List.nodup_append] at distinct
        intro member
        exact distinct.2.2 _ member _ (by simp) rfl
      rw [regrouped] at distinct ⊢
      rw [← inductionHypothesis distinct, ← insert_entriesOf fresh]
      rfl

/-- The field of a record under a name. -/
@[simp] theorem field?_record
    (fields : List (String × Value))
    (name : String) :
    (record fields).field? name = fields.lookup name := by
  simp only [record, field?, lookup?]
  induction fields with
  | nil =>
      rfl
  | cons field rest inductionHypothesis =>
      obtain ⟨otherName, value⟩ := field
      rw [List.map_cons, List.find?_cons, List.lookup_cons]
      by_cases sameName : name = otherName
      · simp [sameName]
      · have different : (name == otherName) = false := beq_eq_false_iff_ne.mpr sameName
        have keysDifferent : (Key.text otherName == Key.text name) = false := by
          rw [beq_eq_false_iff_ne]
          intro same
          exact sameName (Key.text.inj same).symm
        rw [different, keysDifferent]
        exact inductionHypothesis

/-- Behind fields with other names a field is found as if these were not there. -/
theorem lookup_append_of_nodup
    {before after : List (String × Value)}
    {name : String}
    (distinct : ((before ++ after).map Prod.fst).Nodup)
    (member : name ∈ after.map Prod.fst) :
    (before ++ after).lookup name = after.lookup name := by
  rw [List.map_append, List.nodup_append] at distinct
  have notBefore : before.lookup name = none := by
    rw [List.lookup_eq_none_iff]
    intro field inBefore
    exact bne_iff_ne.mpr
      (distinct.2.2 field.1 (List.mem_map_of_mem inBefore) name member).symm
  rw [List.lookup_append, notBefore]
  rfl

end Value

namespace Json

private theorem settledEntries_entriesOf (fields : List (String × Value)) :
    settledEntries (Value.entriesOf fields) =
      Value.entriesOf (fields.map fun field => (field.1, settled field.2)) := by
  induction fields with
  | nil =>
      rfl
  | cons field rest inductionHypothesis =>
      change (Key.text field.1, settled field.2) :: settledEntries (Value.entriesOf rest) = _
      rw [inductionHypothesis]
      rfl

/-- A record whose fields have different names is settled field by field. -/
theorem settled_record
    {fields : List (String × Value)}
    (distinct : (fields.map Prod.fst).Nodup) :
    settled (.record fields) =
      .record (fields.map fun field => (field.1, settled field.2)) := by
  let after := fields.map fun field => (field.1, settled field.2)
  have distinctAfter : (([] ++ after).map Prod.fst).Nodup := by
    simpa [after, Function.comp_def] using distinct
  change Value.map (Value.collect (settledEntries (Value.entriesOf fields))) =
    Value.map (Value.entriesOf after)
  rw [settledEntries_entriesOf]
  exact congrArg Value.map (Value.insertAll_entriesOf distinctAfter)

/-- A field of a settled record is the settled field of the record. -/
theorem field?_settled_record
    {fields : List (String × Value)}
    (distinct : (fields.map Prod.fst).Nodup)
    (name : String) :
    (settled (.record fields)).field? name = (fields.lookup name).map settled := by
  rw [settled_record distinct, Value.field?_record]
  clear distinct
  induction fields with
  | nil =>
      rfl
  | cons field rest inductionHypothesis =>
      rw [List.map_cons, List.lookup_cons, List.lookup_cons, inductionHypothesis]
      cases name == field.1 <;> rfl

/-- Items are settled one by one. -/
theorem settledItems_eq_map (items : List Value) :
    settledItems items = items.map settled := by
  induction items with
  | nil =>
      rfl
  | cons item rest inductionHypothesis =>
      rw [settledItems, inductionHypothesis, List.map_cons]

/-- A record can be written if each of its fields can. -/
theorem unwritable?_record_eq_none_iff
    {fields : List (String × Value)} :
    unwritable? (.record fields) = none ↔ ∀ field ∈ fields, unwritable? field.2 = none := by
  rw [Value.record, unwritable?]
  induction fields with
  | nil => exact iff_of_true rfl nofun
  | cons field rest inductionHypothesis =>
      rw [List.map_cons, unwritableAmong?, Option.or_eq_none_iff, inductionHypothesis,
        List.forall_mem_cons]
      exact Iff.rfl

/-- Every field of a record that can be written can be written. -/
theorem unwritable?_of_mem_record
    {fields : List (String × Value)}
    {field : String × Value}
    (writable : unwritable? (.record fields) = none)
    (member : field ∈ fields) :
    unwritable? field.2 = none :=
  unwritable?_record_eq_none_iff.mp writable field member

end Json

end TypeCatalog
