import TypeCatalog.Proofs.Json.Record
import TypeCatalog.Proofs.Json.Rendering
import TypeCatalog.Proofs.Json.Unambiguity
import TypeCatalog.Proofs.Value.UniqueKeys

namespace TypeCatalog.Json

/-!
# Reading back what was written

The text of a value is one document only: the one that it was written as.  It is a document of
RFC 8259 exactly if all numbers in the value are finite.  What the document stands for is the value
with texts in the place of what has no JSON form, unless two entries of a mapping get one name.
-/

/-! ## Documents without words for numbers -/

/-- Whether no word stands for a number in a document. -/
inductive Document.IsStandard : Document → Prop
  | null : IsStandard .null
  | bool (truth : Bool) : IsStandard (.bool truth)
  | number (value : Value) : IsStandard (.number value)
  | string (content : List Nat) : IsStandard (.string content)
  | array {items : List Document} (areStandard : ∀ item ∈ items, IsStandard item) :
      IsStandard (.array items)
  | object {members : List (List Nat × Document)}
      (areStandard : ∀ member ∈ members, IsStandard member.2) : IsStandard (.object members)

/-- Whether no word stands for a number in a phrase. -/
def Phrase.IsStandard : Phrase → Prop
  | .value document | .padded document | .member _ document => document.IsStandard
  | .items documents => ∀ document ∈ documents, document.IsStandard
  | .members listed => ∀ member ∈ listed, member.2.IsStandard

theorem Reads.isStandard
    {text rest : List Nat}
    {phrase : Phrase}
    (reads : Reads false text phrase rest) :
    phrase.IsStandard := by
  induction reads with
  | token rest isToken =>
      cases isToken with
      | word isWord =>
          simp only [documentWords, Bool.false_eq_true, if_false, List.append_nil,
            List.mem_cons, List.not_mem_nil, or_false, Prod.mk.injEq] at isWord
          rcases isWord with ⟨-, rfl⟩ | ⟨-, rfl⟩ | ⟨-, rfl⟩
          · exact Document.IsStandard.null
          · exact Document.IsStandard.bool true
          · exact Document.IsStandard.bool false
      | number => exact Document.IsStandard.number _
  | string => exact Document.IsStandard.string _
  | emptyArray => exact Document.IsStandard.array (List.forall_mem_nil _)
  | array _ areStandard => exact Document.IsStandard.array areStandard
  | emptyObject => exact Document.IsStandard.object (List.forall_mem_nil _)
  | object _ areStandard => exact Document.IsStandard.object areStandard
  | padded _ _ _ isStandard | member _ _ _ _ isStandard => exact isStandard
  | lastItem _ isStandard | lastMember _ isStandard =>
      exact List.forall_mem_singleton.mpr isStandard
  | item _ _ isStandard areStandard | memberAndOthers _ _ isStandard areStandard =>
      exact List.forall_mem_cons.mpr ⟨isStandard, areStandard⟩

/-- What is read without the words for numbers is read with them as well. -/
theorem Reads.extend
    {text rest : List Nat}
    {phrase : Phrase}
    (reads : Reads false text phrase rest) :
    Reads true text phrase rest := by
  induction reads with
  | token rest isToken =>
      refine .token rest ?_
      cases isToken with
      | word isWord =>
          exact .word (List.mem_append_left _ (by simpa [documentWords] using isWord))
      | number isNumber => exact .number isNumber
  | string reads => exact .string reads
  | emptyArray skips => exact .emptyArray skips
  | array _ reads => exact .array reads
  | emptyObject skips => exact .emptyObject skips
  | object _ reads => exact .object reads
  | padded before _ after reads => exact .padded before reads after
  | lastItem _ reads => exact .lastItem reads
  | item _ _ reads others => exact .item reads others
  | member before readsName after _ reads => exact .member before readsName after reads
  | lastMember _ reads => exact .lastMember reads
  | memberAndOthers _ _ reads others => exact .memberAndOthers reads others

private theorem isStandard_array_iff
    {items : List Document} :
    (Document.array items).IsStandard ↔ ∀ item ∈ items, item.IsStandard :=
  ⟨fun isStandard => by cases isStandard; assumption, .array⟩

private theorem isStandard_object_iff
    {members : List (List Nat × Document)} :
    (Document.object members).IsStandard ↔ ∀ member ∈ members, member.2.IsStandard :=
  ⟨fun isStandard => by cases isStandard; assumption, .object⟩

mutual

/-- No word stands for a number in the document of a value if all numbers in it are finite. -/
theorem isStandard_document_iff : (value : Value) → unwritable? value = none →
    ((document value).IsStandard ↔ value.IsFinite)
  | .null, _ => iff_of_true .null trivial
  | .bool truth, _ => iff_of_true (.bool truth) trivial
  | .int _, _ => iff_of_true (.number _) trivial
  | .float number, _ => by
      rw [document]
      split
      · next isFinite => exact iff_of_true (.number _) isFinite
      · next notFinite => exact iff_of_false nofun notFinite
  | .text _, _ | .unpaired _, _ | .bytes _, _ | .timestamp _, _ | .set _, _ =>
      iff_of_true (.string _) trivial
  | .again _, writable => by cases writable
  | .pair first second, writable => by
      obtain ⟨writableFirst, writableSecond⟩ := Option.or_eq_none_iff.mp writable
      rw [document, isStandard_array_iff, List.forall_mem_cons, List.forall_mem_singleton,
        isStandard_document_iff first writableFirst, isStandard_document_iff second writableSecond]
      exact Iff.rfl
  | .list items, writable => by
      rw [document, isStandard_array_iff, areStandard_documents_iff items writable]
      exact Iff.rfl
  | .map entries, writable => by
      rw [document, isStandard_object_iff, areStandard_members_iff entries writable]
      exact Iff.rfl

private theorem areStandard_documents_iff : (items : List Value) →
    unwritableWithin? items = none →
    ((∀ item ∈ documents items, item.IsStandard) ↔ Value.AreFinite items)
  | [], _ => iff_of_true nofun trivial
  | item :: rest, writable => by
      obtain ⟨writableFirst, writableRest⟩ := Option.or_eq_none_iff.mp writable
      rw [documents, List.forall_mem_cons, isStandard_document_iff item writableFirst,
        areStandard_documents_iff rest writableRest]
      exact Iff.rfl

private theorem areStandard_members_iff : (entries : List (Key × Value)) →
    unwritableAmong? entries = none →
    ((∀ member ∈ documentMembers entries, member.2.IsStandard) ↔ Value.HoldFinite entries)
  | [], _ => iff_of_true nofun trivial
  | (key, value) :: rest, writable => by
      obtain ⟨writableFirst, writableRest⟩ := Option.or_eq_none_iff.mp writable
      rw [documentMembers, List.forall_mem_cons,
        isStandard_document_iff value (Option.or_eq_none_iff.mp writableFirst).2,
        areStandard_members_iff rest writableRest]
      exact and_congr_left fun _ => (iff_of_eq (true_and _)).symm

end

/-- The text of a value is a document of RFC 8259 exactly if all numbers in the value are finite,
and then it is the document that the value was written as. -/
theorem isText_points_iff
    {layout : Layout}
    {depth : Nat}
    {value : Value}
    {found : Document}
    (genuine : value.IsGenuine)
    (writable : unwritable? value = none) :
    IsText false (points layout depth value) found ↔
      value.IsFinite ∧ found = document value := by
  have written : ∀ extended, (extended = false → value.IsFinite) →
      IsText extended (points layout depth value) (document value) := by
    intro extended finite
    have reads := reads_points layout depth value genuine finite []
    rw [List.append_nil] at reads
    exact .padded (.stop _) reads (.stop [])
  constructor
  · intro isText
    have isDocument : found = document value :=
      IsText.unique (Reads.extend isText) (written true nofun)
    refine ⟨(isStandard_document_iff value writable).mp ?_, isDocument⟩
    rw [← isDocument]
    exact Reads.isStandard isText
  · rintro ⟨finite, rfl⟩
    exact written false fun _ => finite
/-! ## What documents stand for -/

mutual

/-- The value that a document stands for: of members with one name, the last one wins. -/
def Document.value : Document → Value
  | .null => .null
  | .bool truth => .bool truth
  | .number value => value
  | .word number => .float number
  | .string content => .ofWritten (.ofPoints content)
  | .array items => .list (itemValues items)
  | .object members => .map (Value.collect (memberEntries members))

/-- The values that items stand for. -/
def itemValues : List Document → List Value
  | [] => []
  | item :: rest => item.value :: itemValues rest

/-- The entries that members stand for. -/
def memberEntries : List (List Nat × Document) → List (Key × Value)
  | [] => []
  | (name, document) :: rest => (.ofWritten (.ofPoints name), document.value) :: memberEntries rest

end

private theorem ofPoints_codes (content : String) :
    Text.Written.ofPoints (codes content.toList) = .whole content := by
  rw [Text.Written.ofPoints, codes, Text.any_isHalf_map_toNat, if_neg Bool.false_ne_true,
    Text.ofPoints, Text.map_characterOf_toNat, String.ofList_toList]

private theorem value_ofText (content : String) :
    (Document.ofText content).value = .text content := by
  rw [Document.ofText, Document.value, ofPoints_codes]
  rfl

private theorem ofPoints_of_isUnpairedText
    {points : List Nat}
    (isUnpaired : IsUnpairedText points) :
    Text.Written.ofPoints points = .unpaired points :=
  if_pos isUnpaired.1

private theorem ofPoints_namePoints
    {key : Key}
    (genuine : key.IsGenuine) :
    Key.ofWritten (.ofPoints (namePoints key)) = settledKey key := by
  cases key with
  | unpaired points =>
      rw [namePoints, ofPoints_of_isUnpairedText genuine]
      rfl
  | _ => exact congrArg Key.ofWritten (ofPoints_codes _)

mutual

/-- The document of a value stands for the value that is handed out in its place. -/
theorem value_document : (value : Value) → value.IsGenuine → unwritable? value = none →
    (document value).value = settled value
  | .null, _, _ | .bool _, _, _ | .int _, _, _ => rfl
  | .float number, _, _ => by
      rw [document]
      split <;> rfl
  | .text content, _, _ => value_ofText content
  | .bytes octets, _, _ => value_ofText (Text.quotedBytes octets)
  | .timestamp time, _, _ => value_ofText time.text
  | .set members, _, _ => value_ofText (Value.set members).display
  | .unpaired points, genuine, _ => by
      rw [document, Document.value, ofPoints_of_isUnpairedText genuine]
      rfl
  | .again _, _, writable => by cases writable
  | .pair first second, genuine, writable => by
      obtain ⟨writableFirst, writableSecond⟩ := Option.or_eq_none_iff.mp writable
      rw [document, Document.value, itemValues, itemValues, itemValues,
        value_document first genuine.1 writableFirst,
        value_document second genuine.2 writableSecond, settled]
  | .list items, genuine, writable => by
      rw [document, Document.value, itemValues_documents items genuine writable, settled]
  | .map entries, genuine, writable => by
      rw [document, Document.value, memberEntries_documentMembers entries genuine writable, settled]

private theorem itemValues_documents : (items : List Value) → Value.AreGenuine items →
    unwritableWithin? items = none → itemValues (documents items) = settledItems items
  | [], _, _ => rfl
  | item :: rest, genuine, writable => by
      obtain ⟨writableFirst, writableRest⟩ := Option.or_eq_none_iff.mp writable
      rw [documents, itemValues, value_document item genuine.1 writableFirst,
        itemValues_documents rest genuine.2 writableRest, settledItems]

private theorem memberEntries_documentMembers : (entries : List (Key × Value)) →
    Value.HoldGenuine entries → unwritableAmong? entries = none →
    memberEntries (documentMembers entries) = settledEntries entries
  | [], _, _ => rfl
  | (key, value) :: rest, genuine, writable => by
      obtain ⟨writableFirst, writableRest⟩ := Option.or_eq_none_iff.mp writable
      rw [documentMembers, memberEntries, ofPoints_namePoints genuine.1.1,
        value_document value genuine.1.2 (Option.or_eq_none_iff.mp writableFirst).2,
        memberEntries_documentMembers rest genuine.2 writableRest, settledEntries]

end

/-! ## Names that stand apart -/

mutual

/-- A value with texts in the place of what has no JSON form. -/
def replaced : Value → Value
  | .bytes octets => .text (Text.quotedBytes octets)
  | .timestamp time => .text time.text
  | .pair first second => .list [replaced first, replaced second]
  | .set members => .text (Value.set members).display
  | .list items => .list (replacedItems items)
  | .map entries => .map (replacedEntries entries)
  | value => value

/-- Items with texts in the place of what has no JSON form. -/
def replacedItems : List Value → List Value
  | [] => []
  | item :: rest => replaced item :: replacedItems rest

/-- Entries with texts in the place of what has no JSON form. -/
def replacedEntries : List (Key × Value) → List (Key × Value)
  | [] => []
  | (key, value) :: rest => (settledKey key, replaced value) :: replacedEntries rest

end

private theorem map_fst_settledEntries (entries : List (Key × Value)) :
    (settledEntries entries).map Prod.fst = (replacedEntries entries).map Prod.fst := by
  induction entries with
  | nil => rfl
  | cons entry rest inductionHypothesis =>
      rw [settledEntries, replacedEntries, List.map_cons, List.map_cons, inductionHypothesis]

private theorem differentKeys_iff_of_map_fst_eq
    {entries others : List (Key × Value)}
    (sameKeys : entries.map Prod.fst = others.map Prod.fst) :
    DifferentKeys entries ↔ DifferentKeys others := by
  have onKeys : ∀ list : List (Key × Value), DifferentKeys list ↔
      (list.map Prod.fst).Pairwise fun first second => first.same second = false := by
    intro list
    rw [List.pairwise_map]
    rfl
  rw [onKeys, onKeys, sameKeys]

/-- Entries are kept as they are exactly if no two get one name. -/
private theorem collect_settledEntries_iff
    {entries : List (Key × Value)} :
    Value.collect (settledEntries entries) = replacedEntries entries ↔
      DifferentKeys (replacedEntries entries) ∧
        settledEntries entries = replacedEntries entries := by
  have collected : DifferentKeys (settledEntries entries) →
      Value.collect (settledEntries entries) = settledEntries entries :=
    fun different => Value.insertAll_eq_append different
  have sameDifference := differentKeys_iff_of_map_fst_eq (map_fst_settledEntries entries)
  constructor
  · intro same
    have different : DifferentKeys (replacedEntries entries) := by
      rw [← same]
      exact Value.differentKeys_insertAll .nil _
    exact ⟨different, (collected (sameDifference.mpr different)).symm.trans same⟩
  · rintro ⟨different, same⟩
    rw [collected (sameDifference.mpr different), same]

/-- Fields under different names stay apart. -/
theorem hasUniqueKeys_record_iff
    {fields : List (String × Value)}
    (distinct : (fields.map Prod.fst).Nodup) :
    (Value.record fields).HasUniqueKeys ↔ ∀ field ∈ fields, field.2.HasUniqueKeys := by
  rw [Value.record, Value.hasUniqueKeys_map_iff, List.forall_mem_map]
  exact and_iff_right (Value.differentKeys_entriesOf distinct)

theorem replaced_record (fields : List (String × Value)) :
    replaced (.record fields) =
      .record (fields.map fun field => (field.1, replaced field.2)) := by
  rw [Value.record, replaced, Value.record]
  congr 1
  induction fields with
  | nil => rfl
  | cons field rest inductionHypothesis =>
      rw [List.map_cons, List.map_cons, List.map_cons, replacedEntries, inductionHypothesis]
      rfl

mutual

/-- What is handed out in the place of a value is the value with texts in it exactly if no mapping
has two entries with one name. -/
theorem settled_eq_replaced_iff : (value : Value) → unwritable? value = none →
    (settled value = replaced value ↔ (replaced value).HasUniqueKeys)
  | .null, _ | .bool _, _ | .int _, _ | .float _, _ | .text _, _ | .unpaired _, _ | .bytes _, _
  | .timestamp _, _ | .set _, _ => iff_of_true rfl (.single trivial)
  | .again _, writable => by cases writable
  | .pair first second, writable => by
      obtain ⟨writableFirst, writableSecond⟩ := Option.or_eq_none_iff.mp writable
      rw [settled, replaced, Value.hasUniqueKeys_list_iff, List.forall_mem_cons,
        List.forall_mem_singleton, ← settled_eq_replaced_iff first writableFirst,
        ← settled_eq_replaced_iff second writableSecond]
      simp
  | .list items, writable => by
      rw [settled, replaced, Value.hasUniqueKeys_list_iff, Value.list.injEq,
        settledItems_eq_replacedItems_iff items writable]
  | .map entries, writable => by
      rw [settled, replaced, Value.hasUniqueKeys_map_iff, Value.map.injEq, collect_settledEntries_iff,
        settledEntries_eq_replacedEntries_iff entries writable]

private theorem settledItems_eq_replacedItems_iff : (items : List Value) →
    unwritableWithin? items = none →
    (settledItems items = replacedItems items ↔
      ∀ item ∈ replacedItems items, item.HasUniqueKeys)
  | [], _ => iff_of_true rfl nofun
  | item :: rest, writable => by
      obtain ⟨writableFirst, writableRest⟩ := Option.or_eq_none_iff.mp writable
      rw [settledItems, replacedItems, List.cons.injEq, List.forall_mem_cons,
        settled_eq_replaced_iff item writableFirst,
        settledItems_eq_replacedItems_iff rest writableRest]

private theorem settledEntries_eq_replacedEntries_iff : (entries : List (Key × Value)) →
    unwritableAmong? entries = none →
    (settledEntries entries = replacedEntries entries ↔
      ∀ entry ∈ replacedEntries entries, entry.2.HasUniqueKeys)
  | [], _ => iff_of_true rfl nofun
  | (key, value) :: rest, writable => by
      obtain ⟨writableFirst, writableRest⟩ := Option.or_eq_none_iff.mp writable
      rw [settledEntries, replacedEntries, List.cons.injEq, Prod.mk.injEq, List.forall_mem_cons,
        ← settled_eq_replaced_iff value (Option.or_eq_none_iff.mp writableFirst).2,
        settledEntries_eq_replacedEntries_iff rest writableRest]
      simp

end

/-- Whether the text of a value is a document of RFC 8259 that stands for the value with texts in
the place of what has no JSON form. -/
def Renders (value : Value) : Prop :=
  ∃ found, IsText false (points .compact 0 value) found ∧ found.value = replaced value

theorem renders_iff
    {value : Value}
    (genuine : value.IsGenuine)
    (writable : unwritable? value = none) :
    Renders value ↔ value.IsFinite ∧ (replaced value).HasUniqueKeys := by
  simp only [Renders, isText_points_iff genuine writable]
  constructor
  · rintro ⟨_, ⟨finite, rfl⟩, isReplaced⟩
    rw [value_document value genuine writable] at isReplaced
    exact ⟨finite, (settled_eq_replaced_iff value writable).mp isReplaced⟩
  · rintro ⟨finite, unique⟩
    refine ⟨document value, ⟨finite, rfl⟩, ?_⟩
    rw [value_document value genuine writable]
    exact (settled_eq_replaced_iff value writable).mpr unique

end TypeCatalog.Json
