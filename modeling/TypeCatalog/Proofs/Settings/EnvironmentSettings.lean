import Mathlib.Data.List.Nodup
import TypeCatalog.Proofs.Json.ReadValues
import TypeCatalog.Proofs.Settings.Merging
import TypeCatalog.Proofs.Settings.UnreadableEnvironment

namespace TypeCatalog.Settings

/-!
# Settings that variables set one by one

Where every variable of a section names one setting, the environment says about a setting what the
variable with its name says.
-/

/-- The name of the variable for a setting, in lower case. -/
def Section.label
    (part : Section)
    (name : String) : String :=
  variableMark ++ part.name ++ "__" ++ name

/-- What a variable says about a setting: JSON if the setting holds several values. -/
def assigned?
    (bindings : List (Key × Value))
    (part : Section)
    (name : String) : Option Value :=
  match Value.lookup? bindings (part.label name) with
  | some (.text content) => (settingValue part [] name content).toOption
  | _ => none

/-- Whether a name in lower case is not the one of a variable for a whole section, and names one
setting if it is the one of a variable for less. -/
def Section.NamesSetting
    (part : Section)
    (label : String) : Prop :=
  label ≠ variableMark ++ part.name ∧
    ∀ names ∈ part.namesIn? label, ∃ name ∈ names, names = [name] ∧ settingName part name = name

instance
    (part : Section)
    (label : String) :
    Decidable (part.NamesSetting label) :=
  inferInstanceAs (Decidable (_ ∧ _))

/-- Whether every variable of a section names one setting, in its usual case once it is in lower
case. -/
def NameSettings (assignments : List (String × String)) : Prop :=
  ∀ assignment ∈ assignments, ∀ part ∈ sections, part.NamesSetting (lower assignment.1)

instance
    (assignments : List (String × String)) :
    Decidable (NameSettings assignments) :=
  inferInstanceAs (Decidable (∀ _ ∈ _, _))

/-! ## Names of variables -/

private theorem nameParts_ne_nil
    (done rest : List Char) :
    nameParts done rest ≠ [] := by
  fun_induction nameParts done rest <;> simp_all

private theorem eq_of_nameParts_eq_singleton
    {done rest : List Char}
    {name : String}
    (isOne : nameParts done rest = [name]) :
    name = String.ofList (done.reverse ++ rest) := by
  fun_induction nameParts done rest with
  | case1 done rest inductionHypothesis =>
      obtain ⟨-, isNil⟩ := List.cons.inj isOne
      exact (nameParts_ne_nil [] rest isNil).elim
  | case2 done c rest notCut inductionHypothesis =>
      rw [inductionHypothesis isOne, List.reverse_cons, List.append_assoc]
      rfl
  | case3 done =>
      rw [List.append_nil]
      exact (List.cons.inj isOne).1.symm

theorem Section.toList_label
    (part : Section)
    (name : String) :
    (part.label name).toList = (variableMark ++ part.name ++ "__").toList ++ name.toList :=
  String.toList_append

theorem Section.namesIn?_label
    (part : Section)
    (name : String) :
    part.namesIn? (part.label name) = some (nameParts [] name.toList) := by
  have isPrefix :
      (variableMark ++ part.name ++ "__").toList.isPrefixOf (part.label name).toList = true := by
    rw [toList_label, List.isPrefixOf_iff_prefix]
    exact List.prefix_append _ _
  simp only [namesIn?, isPrefix, if_true]
  rw [toList_label, List.drop_left]

theorem Section.eq_label_of_namesIn?
    {part : Section}
    {label name : String}
    (isNamed : part.namesIn? label = some [name]) :
    label = part.label name := by
  unfold namesIn? at isNamed
  extract_lets start at isNamed
  split at isNamed
  · next isPrefix =>
      have isName := eq_of_nameParts_eq_singleton (Option.some.inj isNamed)
      obtain ⟨rest, isRest⟩ := List.isPrefixOf_iff_prefix.mp isPrefix
      apply String.toList_inj.mp
      rw [toList_label, ← isRest, isName]
      simp [start, ← isRest]
  · cases isNamed

theorem Section.label_inj
    {part : Section}
    {name other : String}
    (isSame : part.label name = part.label other) :
    name = other := by
  have sameCharacters := congrArg String.toList isSame
  rw [toList_label, toList_label] at sameCharacters
  exact String.toList_inj.mp (List.append_cancel_left sameCharacters)

/-! ## Variables one after the other -/

private theorem addVariable_of_named
    {part : Section}
    {label name : String}
    (isNamed : part.namesIn? label = some [name])
    (entries : List (Key × Value))
    (content : String) :
    addVariable part entries (.text label, .text content) =
      (settingValue part [] name content).map fun value =>
        Value.insert entries (.text name) value := by
  unfold Section.namesIn? at isNamed
  extract_lets start at isNamed
  split at isNamed
  · next isPrefix =>
      have isOne : (nameParts [] (label.toList.drop start.length)).reverse = [name] := by
        rw [Option.some.inj isNamed]
        rfl
      simp only [addVariable]
      rw [if_pos isPrefix, isOne]
      rfl
  · cases isNamed

private theorem addVariable_of_unnamed
    {part : Section}
    {label : String}
    (notNamed : part.namesIn? label = none)
    (entries : List (Key × Value))
    (content : String) :
    addVariable part entries (.text label, .text content) = .ok entries := by
  unfold Section.namesIn? at notNamed
  extract_lets start at notNamed
  split at notNamed
  · cases notNamed
  · next noPrefix =>
      simp only [addVariable]
      rw [if_neg noPrefix]

/-- Whether an entry is a variable that names a setting, if it is one of a section. -/
private def IsNaming
    (part : Section)
    (entry : Key × Value) : Prop :=
  ∃ label content, entry = (.text label, .text content) ∧ part.NamesSetting label

/-- Variables with different names say together what each of them says. -/
private theorem assigned?_cons
    {entry : Key × Value}
    {rest : List (Key × Value)}
    (different : ∀ other ∈ rest, entry.1.same other.1 = false)
    (part : Section)
    (name : String) :
    assigned? (entry :: rest) part name =
      (assigned? rest part name).or (assigned? [entry] part name) := by
  unfold assigned?
  rw [Value.lookup?_cons, Value.lookup?_cons]
  by_cases isLabel : entry.1 = .text (part.label name)
  · rw [isLabel] at different
    rw [if_pos isLabel, Value.lookup?_eq_none_of_different different, if_pos isLabel]
    rfl
  · rw [if_neg isLabel, if_neg isLabel]
    exact (Option.or_none).symm

private theorem assigned?_singleton
    (part : Section)
    (label content name : String) :
    assigned? [(.text label, .text content)] part name =
      if label = part.label name then (settingValue part [] name content).toOption else none := by
  rw [assigned?, Value.lookup?_cons]
  by_cases isLabel : label = part.label name
  · rw [if_pos isLabel, if_pos (congrArg Key.text isLabel)]
  · rw [if_neg isLabel, if_neg fun isSame => isLabel (Key.text.inj isSame)]
    rfl

/-- What a variable that names a setting, if it is one of the section, does to the entries. -/
private inductive Adds
    (part : Section)
    (start : List (Key × Value)) : Key × Value → List (Key × Value) → Prop
  | nothing {label : String} (content : String) (notNamed : part.namesIn? label = none) :
      Adds part start (.text label, .text content) start
  | setting {name content : String} {value : Value} (isSetting : settingName part name = name)
      (isRead : settingValue part [] name content = .ok value) :
      Adds part start (.text (part.label name), .text content)
        (Value.insert start (.text name) value)

private theorem adds_of_addVariable
    {part : Section}
    {start next : List (Key × Value)}
    {entry : Key × Value}
    (isNaming : IsNaming part entry)
    (added : addVariable part start entry = .ok next) :
    Adds part start entry next := by
  obtain ⟨label, content, rfl, -, isOne⟩ := isNaming
  cases named : part.namesIn? label with
  | none =>
      rw [addVariable_of_unnamed named] at added
      cases added
      exact .nothing content named
  | some names =>
      obtain ⟨name, -, rfl, isSetting⟩ := isOne names named
      rw [addVariable_of_named named] at added
      obtain rfl := Section.eq_label_of_namesIn? named
      cases valueRead : settingValue part [] name content with
      | error crash =>
          rw [valueRead] at added
          cases added
      | ok value =>
          rw [valueRead] at added
          cases added
          exact .setting isSetting valueRead

private theorem exists_of_foldlM_cons
    {part : Section}
    {start done : List (Key × Value)}
    {entry : Key × Value}
    {rest : List (Key × Value)}
    (isNaming : IsNaming part entry)
    (isRead : (entry :: rest).foldlM (addVariable part) start = .ok done) :
    ∃ next, Adds part start entry next ∧ rest.foldlM (addVariable part) next = .ok done := by
  rw [List.foldlM_cons] at isRead
  cases added : addVariable part start entry with
  | error crash =>
      rw [added] at isRead
      cases isRead
  | ok next =>
      rw [added] at isRead
      exact ⟨next, adds_of_addVariable isNaming added, isRead⟩

private theorem Adds.lookup?_eq
    {part : Section}
    {start next : List (Key × Value)}
    {entry : Key × Value}
    (adds : Adds part start entry next)
    (name : String) :
    Value.lookup? next name = (assigned? [entry] part name).or (Value.lookup? start name) := by
  cases adds with
  | nothing content notNamed =>
      rw [assigned?_singleton, if_neg]
      · rfl
      · rintro rfl
        rw [Section.namesIn?_label] at notNamed
        cases notNamed
  | @setting other content value isSetting isRead =>
      rw [assigned?_singleton]
      by_cases isName : other = name
      · subst isName
        rw [if_pos rfl, isRead, Value.lookup?_insert_self]
        rfl
      · rw [if_neg fun isSame => isName (Section.label_inj isSame),
          Value.lookup?_insert_of_ne _ _ (Ne.symm isName)]
        rfl

private theorem lookup?_foldlM_addVariable
    {part : Section}
    {bindings start done : List (Key × Value)}
    (different : DifferentKeys bindings)
    (areNaming : ∀ entry ∈ bindings, IsNaming part entry)
    (isRead : bindings.foldlM (addVariable part) start = .ok done)
    (name : String) :
    Value.lookup? done name = (assigned? bindings part name).or (Value.lookup? start name) := by
  induction bindings generalizing start with
  | nil =>
      cases isRead
      rfl
  | cons entry rest inductionHypothesis =>
      obtain ⟨differHere, differInRest⟩ := List.pairwise_cons.mp different
      obtain ⟨isNaming, areNamingInRest⟩ := List.forall_mem_cons.mp areNaming
      obtain ⟨next, adds, restRead⟩ := exists_of_foldlM_cons isNaming isRead
      rw [inductionHypothesis differInRest areNamingInRest restRead, adds.lookup?_eq,
        assigned?_cons differHere, Option.or_assoc]

/-! ## Settings of a section -/

private theorem hasUniqueKeys_of_settingValue
    {part : Section}
    {path : List String}
    {name content : String}
    {value : Value}
    (isRead : settingValue part path name content = .ok value) :
    value.HasUniqueKeys := by
  unfold settingValue at isRead
  split at isRead
  · unfold readJson at isRead
    split at isRead
    · next read =>
        cases isRead
        exact Json.hasUniqueKeys_of_read read
    · cases isRead
  · cases isRead
    exact .single trivial

/-- Whether entries are settings of a section, each once. -/
private def AreSettings
    (part : Section)
    (entries : List (Key × Value)) : Prop :=
  (Value.map entries).HasUniqueKeys ∧
    ∀ entry ∈ entries, ∃ name, entry.1 = .text name ∧ settingName part name = name

private theorem Adds.areSettings
    {part : Section}
    {start next : List (Key × Value)}
    {entry : Key × Value}
    (adds : Adds part start entry next)
    (areSettings : AreSettings part start) :
    AreSettings part next := by
  cases adds with
  | nothing =>
      exact areSettings
  | @setting name content value isSetting isRead =>
      refine ⟨areSettings.1.insert _ (hasUniqueKeys_of_settingValue isRead), ?_⟩
      intro entry member
      rcases Value.key_of_mem_insert member with isNew | ⟨before, wasThere, isSame⟩
      · exact ⟨name, isNew, isSetting⟩
      · rw [← isSame]
        exact areSettings.2 before wasThere

private theorem areSettings_foldlM_addVariable
    {part : Section}
    {bindings start done : List (Key × Value)}
    (areSettings : AreSettings part start)
    (areNaming : ∀ entry ∈ bindings, IsNaming part entry)
    (isRead : bindings.foldlM (addVariable part) start = .ok done) :
    AreSettings part done := by
  induction bindings generalizing start with
  | nil =>
      cases isRead
      exact areSettings
  | cons entry rest inductionHypothesis =>
      obtain ⟨isNaming, areNamingInRest⟩ := List.forall_mem_cons.mp areNaming
      obtain ⟨next, adds, restRead⟩ := exists_of_foldlM_cons isNaming isRead
      exact inductionHypothesis (adds.areSettings areSettings) areNamingInRest restRead

/-- Settings of a section have their usual names already. -/
private theorem withSettingNames_eq_collect
    {part : Section}
    {entries : List (Key × Value)}
    (areSettings : AreSettings part entries) :
    withSettingNames part entries = Value.collect entries := by
  unfold withSettingNames
  congr 1
  refine (List.map_congr_left fun entry member => ?_).trans (List.map_id entries)
  obtain ⟨key, value⟩ := entry
  obtain ⟨name, isName, isSetting⟩ := areSettings.2 _ member
  subst isName
  simp [isSetting]

/-! ## Sections -/

/-- Entries that say for each section what is said about it. -/
def entriesOfSections (said : Section → Option Value) : List (Key × Value) :=
  sections.filterMap fun part => (said part).map fun value => (Key.text part.name, value)

private theorem nodup_names : (sections.map Section.name).Nodup := by
  decide

private theorem mem_entriesOfSections_iff
    {said : Section → Option Value}
    {entry : Key × Value} :
    entry ∈ entriesOfSections said ↔
      ∃ part ∈ sections, entry.1 = .text part.name ∧ said part = some entry.2 := by
  obtain ⟨key, value⟩ := entry
  simp only [entriesOfSections, List.mem_filterMap, Option.map_eq_some_iff, Prod.mk.injEq]
  constructor
  · rintro ⟨part, isSection, _, isSaid, rfl, rfl⟩
    exact ⟨part, isSection, rfl, isSaid⟩
  · rintro ⟨part, isSection, rfl, isSaid⟩
    exact ⟨part, isSection, value, isSaid, rfl, rfl⟩

private theorem differentKeys_entriesOfSections
    (said : Section → Option Value) :
    DifferentKeys (entriesOfSections said) := by
  refine List.pairwise_filterMap.mpr ((List.pairwise_map.mp nodup_names).imp ?_)
  rintro first second differ _ isFirst _ isSecond
  obtain ⟨_, _, rfl⟩ := Option.map_eq_some_iff.mp isFirst
  obtain ⟨_, _, rfl⟩ := Option.map_eq_some_iff.mp isSecond
  rw [← Bool.not_eq_true, Key.same_text_iff]
  exact fun isSame => differ (Key.text.inj isSame)

theorem hasUniqueKeys_entriesOfSections
    {said : Section → Option Value}
    (unique : ∀ part ∈ sections, ∀ value, said part = some value → value.HasUniqueKeys) :
    (Value.map (entriesOfSections said)).HasUniqueKeys := by
  refine .map (differentKeys_entriesOfSections said) fun entry member => ?_
  obtain ⟨part, isSection, -, isSaid⟩ := mem_entriesOfSections_iff.mp member
  exact unique part isSection entry.2 isSaid

theorem lookup?_entriesOfSections
    (said : Section → Option Value)
    {part : Section}
    (isSection : part ∈ sections) :
    Value.lookup? (entriesOfSections said) part.name = said part := by
  refine Option.ext fun value => ⟨fun found => ?_, fun isSaid => ?_⟩
  · obtain ⟨other, isSectionToo, isName, isSaid⟩ :=
      mem_entriesOfSections_iff.mp (Value.mem_of_lookup? found)
    have isSame := List.inj_on_of_nodup_map nodup_names isSection isSectionToo (Key.text.inj isName)
    rw [isSame]
    exact isSaid
  · exact Value.lookup?_of_mem (differentKeys_entriesOfSections said)
      (mem_entriesOfSections_iff.mpr ⟨part, isSection, rfl, isSaid⟩)

/-! ## The environment -/

private theorem isNaming_of_mem_loweredVariables
    {assignments : List (String × String)}
    (nameSettings : NameSettings assignments)
    {part : Section}
    (isSection : part ∈ sections)
    {entry : Key × Value}
    (member : entry ∈ loweredVariables assignments) :
    IsNaming part entry := by
  have ofAssignment : ∀ other ∈ assignments.map fun assignment =>
      (Key.text (lower assignment.1), Value.text assignment.2),
      ∃ assignment ∈ assignments, other = (.text (lower assignment.1), .text assignment.2) := by
    intro other isAdded
    obtain ⟨assignment, isAssignment, rfl⟩ := List.mem_map.mp isAdded
    exact ⟨assignment, isAssignment, rfl⟩
  obtain ⟨other, isAdded, sameKey⟩ := (Value.key_of_mem_insertAll member).resolve_right (by simp)
  obtain ⟨another, isAddedToo, sameValue⟩ :=
    (Value.value_of_mem_insertAll member).resolve_right (by simp)
  obtain ⟨assignment, isAssignment, rfl⟩ := ofAssignment other isAdded
  obtain ⟨valued, _, rfl⟩ := ofAssignment another isAddedToo
  exact ⟨lower assignment.1, valued.2, Prod.ext sameKey.symm sameValue,
    nameSettings assignment isAssignment part isSection⟩

/-- What is read for a section under each name is what its variable says. -/
private theorem under?_sectionValue?
    {assignments : List (String × String)}
    (nameSettings : NameSettings assignments)
    {part : Section}
    (isSection : part ∈ sections)
    {value? : Option Value}
    (isRead : sectionValue? (loweredVariables assignments) part = .ok value?) :
    (∀ name, under? value? name = assigned? (loweredVariables assignments) part name) ∧
      ∀ value, value? = some value → value.HasUniqueKeys := by
  have areNaming : ∀ entry ∈ loweredVariables assignments, IsNaming part entry :=
    fun entry member => isNaming_of_mem_loweredVariables nameSettings isSection member
  have notWhole :
      Value.lookup? (loweredVariables assignments) (variableMark ++ part.name) = none := by
    refine Option.eq_none_iff_forall_not_mem.mpr fun value found => ?_
    obtain ⟨label, content, isVariable, notSection, -⟩ := areNaming _ (Value.mem_of_lookup? found)
    exact notSection (Key.text.inj (Prod.ext_iff.mp isVariable).1).symm
  simp only [sectionValue?, notWhole] at isRead
  cases separately : separateSettings part (loweredVariables assignments) with
  | error crash =>
      rw [separately] at isRead
      cases isRead
  | ok settings =>
      have areSettings : AreSettings part settings :=
        areSettings_foldlM_addVariable ⟨.map .nil (by simp), by simp⟩ areNaming separately
      have settingsRead := lookup?_foldlM_addVariable
        (Value.differentKeys_insertAll .nil _) areNaming separately
      rw [separately] at isRead
      cases isRead
      split
      · next isEmpty =>
          refine ⟨fun name => ?_, by simp⟩
          have saidIs := settingsRead name
          rw [List.isEmpty_iff.mp isEmpty] at saidIs
          exact saidIs.trans Option.or_none
      · rw [withSettingNames_eq_collect areSettings]
        refine ⟨fun name => ?_, ?_⟩
        · have collected := Value.lookup?_insertAll areSettings.1.entries.1 [] name
          exact collected.trans (Option.or_none.trans ((settingsRead name).trans Option.or_none))
        · rintro _ ⟨⟩
          exact Value.hasUniqueKeys_collect areSettings.1.entries.2

/-- If all items are read, what is found is what is read for each of them. -/
private theorem eq_map_of_mapM
    {ε α β γ : Type}
    {read : α → Except ε (Option β)}
    {mark : α → β → γ}
    {items : List α}
    {found : List (Option γ)}
    (isRead :
      (items.mapM fun item => do
        let said? ← read item
        return said?.map (mark item)) = .ok found) :
    ∃ said : α → Option β, found = items.map (fun item => (said item).map (mark item)) ∧
      ∀ item ∈ items, read item = .ok (said item) := by
  refine ⟨fun item => (read item).toOption.join, ?_⟩
  induction items generalizing found with
  | nil =>
      cases isRead
      simp
  | cons item rest inductionHypothesis =>
      rw [List.mapM_cons] at isRead
      cases first : read item with
      | error failure =>
          simp only [first] at isRead
          cases isRead
      | ok said? =>
          simp only [first] at isRead
          cases others : (rest.mapM fun item => do
              let said? ← read item
              return said?.map (mark item)) with
          | error failure =>
              simp only [others] at isRead
              cases isRead
          | ok results =>
              simp only [others] at isRead
              cases isRead
              obtain ⟨areResults, areRead⟩ := inductionHypothesis others
              refine ⟨?_, List.forall_mem_cons.mpr ⟨?_, areRead⟩⟩
              · simp only [List.map_cons, first, areResults]
                rfl
              · simp only [first]
                rfl

/-- What is read from the environment is what is read for each section. -/
private theorem eq_entriesOfSections_of_ofEnvironment
    {assignments : List (String × String)}
    {entries : List (Key × Value)}
    (isRead : ofEnvironment assignments = .ok entries) :
    ∃ said : Section → Option Value, entries = entriesOfSections said ∧
      ∀ part ∈ sections, sectionValue? (loweredVariables assignments) part = .ok (said part) := by
  unfold ofEnvironment at isRead
  cases mapped : (sections.mapM fun part => do
      let value? ← sectionValue? (loweredVariables assignments) part
      return value?.map fun value => (Key.text part.name, value)) with
  | error crash =>
      rw [mapped] at isRead
      cases isRead
  | ok found =>
      rw [mapped] at isRead
      cases isRead
      obtain ⟨said, rfl, areRead⟩ := eq_map_of_mapM mapped
      exact ⟨said, List.filterMap_map, areRead⟩

/-- Under a name in a section, the environment says what the variable with that name says. -/
theorem under?_ofEnvironment
    {assignments : List (String × String)}
    {entries : List (Key × Value)}
    (nameSettings : NameSettings assignments)
    (isRead : ofEnvironment assignments = .ok entries)
    {part : Section}
    (isSection : part ∈ sections)
    (name : String) :
    under? (Value.lookup? entries part.name) name =
      assigned? (loweredVariables assignments) part name := by
  obtain ⟨said, rfl, sectionsRead⟩ := eq_entriesOfSections_of_ofEnvironment isRead
  rw [lookup?_entriesOfSections said isSection]
  exact (under?_sectionValue? nameSettings isSection (sectionsRead part isSection)).1 name

/-- The settings in the environment have unique keys. -/
theorem hasUniqueKeys_ofEnvironment
    {assignments : List (String × String)}
    {entries : List (Key × Value)}
    (nameSettings : NameSettings assignments)
    (isRead : ofEnvironment assignments = .ok entries) :
    (Value.map entries).HasUniqueKeys := by
  obtain ⟨said, rfl, sectionsRead⟩ := eq_entriesOfSections_of_ofEnvironment isRead
  exact hasUniqueKeys_entriesOfSections fun part isSection =>
    (under?_sectionValue? nameSettings isSection (sectionsRead part isSection)).2

end TypeCatalog.Settings
