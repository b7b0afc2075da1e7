import TypeCatalog.Proofs.Schema.Checked
import TypeCatalog.Schema.Checked

namespace TypeCatalog.Schema

/-!
# Checks that crash

A check made of checks of parts crashes exactly when one of them does, whatever is wrong with the
other parts.  Checks of single values never crash: all that can be wrong with a value is found as an
issue.  Only items that are run through before they are checked, and shorthand texts, can make a
check crash.
-/

namespace Checked

variable {α β γ : Type}

/-- Whether a check ended without a result and without an issue. -/
def Crashes (checked : Checked α) : Prop :=
  ∃ crash, checked = .crashed crash

@[simp]
theorem not_crashes_ok
    (result : α) :
    ¬ (Checked.ok result).Crashes := by
  simp [Crashes]

@[simp]
theorem not_crashes_rejected
    (issues : List Issue) :
    ¬ (Checked.rejected issues : Checked α).Crashes := by
  simp [Crashes]

@[simp]
theorem not_crashes_reject
    (message : String)
    (input : Value) :
    ¬ (Checked.reject message input : Checked α).Crashes :=
  not_crashes_rejected _

@[simp]
theorem crashes_crashed
    (crash : Crash) :
    (Checked.crashed crash : Checked α).Crashes :=
  ⟨crash, rfl⟩

@[simp]
theorem crashes_ite_iff
    {condition : Prop}
    [Decidable condition]
    {first second : Checked α} :
    (if condition then first else second).Crashes ↔
      if condition then first.Crashes else second.Crashes := by
  split <;> rfl

@[simp]
theorem crashes_combine_iff
    {f : α → β → γ}
    {first : Checked α}
    {second : Checked β} :
    (combine f first second).Crashes ↔ first.Crashes ∨ second.Crashes := by
  cases first <;> cases second <;> simp [combine, Crashes]

@[simp]
theorem crashes_map_iff
    {f : α → β}
    {checked : Checked α} :
    (checked.map f).Crashes ↔ checked.Crashes := by
  cases checked <;> simp [map, Crashes]

@[simp]
theorem crashes_functor_map_iff
    {f : α → β}
    {checked : Checked α} :
    (f <$> checked).Crashes ↔ checked.Crashes :=
  crashes_map_iff

@[simp]
theorem crashes_seq_iff
    {f : Checked (α → β)}
    {checked : Checked α} :
    (f <*> checked).Crashes ↔ f.Crashes ∨ checked.Crashes :=
  crashes_combine_iff

@[simp]
theorem crashes_under_iff
    {step : Step}
    {checked : Checked α} :
    (checked.under step).Crashes ↔ checked.Crashes := by
  cases checked <;> simp [under, Crashes]

@[simp]
theorem crashes_andThen_iff
    {checked : Checked α}
    {next : α → Checked β} :
    (checked.andThen next).Crashes ↔
      checked.Crashes ∨ ∃ result, checked = .ok result ∧ (next result).Crashes := by
  cases checked <;> simp [andThen, Crashes]

@[simp]
theorem andThen_ok
    (checked : Checked α) :
    (checked.andThen fun result => .ok result) = checked := by
  cases checked <;> rfl

theorem andThen_assoc
    (checked : Checked α)
    (next : α → Checked β)
    (last : β → Checked γ) :
    (checked.andThen next).andThen last =
      checked.andThen fun result => (next result).andThen last := by
  cases checked <;> rfl

end Checked

/-! ## Parts of values -/

/-- The entries of a mapping that is read as a model; any other value has none. -/
def modelEntries : Value → List (Key × Value)
  | .map entries => entries
  | .again (.map entries) => entries
  | _ => []

/-- The items of a value that is taken as a list; any other value has none. -/
def listItems : Value → List Value
  | .list items => items
  | .again (.list items) => items
  | .pair first second => [first, second]
  | .set members => members.map Key.toValue
  | _ => []

/-- Whether a value is read as a model and has a field whose value is of some sort. -/
def HasField
    (name : String)
    (sort : Value → Prop)
    (value : Value) : Prop :=
  ∃ held, Value.lookup? (modelEntries value) name = some held ∧ sort held

/-- Whether a value is taken as a list and has an item of some sort. -/
def HasItem
    (sort : Value → Prop)
    (value : Value) : Prop :=
  ∃ item ∈ listItems value, sort item

variable {α : Type}

theorem crashes_recordOf_iff
    {model : String}
    {read : List (Key × Value) → Checked α}
    {value : Value}
    (noEntries : ¬ (read []).Crashes) :
    (recordOf model read value).Crashes ↔ (read (modelEntries value)).Crashes := by
  unfold recordOf modelEntries
  split
  · rfl
  · rfl
  · simp [noEntries]

theorem crashes_required_iff
    {entries : List (Key × Value)}
    {name : String}
    {check : Check α} :
    (required entries name check).Crashes ↔
      ∃ held, Value.lookup? entries name = some held ∧ (check held).Crashes := by
  unfold required
  split
  · next held isHeld => simp [isHeld]
  · next isMissing => simp [isMissing]

theorem crashes_optional_iff
    {entries : List (Key × Value)}
    {name : String}
    {otherwise : α}
    {check : Check α} :
    (optional entries name otherwise check).Crashes ↔
      ∃ held, Value.lookup? entries name = some held ∧ (check held).Crashes := by
  unfold optional
  split
  · next held isHeld => simp [isHeld]
  · next isMissing => simp [isMissing]

theorem crashes_checkItems_iff
    {check : Check α}
    {index : Nat}
    {items : List Value} :
    (checkItems check index items).Crashes ↔ ∃ item ∈ items, (check item).Crashes := by
  induction items generalizing index with
  | nil =>
      simp [checkItems]
  | cons item rest inductionHypothesis =>
      simp [checkItems, inductionHypothesis]

theorem crashes_listOf_iff
    {word : String}
    {check : Check α}
    {value : Value} :
    (listOf word check value).Crashes ↔ HasItem (fun item => (check item).Crashes) value := by
  unfold listOf HasItem listItems
  split
  · exact crashes_checkItems_iff
  · exact crashes_checkItems_iff
  · exact crashes_checkItems_iff
  · exact crashes_checkItems_iff
  · simp

theorem crashes_sequenceOf_iff
    {check : Check α}
    {value : Value} :
    (sequenceOf check value).Crashes ↔ HasItem (fun item => (check item).Crashes) value :=
  crashes_listOf_iff

theorem crashes_nullable_iff
    {check : Check α}
    {value : Value}
    (nothing : ¬ (check .null).Crashes) :
    (nullable check value).Crashes ↔ (check value).Crashes := by
  unfold nullable
  split
  · simp [nothing]
  · simp

/-! ## Checks of single values -/

/-- Whether a check finds all that can be wrong with a value as an issue. -/
def NeverCrashes (check : Check α) : Prop :=
  ∀ value, ¬ (check value).Crashes

theorem neverCrashes_text : NeverCrashes text := by
  intro value
  unfold text
  split <;> try simp
  split <;> simp

private theorem not_crashes_truthOfText
    (input : Value)
    (content? : Option String) :
    ¬ (truthOfText input content?).Crashes := by
  unfold truthOfText
  split <;> simp

theorem neverCrashes_truth : NeverCrashes truth := by
  intro value
  unfold truth
  split
  case h_3 => split <;> simp
  case h_4 | h_5 => exact not_crashes_truthOfText _ _
  all_goals simp

private theorem not_crashes_wholeOfText
    (input : Value)
    (content? : Option String) :
    ¬ (wholeOfText input content?).Crashes := by
  unfold wholeOfText
  split <;> simp

theorem neverCrashes_whole : NeverCrashes whole := by
  intro value
  unfold whole
  split
  case h_3 =>
      split
      · split <;> simp
      · simp
  case h_4 | h_5 => exact not_crashes_wholeOfText _ _
  all_goals simp

theorem neverCrashes_wholeFrom
    (least : Int) :
    NeverCrashes (wholeFrom least) := by
  intro value
  simp only [wholeFrom, Checked.crashes_andThen_iff, neverCrashes_whole value, false_or]
  simp

theorem neverCrashes_literal
    (options : List (String × α)) :
    NeverCrashes (literal options) := by
  intro value
  unfold literal
  split
  · split <;> simp
  · simp
  · simp

theorem neverCrashes_choice
    (options : List (String × α)) :
    NeverCrashes (choice options) := by
  intro value
  unfold choice
  split
  · split
    · split
      · simp
      · exact neverCrashes_literal options _
    · exact neverCrashes_literal options _
  · exact neverCrashes_literal options _

theorem neverCrashes_anything : NeverCrashes anything :=
  fun value => Checked.not_crashes_ok value

theorem NeverCrashes.nullable
    {check : Check α}
    (never : NeverCrashes check) :
    NeverCrashes (nullable check) := by
  intro value
  rw [crashes_nullable_iff (never .null)]
  exact never value

theorem NeverCrashes.listOf
    {check : Check α}
    (never : NeverCrashes check)
    (word : String) :
    NeverCrashes (listOf word check) := by
  intro value
  rw [crashes_listOf_iff]
  rintro ⟨item, _, crashes⟩
  exact never item crashes

theorem NeverCrashes.sequenceOf
    {check : Check α}
    (never : NeverCrashes check) :
    NeverCrashes (sequenceOf check) :=
  never.listOf "tuple"

private theorem not_crashes_checkEntries
    {check : Check α}
    (never : NeverCrashes check)
    (entries : List (Key × Value)) :
    ¬ (checkEntries check entries).Crashes := by
  induction entries with
  | nil =>
      simp [checkEntries]
  | cons entry rest inductionHypothesis =>
      simp [checkEntries, inductionHypothesis, neverCrashes_text entry.1.toValue, never entry.2]

theorem NeverCrashes.mappingOf
    {check : Check α}
    (never : NeverCrashes check) :
    NeverCrashes (mappingOf check) := by
  intro value
  unfold Schema.mappingOf
  split
  · simpa using not_crashes_checkEntries never _
  · simpa using not_crashes_checkEntries never _
  · simp

/-! ## Kinds of crashes -/

/-- Whether a check crashes, if it does, with a crash of some kinds only. -/
def Checked.CrashesAs
    (isKind : CrashKind → Prop)
    (checked : Checked α) : Prop :=
  ∀ crash, checked = .crashed crash → isKind crash.kind

section Kinds

variable {β γ : Type} {isKind : CrashKind → Prop}

theorem Checked.crashesAs_of_not_crashes
    {checked : Checked α}
    (passes : ¬ checked.Crashes) :
    checked.CrashesAs isKind :=
  fun crash isCrashed => (passes ⟨crash, isCrashed⟩).elim

theorem Checked.CrashesAs.combine
    {f : α → β → γ}
    {first : Checked α}
    {second : Checked β}
    (firstCrashes : first.CrashesAs isKind)
    (secondCrashes : second.CrashesAs isKind) :
    (Checked.combine f first second).CrashesAs isKind := by
  rintro crash isCrashed
  cases first with
  | crashed crash =>
      cases isCrashed
      exact firstCrashes _ rfl
  | ok _ | rejected _ =>
      cases second with
      | crashed crash =>
          cases isCrashed
          exact secondCrashes _ rfl
      | ok _ | rejected _ =>
          cases isCrashed

theorem Checked.CrashesAs.seq
    {f : Checked (α → β)}
    {checked : Checked α}
    (firstCrashes : f.CrashesAs isKind)
    (secondCrashes : checked.CrashesAs isKind) :
    (f <*> checked).CrashesAs isKind :=
  firstCrashes.combine secondCrashes

theorem Checked.CrashesAs.map
    {f : α → β}
    {checked : Checked α}
    (crashes : checked.CrashesAs isKind) :
    (checked.map f).CrashesAs isKind := by
  rintro crash isCrashed
  cases checked with
  | crashed crash =>
      cases isCrashed
      exact crashes _ rfl
  | ok _ | rejected _ =>
      cases isCrashed

theorem Checked.CrashesAs.functorMap
    {f : α → β}
    {checked : Checked α}
    (crashes : checked.CrashesAs isKind) :
    (f <$> checked).CrashesAs isKind :=
  crashes.map

theorem Checked.CrashesAs.under
    {step : Step}
    {checked : Checked α}
    (crashes : checked.CrashesAs isKind) :
    (checked.under step).CrashesAs isKind := by
  rintro crash isCrashed
  cases checked with
  | crashed crash =>
      cases isCrashed
      exact crashes _ rfl
  | ok _ | rejected _ =>
      cases isCrashed

theorem Checked.CrashesAs.andThen
    {checked : Checked α}
    {next : α → Checked β}
    (crashes : checked.CrashesAs isKind)
    (nextCrashes : ∀ result, (next result).CrashesAs isKind) :
    (checked.andThen next).CrashesAs isKind := by
  cases checked with
  | ok result => exact nextCrashes result
  | rejected _ => rintro _ ⟨⟩
  | crashed crash =>
      rintro _ ⟨⟩
      exact crashes _ rfl

theorem crashesAs_required
    {check : Check α}
    (crashes : ∀ value, (check value).CrashesAs isKind)
    (entries : List (Key × Value))
    (name : String) :
    (required entries name check).CrashesAs isKind := by
  unfold required
  split
  · exact (crashes _).under
  · exact Checked.crashesAs_of_not_crashes (by simp)

theorem crashesAs_optional
    {check : Check α}
    (crashes : ∀ value, (check value).CrashesAs isKind)
    (entries : List (Key × Value))
    (name : String)
    (otherwise : α) :
    (optional entries name otherwise check).CrashesAs isKind := by
  unfold optional
  split
  · exact (crashes _).under
  · exact Checked.crashesAs_of_not_crashes (by simp)

theorem crashesAs_nullable
    {check : Check α}
    (crashes : ∀ value, (check value).CrashesAs isKind)
    (value : Value) :
    (nullable check value).CrashesAs isKind := by
  unfold nullable
  split
  · exact Checked.crashesAs_of_not_crashes (by simp)
  · exact (crashes _).map

theorem crashesAs_sequenceOf
    {check : Check α}
    (crashes : ∀ value, (check value).CrashesAs isKind)
    (value : Value) :
    (sequenceOf check value).CrashesAs isKind := by
  have ofItems : ∀ items index, (checkItems check index items).CrashesAs isKind := by
    intro items
    induction items with
    | nil =>
        exact fun _ => Checked.crashesAs_of_not_crashes (by simp [checkItems])
    | cons item rest inductionHypothesis =>
        exact fun index => (crashes item).under.combine (inductionHypothesis (index + 1))
  unfold sequenceOf listOf
  split
  · exact ofItems _ _
  · exact ofItems _ _
  · exact ofItems _ _
  · exact ofItems _ _
  · exact Checked.crashesAs_of_not_crashes (by simp)

theorem crashesAs_recordOf
    {model : String}
    {read : List (Key × Value) → Checked α}
    (crashes : ∀ entries, (read entries).CrashesAs isKind)
    (value : Value) :
    (recordOf model read value).CrashesAs isKind := by
  unfold recordOf
  split
  · exact crashes _
  · exact crashes _
  · exact Checked.crashesAs_of_not_crashes (by simp)

theorem NeverCrashes.crashesAs
    {check : Check α}
    (never : NeverCrashes check)
    (value : Value) :
    (check value).CrashesAs isKind :=
  Checked.crashesAs_of_not_crashes (never value)

end Kinds

/-! ## Fields that never crash -/

theorem NeverCrashes.not_crashes_required
    {check : Check α}
    (never : NeverCrashes check)
    (entries : List (Key × Value))
    (name : String) :
    ¬ (required entries name check).Crashes := by
  rw [crashes_required_iff]
  rintro ⟨held, _, crashes⟩
  exact never held crashes

theorem NeverCrashes.not_crashes_optional
    {check : Check α}
    (never : NeverCrashes check)
    (entries : List (Key × Value))
    (name : String)
    (otherwise : α) :
    ¬ (optional entries name otherwise check).Crashes := by
  rw [crashes_optional_iff]
  rintro ⟨held, _, crashes⟩
  exact never held crashes

end TypeCatalog.Schema
