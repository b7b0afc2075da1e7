import TypeCatalog.Proofs.Schema.Completion
import TypeCatalog.Proofs.Schema.NamedValues

namespace TypeCatalog

/-!
# Records that are read again

A record that is written out with all its fields is read by their names, so neither the order of the
fields nor what else stands among them matters.  Items that are completed keep what they say, and a
field that is written out is never given its default.
-/

namespace Value

/-- Whether entries hold what a value holds under its names, all but some of them. -/
def HoldsBut
    (names : List String)
    (entries : List (Key × Value))
    (written : Value) : Prop :=
  ∀ name held, name ∉ names → written.field? name = some held → lookup? entries name = some held

/-- Whether entries hold what a value holds under its names. -/
abbrev Holds (entries : List (Key × Value)) (written : Value) : Prop :=
  HoldsBut [] entries written

theorem holds_record (fields : List (String × Value)) :
    Holds (entriesOf fields) (.record fields) :=
  fun _ _ _ isField => isField

/-- Defaults do not show behind what a record says itself. -/
theorem holds_insertAll
    {fields : List (String × Value)}
    (distinct : (fields.map Prod.fst).Nodup)
    (defaults : List (Key × Value)) :
    Holds (insertAll defaults (entriesOf fields)) (.record fields) := by
  intro name held _ isField
  have found : lookup? (entriesOf fields) name = some held := isField
  rw [lookup?_insertAll (differentKeys_entriesOf distinct), found, Option.some_or]

end Value

namespace Schema

variable {α β : Type}

/-- A record lacks nothing that completing it with no defaults would add. -/
theorem complete_nil_record
    {fields : List (String × Value)}
    (distinct : (fields.map Prod.fst).Nodup) :
    complete [] (.record fields) = .record fields :=
  congrArg Value.map (Value.insertAll_eq_append (Value.differentKeys_entriesOf distinct))

theorem Checked.functorMap_of_ok
    {f : α → β}
    {checked : Checked α}
    {result : α}
    (passed : checked = .ok result) :
    f <$> checked = .ok (f result) :=
  functor_map_eq_ok_iff.mpr ⟨result, passed, rfl⟩

theorem Checked.seq_of_ok
    {f : Checked (α → β)}
    {checked : Checked α}
    {g : α → β}
    {result : α}
    (first : f = .ok g)
    (second : checked = .ok result) :
    f <*> checked = .ok (g result) :=
  seq_eq_ok_iff.mpr ⟨g, result, first, second, rfl⟩

section Fields

variable {names : List String} {entries : List (Key × Value)} {written held : Value} {name : String}
  {check : Check α} {result : α}

theorem required_of_holdsBut
    (holds : Value.HoldsBut names entries written)
    (isField : written.field? name = some held)
    (passed : check held = .ok result)
    (notExcepted : name ∉ names) :
    required entries name check = .ok result := by
  rw [required, holds name held notExcepted isField]
  exact Checked.under_eq_ok_iff.mpr passed

theorem optional_of_holdsBut
    {otherwise : α}
    (holds : Value.HoldsBut names entries written)
    (isField : written.field? name = some held)
    (passed : check held = .ok result)
    (notExcepted : name ∉ names) :
    optional entries name otherwise check = .ok result := by
  rw [optional, holds name held notExcepted isField]
  exact Checked.under_eq_ok_iff.mpr passed

theorem required_of_holds
    (holds : Value.Holds entries written)
    (isField : written.field? name = some held)
    (passed : check held = .ok result) :
    required entries name check = .ok result :=
  required_of_holdsBut holds isField passed List.not_mem_nil

theorem optional_of_holds
    {otherwise : α}
    (holds : Value.Holds entries written)
    (isField : written.field? name = some held)
    (passed : check held = .ok result) :
    optional entries name otherwise check = .ok result :=
  optional_of_holdsBut holds isField passed List.not_mem_nil

end Fields

theorem nullable_ofText? (content? : Option String) :
    nullable text (.ofText? content?) = .ok content? := by
  cases content? <;> rfl

private theorem checkItems_of_forall
    {check : Check α}
    {items : List Value}
    {results : List α}
    (passed : List.Forall₂ (fun item result => check item = .ok result) items results)
    (index : Nat) :
    checkItems check index items = .ok results := by
  induction passed generalizing index with
  | nil =>
      rfl
  | cons first _ inductionHypothesis =>
      exact Checked.combine_eq_ok_iff.mpr
        ⟨_, _, Checked.under_eq_ok_iff.mpr first, inductionHypothesis (index + 1), rfl⟩

theorem sequenceOf_of_forall
    {check : Check α}
    {items : List Value}
    {results : List α}
    (passed : List.Forall₂ (fun item result => check item = .ok result) items results) :
    sequenceOf check (.list items) = .ok results :=
  checkItems_of_forall passed 0

/-- A list of results that were written out one by one. -/
theorem sequenceOf_map
    {check : Check α}
    {write : α → Value}
    {results : List α}
    (restored : ∀ result ∈ results, check (write result) = .ok result) :
    sequenceOf check (.list (results.map write)) = .ok results := by
  refine sequenceOf_of_forall ?_
  rw [List.forall₂_map_left_iff, List.forall₂_same]
  exact restored

/-- A list of results that were written out and then completed. -/
theorem sequenceOf_completed
    {check : Check α}
    {write : α → Value}
    {results : List α}
    (restored : ∀ result ∈ results, ∀ defaults, check (complete defaults (write result)) = .ok result)
    (defaults : Nat → List (Key × Value)) :
    sequenceOf check
        (.list ((results.map write).mapIdx fun index item => complete (defaults index) item)) =
      .ok results := by
  refine sequenceOf_of_forall ?_
  induction results generalizing defaults with
  | nil =>
      exact .nil
  | cons first rest inductionHypothesis =>
      rw [List.map_cons, List.mapIdx_cons]
      exact .cons (restored first List.mem_cons_self _)
        (inductionHypothesis (fun result member => restored result (List.mem_cons_of_mem first member))
          fun index => defaults (index + 1))

/-- What was read as a list is read again if each item is. -/
theorem sequenceOf_restored
    {entries : List (Key × Value)}
    {name : String}
    {check : Check α}
    {write : α → Value}
    {results : List α}
    (restored : ∀ {value result}, check value = .ok result → check (write result) = .ok result)
    (passed : optional entries name [] (sequenceOf check) = .ok results) :
    sequenceOf check (.list (results.map write)) = .ok results :=
  sequenceOf_map fun result member =>
    let ⟨_, resultPassed⟩ := exists_checked_of_items passed result member
    restored resultPassed

theorem nullable_restored
    {entries : List (Key × Value)}
    {name : String}
    {check : Check α}
    {write : α → Value}
    {result? : Option α}
    (isSomething : ∀ result, write result ≠ .null)
    (restored : ∀ {value result}, check value = .ok result → check (write result) = .ok result)
    (passed : optional entries name none (nullable check) = .ok result?) :
    nullable check ((result?.map write).getD .null) = .ok result? := by
  cases result? with
  | none => rfl
  | some result =>
      obtain ⟨_, resultPassed⟩ := exists_checked_of_nullable passed
      rw [Option.map_some, Option.getD_some, nullable]
      · exact Checked.map_eq_ok_iff.mpr ⟨result, restored resultPassed, rfl⟩
      · exact isSomething result

/-! ## Completed fields -/

/-- Completing the items of a field that holds a list leaves a list in which each item is completed
on its own. -/
private theorem exists_completeItems_of_list
    {name : String}
    {entries : List (Key × Value)}
    {items : List Value}
    (isList : Value.lookup? entries name = some (.list items))
    (defaults : Nat → List (Key × Value)) :
    ∃ completed,
      completeItems name defaults entries = .ok completed ∧
        Value.lookup? completed name =
          some (.list (items.mapIdx fun index item => complete (defaults index) item)) := by
  cases items with
  | nil =>
      refine ⟨entries, ?_, isList⟩
      simp [completeItems, isList, Value.isSomething]
  | cons first rest =>
      refine ⟨Value.insert entries (.text name) _, ?_, Value.lookup?_insert_self _ _ _⟩
      simp [completeItems, isList, Value.isSomething, itemsOf, Checked.map]

/-- The same for several fields: completing changes nothing but the items of these fields. -/
theorem exists_completeFields_of_lists
    {fields : List (String × (Nat → List (Key × Value)))}
    (distinct : (fields.map Prod.fst).Nodup)
    {entries : List (Key × Value)}
    (areLists : ∀ field ∈ fields, ∃ items, Value.lookup? entries field.1 = some (.list items)) :
    ∃ completed,
      completeFields fields entries = .ok completed ∧
        ∀ field ∈ fields, ∀ items, Value.lookup? entries field.1 = some (.list items) →
          Value.lookup? completed field.1 =
            some (.list (items.mapIdx fun index item => complete (field.2 index) item)) := by
  induction fields generalizing entries with
  | nil =>
      exact ⟨entries, rfl, by simp⟩
  | cons first rest inductionHypothesis =>
      obtain ⟨name, defaults⟩ := first
      obtain ⟨notInRest, distinctInRest⟩ := List.nodup_cons.mp distinct
      obtain ⟨items, isList⟩ := areLists _ List.mem_cons_self
      obtain ⟨between, firstCompleted, found⟩ := exists_completeItems_of_list isList defaults
      have kept : ∀ field ∈ rest,
          Value.lookup? between field.1 = Value.lookup? entries field.1 := by
        intro field member
        refine lookup?_completeItems_of_ne firstCompleted fun sameName => ?_
        exact notInRest (sameName ▸ List.mem_map_of_mem member)
      obtain ⟨completed, restCompleted, restFound⟩ :=
        inductionHypothesis distinctInRest fun field member => by
          rw [kept field member]
          exact areLists field (List.mem_cons_of_mem _ member)
      refine ⟨completed, Checked.andThen_eq_ok_iff.mpr ⟨between, firstCompleted, restCompleted⟩, ?_⟩
      intro field member held isHeld
      rcases List.mem_cons.mp member with rfl | inRest
      · cases isList.symm.trans isHeld
        rw [lookup?_completeFields_of_not_mem restCompleted notInRest, found]
      · exact restFound field inRest held ((kept field inRest).trans isHeld)

/-- A field that was written out and then completed is read as what was written. -/
theorem optional_of_completed
    {entries : List (Key × Value)}
    {name : String}
    {check : Check α}
    {write : α → Value}
    {results : List α}
    {defaults : Nat → List (Key × Value)}
    (restored : ∀ result ∈ results, ∀ defaults,
      check (complete defaults (write result)) = .ok result)
    (found : Value.lookup? entries name =
      some (.list ((results.map write).mapIdx fun index item => complete (defaults index) item))) :
    optional entries name [] (sequenceOf check) = .ok results := by
  rw [optional_eq_ok_iff, found]
  exact sequenceOf_completed restored defaults

/-- What was read from a list is read again from the completed field if each item is. -/
theorem optional_of_completed_restored
    {given entries : List (Key × Value)}
    {name : String}
    {check : Check α}
    {write : α → Value}
    {results : List α}
    {defaults : Nat → List (Key × Value)}
    (restored : ∀ {value result}, check value = .ok result →
      ∀ defaults, check (complete defaults (write result)) = .ok result)
    (passed : optional given name [] (sequenceOf check) = .ok results)
    (found : Value.lookup? entries name =
      some (.list ((results.map write).mapIdx fun index item => complete (defaults index) item))) :
    optional entries name [] (sequenceOf check) = .ok results :=
  optional_of_completed
    (fun result member =>
      let ⟨_, resultPassed⟩ := exists_checked_of_items passed result member
      restored resultPassed)
    found

theorem holdsBut_of_completeFields
    {fields : List (String × (Nat → List (Key × Value)))}
    {entries completed : List (Key × Value)}
    {written : Value}
    (isCompleted : completeFields fields entries = .ok completed)
    (holds : Value.Holds entries written) :
    Value.HoldsBut (fields.map Prod.fst) completed written := by
  intro name held notCompleted isField
  rw [lookup?_completeFields_of_not_mem isCompleted notCompleted]
  exact holds name held List.not_mem_nil isField

/-- A record that is read by its names is read again, completed or not. -/
theorem recordOf_complete
    {model : String}
    {read : List (Key × Value) → Checked α}
    {fields : List (String × Value)}
    {result : α}
    (distinct : (fields.map Prod.fst).Nodup)
    (readsAgain : ∀ entries, Value.Holds entries (.record fields) → read entries = .ok result)
    (defaults : List (Key × Value)) :
    recordOf model read (complete defaults (.record fields)) = .ok result :=
  readsAgain _ (Value.holds_insertAll distinct defaults)

end Schema

end TypeCatalog
