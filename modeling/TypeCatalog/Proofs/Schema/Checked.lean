import TypeCatalog.Schema.Scalar

namespace TypeCatalog.Schema

/-!
# Checks that pass

A check made of checks of parts passes exactly when all of them pass, and what passed has the form
that the check is for.
-/

namespace Checked

variable {α β γ : Type}

theorem combine_eq_ok_iff
    {f : α → β → γ}
    {first : Checked α}
    {second : Checked β}
    {result : γ} :
    combine f first second = .ok result ↔
      ∃ one other, first = .ok one ∧ second = .ok other ∧ f one other = result := by
  cases first <;> cases second <;> simp [combine]

theorem map_eq_ok_iff
    {f : α → β}
    {checked : Checked α}
    {result : β} :
    checked.map f = .ok result ↔ ∃ value, checked = .ok value ∧ f value = result := by
  cases checked <;> simp [map]

theorem functor_map_eq_ok_iff
    {f : α → β}
    {checked : Checked α}
    {result : β} :
    f <$> checked = .ok result ↔ ∃ value, checked = .ok value ∧ f value = result :=
  map_eq_ok_iff

theorem seq_eq_ok_iff
    {f : Checked (α → β)}
    {checked : Checked α}
    {result : β} :
    f <*> checked = .ok result ↔
      ∃ g value, f = .ok g ∧ checked = .ok value ∧ g value = result :=
  combine_eq_ok_iff

theorem under_eq_ok_iff
    {step : Step}
    {checked : Checked α}
    {result : α} :
    checked.under step = .ok result ↔ checked = .ok result := by
  cases checked <;> simp [under]

theorem andThen_eq_ok_iff
    {checked : Checked α}
    {next : α → Checked β}
    {result : β} :
    checked.andThen next = .ok result ↔
      ∃ value, checked = .ok value ∧ next value = .ok result := by
  cases checked <;> simp [andThen]

end Checked

/-- A field that passed has its value for when it is missing or one that passed the check. -/
theorem eq_or_checked_of_optional
    {α : Type}
    {entries : List (Key × Value)}
    {name : String}
    {otherwise result : α}
    {check : Check α}
    (passed : optional entries name otherwise check = .ok result) :
    result = otherwise ∨ ∃ value, check value = .ok result := by
  unfold optional at passed
  split at passed
  · next value _ =>
      exact .inr ⟨value, Checked.under_eq_ok_iff.mp passed⟩
  · cases passed
    exact .inl rfl

/-- A field passes with the result of its check, or is missing and has its value for then. -/
theorem optional_eq_ok_iff
    {α : Type}
    {entries : List (Key × Value)}
    {name : String}
    {otherwise result : α}
    {check : Check α} :
    optional entries name otherwise check = .ok result ↔
      match Value.lookup? entries name with
      | some value => check value = .ok result
      | none => result = otherwise := by
  unfold optional
  cases Value.lookup? entries name with
  | none =>
      simp [eq_comm]
  | some value =>
      exact Checked.under_eq_ok_iff

/-- A whole number that is checked from below is not below the bound. -/
theorem le_of_wholeFrom
    {least number : Int}
    {value : Value}
    (passed : wholeFrom least value = .ok number) :
    least ≤ number := by
  obtain ⟨read, _, passed⟩ := Checked.andThen_eq_ok_iff.mp passed
  split at passed
  · cases passed
  · next notBelow =>
      cases passed
      exact Int.not_lt.mp notBelow

/-- A whole number that is checked on both sides lies between the bounds. -/
theorem bounds_of_wholeBetween
    {least greatest number : Int}
    {value : Value}
    (passed : wholeBetween least greatest value = .ok number) :
    least ≤ number ∧ number ≤ greatest := by
  obtain ⟨read, fromBelow, passed⟩ := Checked.andThen_eq_ok_iff.mp passed
  split at passed
  · cases passed
  · next notAbove =>
      cases passed
      exact ⟨le_of_wholeFrom fromBelow, Int.not_lt.mp notAbove⟩

/-- A whole number passes between bounds exactly when it lies between them. -/
theorem wholeBetween_eq_ok_iff
    {least greatest number : Int}
    {value : Value} :
    wholeBetween least greatest value = .ok number ↔
      whole value = .ok number ∧ least ≤ number ∧ number ≤ greatest := by
  constructor
  · intro passed
    obtain ⟨read, fromBelow, notAbove⟩ := Checked.andThen_eq_ok_iff.mp passed
    obtain ⟨first, isWhole, notBelow⟩ := Checked.andThen_eq_ok_iff.mp fromBelow
    have bounds := bounds_of_wholeBetween passed
    split at notAbove
    · cases notAbove
    · cases notAbove
      split at notBelow
      · cases notBelow
      · cases notBelow
        exact ⟨isWhole, bounds⟩
  · rintro ⟨isWhole, notBelow, notAbove⟩
    rw [wholeBetween, wholeFrom, isWhole]
    simp [Checked.andThen, Int.not_lt.mpr notBelow, Int.not_lt.mpr notAbove]

/-! ## Mappings -/

theorem nodup_setUnder
    {α : Type}
    {entries : List (String × α)}
    (distinct : (entries.map Prod.fst).Nodup)
    (name : String)
    (value : α) :
    ((setUnder entries name value).map Prod.fst).Nodup := by
  unfold setUnder
  split
  · -- A value is set where its name is, so the names stay as they are.
    have sameNames :
        (entries.map fun entry => if entry.1 == name then (name, value) else entry).map Prod.fst =
          entries.map Prod.fst := by
      rw [List.map_map]
      refine List.map_congr_left fun entry _ => ?_
      by_cases isName : entry.1 = name <;> simp [isName]
    rw [sameNames]
    exact distinct
  · next isNew =>
      rw [List.map_append, List.nodup_append]
      refine ⟨distinct, List.pairwise_singleton _ name, ?_⟩
      intro earlier wasThere added isAdded same
      rw [List.map_singleton, List.mem_singleton] at isAdded
      obtain ⟨entry, member, rfl⟩ := List.mem_map.mp wasThere
      exact isNew (List.any_eq_true.mpr ⟨entry, member, by simp [same, isAdded]⟩)

private theorem nodup_foldl_setUnder
    {α : Type}
    {kept : List (String × α)}
    (distinct : (kept.map Prod.fst).Nodup)
    (entries : List (String × α)) :
    ((entries.foldl (fun kept entry => setUnder kept entry.1 entry.2) kept).map
      Prod.fst).Nodup := by
  induction entries generalizing kept with
  | nil =>
      exact distinct
  | cons entry rest inductionHypothesis =>
      exact inductionHypothesis (nodup_setUnder distinct entry.1 entry.2)

/-- A mapping that passed its check has one value for each name. -/
theorem nodup_of_mappingOf
    {α : Type}
    {check : Check α}
    {value : Value}
    {entries : List (String × α)}
    (passed : mappingOf check value = .ok entries) :
    (entries.map Prod.fst).Nodup := by
  have nothingYet : (([] : List (String × α)).map Prod.fst).Nodup :=
    List.nodup_nil
  unfold mappingOf at passed
  split at passed
  · obtain ⟨read, _, rfl⟩ := Checked.map_eq_ok_iff.mp passed
    exact nodup_foldl_setUnder nothingYet read
  · obtain ⟨read, _, rfl⟩ := Checked.map_eq_ok_iff.mp passed
    exact nodup_foldl_setUnder nothingYet read
  · cases passed

private theorem exists_checked_of_checkItems
    {α : Type}
    {check : Check α}
    {index : Nat}
    {items : List Value}
    {results : List α}
    (passed : checkItems check index items = .ok results) :
    ∀ result ∈ results, ∃ item, check item = .ok result := by
  induction items generalizing index results with
  | nil =>
      cases passed
      simp
  | cons item rest inductionHypothesis =>
      obtain ⟨first, others, firstPassed, othersPassed, rfl⟩ :=
        Checked.combine_eq_ok_iff.mp passed
      exact List.forall_mem_cons.mpr
        ⟨⟨item, Checked.under_eq_ok_iff.mp firstPassed⟩,
          inductionHypothesis othersPassed⟩

/-- Every result of a list that passed is the result of an item. -/
theorem exists_checked_of_listOf
    {α : Type}
    {word : String}
    {check : Check α}
    {value : Value}
    {results : List α}
    (passed : listOf word check value = .ok results) :
    ∀ result ∈ results, ∃ item, check item = .ok result := by
  unfold listOf at passed
  split at passed
  · exact exists_checked_of_checkItems passed
  · exact exists_checked_of_checkItems passed
  · exact exists_checked_of_checkItems passed
  · exact exists_checked_of_checkItems passed
  · cases passed

theorem exists_checked_of_items
    {α : Type}
    {entries : List (Key × Value)}
    {name : String}
    {check : Check α}
    {results : List α}
    (passed : optional entries name [] (sequenceOf check) = .ok results) :
    ∀ result ∈ results, ∃ item, check item = .ok result := by
  rcases eq_or_checked_of_optional passed with rfl | ⟨value, itemsPassed⟩
  · simp
  · exact exists_checked_of_listOf itemsPassed

theorem exists_checked_of_nullable
    {α : Type}
    {entries : List (Key × Value)}
    {name : String}
    {check : Check α}
    {result : α}
    (passed : optional entries name none (nullable check) = .ok (some result)) :
    ∃ value, check value = .ok result := by
  rcases eq_or_checked_of_optional passed with isDefault | ⟨value, valuePassed⟩
  · cases isDefault
  · unfold nullable at valuePassed
    split at valuePassed
    · cases valuePassed
    · obtain ⟨found, foundPassed, isResult⟩ := Checked.map_eq_ok_iff.mp valuePassed
      cases isResult
      exact ⟨value, foundPassed⟩

theorem exists_checked_of_required
    {α : Type}
    {entries : List (Key × Value)}
    {name : String}
    {check : Check α}
    {result : α}
    (passed : required entries name check = .ok result) :
    ∃ value, check value = .ok result := by
  unfold required at passed
  split at passed
  · next value _ =>
      exact ⟨value, Checked.under_eq_ok_iff.mp passed⟩
  · cases passed

/-- A record is read from the entries of a mapping. -/
theorem recordOf_eq_ok_iff
    {α : Type}
    {model : String}
    {read : List (Key × Value) → Checked α}
    {value : Value}
    {result : α} :
    recordOf model read value = .ok result ↔
      ∃ entries, (value = .map entries ∨ value = .again (.map entries)) ∧
        read entries = .ok result := by
  constructor
  · intro passed
    unfold recordOf at passed
    split at passed
    · exact ⟨_, .inl rfl, passed⟩
    · exact ⟨_, .inr rfl, passed⟩
    · cases passed
  · rintro ⟨entries, rfl | rfl, passed⟩
    · exact passed
    · exact passed

end TypeCatalog.Schema

namespace TypeCatalog.Except

/-- What is made of the result of a computation is there when the result is. -/
theorem exists_of_map_eq_ok
    {ε α β : Type}
    {f : α → β}
    {computed : Except ε α}
    {result : β}
    (passed : computed.map f = .ok result) :
    ∃ value, computed = .ok value ∧ f value = result := by
  cases computed with
  | error fault => cases passed
  | ok value => exact ⟨value, rfl, Except.ok.inj passed⟩

end TypeCatalog.Except
