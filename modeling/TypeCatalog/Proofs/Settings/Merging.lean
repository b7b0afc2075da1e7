import TypeCatalog.Proofs.Value.UniqueKeys
import TypeCatalog.Settings.Merge

namespace TypeCatalog

/-!
# Looking into merged settings

What merged settings hold under a name is what each of them holds there, merged, as long as nothing
but mappings meet.  What is no mapping after merging is what the highest source gives.
-/

namespace Value

/-- Whether the keys of a value, if it is a mapping, are of some sort. -/
def HasKeys
    (value : Value)
    (sort : Key → Prop) : Prop :=
  ∀ entries, value.entries? = some entries → ∀ entry ∈ entries, sort entry.1

end Value

namespace Settings

/-- A value laid over another, where each may be missing. -/
def laidOver
    (below? : Option Value) : Option Value → Option Value
  | none => below?
  | some value => some (overlay below? value)

/-- What a value holds under a key, if it is a mapping. -/
def atKey?
    (value? : Option Value)
    (key : Key) : Option Value :=
  (value?.bind Value.entries?).bind fun entries => valueAt? entries key

/-- What a value holds under a name, if it is a mapping. -/
def under?
    (value? : Option Value)
    (name : String) : Option Value :=
  (value?.bind Value.entries?).bind fun entries => Value.lookup? entries name

/-- Whether something is given that is no mapping. -/
def isOther : Option Value → Bool
  | some value => value.entries?.isNone
  | none => false

/-! ## What stands under a key -/

theorem valueAt?_cons
    (entry : Key × Value)
    (rest : List (Key × Value))
    (key : Key) :
    valueAt? (entry :: rest) key =
      if entry.1.same key = true then some entry.2 else valueAt? rest key := by
  cases isKey : entry.1.same key <;> simp [valueAt?, isKey]

theorem valueAt?_congr
    {first second : Key}
    (areSame : first.same second = true)
    (entries : List (Key × Value)) :
    valueAt? entries first = valueAt? entries second := by
  have sameTest :
      (fun entry : Key × Value => entry.1.same first) = fun entry => entry.1.same second :=
    funext fun entry => Key.same_congr areSame entry.1
  rw [valueAt?, valueAt?, sameTest]

/-- Entries with other keys hold nothing under a key. -/
theorem valueAt?_eq_none
    {entries : List (Key × Value)}
    {key : Key}
    (different : ∀ entry ∈ entries, entry.1.same key = false) :
    valueAt? entries key = none := by
  rw [valueAt?, Option.map_eq_none_iff, List.find?_eq_none]
  intro entry member
  rw [different entry member]
  exact Bool.false_ne_true

/-- What stands under a key stands in an entry with a key that is the same. -/
theorem mem_of_valueAt?
    {entries : List (Key × Value)}
    {key : Key}
    {value : Value}
    (isThere : valueAt? entries key = some value) :
    ∃ entry ∈ entries, entry.1.same key = true ∧ entry.2 = value := by
  obtain ⟨entry, isFirst, isValue⟩ := Option.map_eq_some_iff.mp isThere
  exact ⟨entry, List.mem_of_find?_eq_some isFirst, by simpa using List.find?_some isFirst, isValue⟩

/-- Among different keys, what an entry holds stands under its key. -/
theorem valueAt?_of_mem
    {entries : List (Key × Value)}
    {entry : Key × Value}
    (different : DifferentKeys entries)
    (member : entry ∈ entries) :
    valueAt? entries entry.1 = some entry.2 := by
  induction entries with
  | nil =>
      cases member
  | cons first rest inductionHypothesis =>
      obtain ⟨differHere, differInRest⟩ := List.pairwise_cons.mp different
      rw [valueAt?_cons]
      rcases List.mem_cons.mp member with rfl | inRest
      · rw [if_pos (Key.same_self _)]
      · rw [if_neg (by simp [differHere entry inRest]), inductionHypothesis differInRest inRest]

theorem valueAt?_insert
    (entries : List (Key × Value))
    (key : Key)
    (value : Value)
    (other : Key) :
    valueAt? (Value.insert entries key value) other =
      if key.same other = true then some value else valueAt? entries other :=
  Key.map_find?_insert entries key value other

theorem valueAt?_text
    (entries : List (Key × Value))
    (name : String) :
    valueAt? entries (.text name) = Value.lookup? entries name :=
  (Value.lookup?_eq_map_find? entries name).symm

theorem atKey?_text
    (value? : Option Value)
    (name : String) :
    atKey? value? (.text name) = under? value? name := by
  simp only [atKey?, under?, valueAt?_text]

/-! ## One value over another -/

private theorem bind_entries?_eq_none
    {value? : Option Value}
    (noMap : ∀ entries, ¬ value? = some (.map entries))
    (noMapAgain : ∀ entries, ¬ value? = some (.again (.map entries))) :
    value?.bind Value.entries? = none := by
  cases value? with
  | none => rfl
  | some value =>
      rw [Option.bind_some]
      unfold Value.entries?
      split
      · exact (noMap _ rfl).elim
      · exact (noMapAgain _ rfl).elim
      · rfl

/-- A mapping over a mapping is their entries merged; over anything else it stays as it is. -/
theorem overlay_of_entries?
    {value : Value}
    {entries : List (Key × Value)}
    (areEntries : value.entries? = some entries)
    (current? : Option Value) :
    overlay current? value =
      (current?.bind Value.entries?).elim value fun current => .map (merge current entries) := by
  rcases Value.eq_of_entries? areEntries with rfl | rfl
  all_goals
    unfold overlay
    split
    · rfl
    · rfl
    · next noMap noMapAgain =>
        rw [bind_entries?_eq_none noMap noMapAgain]
        rfl

/-- What is no mapping takes the place of what was there. -/
theorem overlay_of_noEntries
    {value : Value}
    (noEntries : value.entries? = none)
    (current? : Option Value) :
    overlay current? value = value := by
  unfold overlay
  split
  · cases noEntries
  · cases noEntries
  · rfl

theorem overlay_none
    (value : Value) :
    overlay none value = value := by
  unfold overlay
  split <;> rfl

theorem laidOver_none_left
    (above? : Option Value) :
    laidOver none above? = above? := by
  cases above? with
  | none => rfl
  | some value => exact congrArg some (overlay_none value)

/-- What stands under a key in merged entries. -/
theorem valueAt?_merge
    {added : List (Key × Value)}
    (different : DifferentKeys added)
    (base : List (Key × Value))
    (key : Key) :
    valueAt? (merge base added) key = laidOver (valueAt? base key) (valueAt? added key) := by
  induction added generalizing base with
  | nil =>
      unfold merge
      rfl
  | cons entry rest inductionHypothesis =>
      obtain ⟨first, value⟩ := entry
      obtain ⟨differHere, differInRest⟩ := List.pairwise_cons.mp different
      unfold merge
      rw [inductionHypothesis differInRest, valueAt?_insert, valueAt?_cons]
      by_cases isKey : first.same key = true
      · have restOther : valueAt? rest key = none := by
          refine valueAt?_eq_none fun entry member => ?_
          rw [← Key.same_congr isKey, Key.same_comm]
          exact differHere entry member
        rw [restOther, if_pos isKey, if_pos isKey, valueAt?_congr isKey base]
        rfl
      · rw [if_neg isKey, if_neg isKey]

/-- What stands under a name in merged entries. -/
theorem lookup?_merge
    {added : List (Key × Value)}
    (different : DifferentKeys added)
    (base : List (Key × Value))
    (name : String) :
    Value.lookup? (merge base added) name =
      laidOver (Value.lookup? base name) (Value.lookup? added name) := by
  simp only [← valueAt?_text]
  exact valueAt?_merge different base (.text name)

/-- Looking under a key goes through merging, unless the upper value is no mapping. -/
theorem atKey?_laidOver
    {above? : Option Value}
    (isMapping : isOther above? = false)
    (different : ∀ entries, above?.bind Value.entries? = some entries → DifferentKeys entries)
    (below? : Option Value)
    (key : Key) :
    atKey? (laidOver below? above?) key = laidOver (atKey? below? key) (atKey? above? key) := by
  cases above? with
  | none => rfl
  | some above =>
      obtain ⟨entries, areEntries⟩ := Option.isSome_iff_exists.mp
        (Option.isNone_eq_false_iff.mp isMapping)
      have aboveAt : atKey? (some above) key = valueAt? entries key := by
        simp [atKey?, areEntries]
      rw [laidOver, overlay_of_entries? areEntries, aboveAt, atKey?.eq_def below?]
      cases below?.bind Value.entries? with
      | none => exact aboveAt.trans (laidOver_none_left _).symm
      | some current => exact valueAt?_merge (different entries areEntries) current key

/-- Looking under a name goes through merging, unless the upper value is no mapping. -/
theorem under?_laidOver
    {above? : Option Value}
    (isMapping : isOther above? = false)
    (unique : ∀ above, above? = some above → above.HasUniqueKeys)
    (below? : Option Value)
    (name : String) :
    under? (laidOver below? above?) name = laidOver (under? below? name) (under? above? name) := by
  have different :
      ∀ entries, above?.bind Value.entries? = some entries → DifferentKeys entries := by
    intro entries areAbove
    obtain ⟨above, isAbove, areEntries⟩ := Option.bind_eq_some_iff.mp areAbove
    exact ((unique above isAbove).of_entries? areEntries).entries.1
  simp only [← atKey?_text]
  exact atKey?_laidOver isMapping different below? (.text name)

/-- What is no mapping lets nothing through from below. -/
theorem laidOver_of_isOther
    {above? : Option Value}
    (isNoMapping : isOther above? = true)
    (below? : Option Value) :
    laidOver below? above? = above? := by
  cases above? with
  | none => cases isNoMapping
  | some above =>
      exact congrArg some (overlay_of_noEntries (Option.isNone_iff_eq_none.mp isNoMapping) below?)

/-- If the result of merging is no mapping, it is the upper value, or the lower one if there is no
upper one. -/
theorem laidOver_eq_or
    {below? above? : Option Value}
    (noEntries : (laidOver below? above?).bind Value.entries? = none) :
    laidOver below? above? = above?.or below? := by
  cases above? with
  | none => rfl
  | some above =>
      cases areEntries : above.entries? with
      | none => exact congrArg some (overlay_of_noEntries areEntries below?)
      | some entries =>
          rw [laidOver, Option.bind_some, overlay_of_entries? areEntries] at noEntries
          cases isThere : below?.bind Value.entries? with
          | none =>
              rw [isThere, Option.elim_none, areEntries] at noEntries
              cases noEntries
          | some current =>
              rw [isThere] at noEntries
              cases noEntries

/-! ## Keys -/

/-- Merging adds no keys of its own. -/
theorem key_of_mem_merge
    {base added : List (Key × Value)}
    {entry : Key × Value}
    (member : entry ∈ merge base added) :
    ∃ before ∈ base ++ added, before.1 = entry.1 := by
  induction added generalizing base with
  | nil =>
      unfold merge at member
      exact ⟨entry, by simpa using member, rfl⟩
  | cons first rest inductionHypothesis =>
      unfold merge at member
      obtain ⟨before, wasThere, isSame⟩ := inductionHypothesis member
      rcases List.mem_append.mp wasThere with inBase | inRest
      · rcases Value.key_of_mem_insert inBase with isFirst | ⟨earlier, wasEarlier, isEarlier⟩
        · exact ⟨first, by simp, isFirst.symm.trans isSame⟩
        · exact ⟨earlier, List.mem_append_left _ wasEarlier, isEarlier.trans isSame⟩
      · exact ⟨before, by simp [inRest], isSame⟩

theorem hasKeys_laidOver
    {sort : Key → Prop}
    {below? above? : Option Value}
    (belowKeys : ∀ below, below? = some below → below.HasKeys sort)
    (aboveKeys : ∀ above, above? = some above → above.HasKeys sort) :
    ∀ value, laidOver below? above? = some value → value.HasKeys sort := by
  intro value isLaid
  cases above? with
  | none => exact belowKeys value isLaid
  | some above =>
      cases isLaid
      intro entries areEntries entry member
      cases areAbove : above.entries? with
      | none =>
          rw [overlay_of_noEntries areAbove, areAbove] at areEntries
          cases areEntries
      | some added =>
          rw [overlay_of_entries? areAbove] at areEntries
          cases areBelow : below?.bind Value.entries? with
          | none =>
              rw [areBelow, Option.elim_none] at areEntries
              exact aboveKeys above rfl entries areEntries entry member
          | some base =>
              rw [areBelow] at areEntries
              cases areEntries
              obtain ⟨below, isBelow, areBase⟩ := Option.bind_eq_some_iff.mp areBelow
              obtain ⟨before, wasThere, isSame⟩ := key_of_mem_merge member
              rw [← isSame]
              rcases List.mem_append.mp wasThere with inBase | inAdded
              · exact belowKeys below isBelow base areBase before inBase
              · exact aboveKeys above rfl added areAbove before inAdded

private theorem hasUniqueKeys_valueAt?
    {entries : List (Key × Value)}
    (unique : (Value.map entries).HasUniqueKeys)
    {key : Key}
    {value : Value}
    (isThere : valueAt? entries key = some value) :
    value.HasUniqueKeys := by
  obtain ⟨entry, isFirst, rfl⟩ := Option.map_eq_some_iff.mp isThere
  exact unique.entries.2 entry (List.mem_of_find?_eq_some isFirst)

private theorem sizeOf_lt_of_entries?
    {value : Value}
    {entries : List (Key × Value)}
    (areEntries : value.entries? = some entries) :
    sizeOf entries < sizeOf value := by
  rcases Value.eq_of_entries? areEntries with rfl | rfl
  · simp
  · simp only [Value.again.sizeOf_spec, Value.map.sizeOf_spec]
    omega

mutual

/-- Values with unique keys, laid over one another, have unique keys. -/
theorem hasUniqueKeys_overlay
    {current? : Option Value}
    (currentUnique : ∀ current, current? = some current → current.HasUniqueKeys)
    {value : Value}
    (unique : value.HasUniqueKeys) :
    (overlay current? value).HasUniqueKeys := by
  cases areEntries : value.entries? with
  | none =>
      rw [overlay_of_noEntries areEntries]
      exact unique
  | some entries =>
      rw [overlay_of_entries? areEntries]
      cases isThere : current?.bind Value.entries? with
      | none => exact unique
      | some current =>
          obtain ⟨held, isHeld, areHeld⟩ := Option.bind_eq_some_iff.mp isThere
          exact hasUniqueKeys_merge ((currentUnique held isHeld).of_entries? areHeld)
            (unique.of_entries? areEntries).entries.2
termination_by sizeOf value
decreasing_by exact sizeOf_lt_of_entries? areEntries

/-- Entries with unique keys, merged with others, have unique keys. -/
theorem hasUniqueKeys_merge
    {base added : List (Key × Value)}
    (baseUnique : (Value.map base).HasUniqueKeys)
    (addedUnique : ∀ entry ∈ added, entry.2.HasUniqueKeys) :
    (Value.map (merge base added)).HasUniqueKeys := by
  match added with
  | [] =>
      unfold merge
      exact baseUnique
  | (key, value) :: rest =>
      obtain ⟨firstUnique, restUnique⟩ := List.forall_mem_cons.mp addedUnique
      unfold merge
      refine hasUniqueKeys_merge (baseUnique.insert key ?_) restUnique
      exact hasUniqueKeys_overlay (fun current isThere => hasUniqueKeys_valueAt? baseUnique isThere)
        firstUnique
termination_by sizeOf added

end

/-!
## Sources of settings

Four sources are merged: the global file, the file of the project over it, and over both the
environment with the settings of the caller.  The highest source that says something about a setting
decides, except that a project whose file says something other than a mapping where others have
mappings does not let the global file through.
-/

/-- What the sources say about one thing. -/
structure Sources where
  overrides : Option Value
  environment : Option Value
  project : Option Value
  global : Option Value

namespace Sources

/-- What the highest source says that says something. -/
def first (sources : Sources) : Option Value :=
  sources.overrides.or (sources.environment.or (sources.project.or sources.global))

/-- What all sources say, merged. -/
def merged (sources : Sources) : Option Value :=
  laidOver (laidOver sources.global sources.project)
    (laidOver sources.environment sources.overrides)

/-- What the sources say about a part.  A project that says something other than a mapping keeps the
global file from being heard. -/
def under
    (sources : Sources)
    (name : String) : Sources :=
  ⟨under? sources.overrides name, under? sources.environment name, under? sources.project name,
    if isOther sources.project then none else under? sources.global name⟩

/-- Whether one of the sources says a value. -/
def Say
    (sources : Sources)
    (value : Value) : Prop :=
  sources.overrides = some value ∨ sources.environment = some value ∨
    sources.project = some value ∨ sources.global = some value

/-- Whether all that the sources say has unique keys. -/
def HaveUniqueKeys (sources : Sources) : Prop :=
  ∀ value, sources.Say value → value.HasUniqueKeys

variable {sources : Sources}

private theorem hasUniqueKeys_laidOver
    {below? above? : Option Value}
    (belowUnique : ∀ below, below? = some below → below.HasUniqueKeys)
    (aboveUnique : ∀ above, above? = some above → above.HasUniqueKeys) :
    ∀ value, laidOver below? above? = some value → value.HasUniqueKeys := by
  intro value isLaid
  cases above? with
  | none => exact belowUnique value isLaid
  | some above =>
      cases isLaid
      exact hasUniqueKeys_overlay belowUnique (aboveUnique above rfl)

private theorem hasUniqueKeys_under?
    {value? : Option Value}
    (unique : ∀ value, value? = some value → value.HasUniqueKeys)
    {name : String} :
    ∀ value, under? value? name = some value → value.HasUniqueKeys := by
  intro value isUnder
  obtain ⟨entries, areEntries, isThere⟩ := Option.bind_eq_some_iff.mp isUnder
  obtain ⟨held, isHeld, areHeld⟩ := Option.bind_eq_some_iff.mp areEntries
  exact ((unique held isHeld).of_entries? areHeld).entries.2 _ (Value.mem_of_lookup? isThere)

theorem HaveUniqueKeys.under
    (unique : sources.HaveUniqueKeys)
    (name : String) :
    (sources.under name).HaveUniqueKeys := by
  rintro value (isSaid | isSaid | isSaid | isSaid)
  · exact hasUniqueKeys_under? (fun held said => unique held (.inl said)) value isSaid
  · exact hasUniqueKeys_under? (fun held said => unique held (.inr (.inl said))) value isSaid
  · exact hasUniqueKeys_under? (fun held said => unique held (.inr (.inr (.inl said)))) value isSaid
  · change (if isOther sources.project then none else under? sources.global name) = _ at isSaid
    split at isSaid
    · cases isSaid
    · exact hasUniqueKeys_under? (fun held said => unique held (.inr (.inr (.inr said)))) value
        isSaid

theorem HaveUniqueKeys.merged
    (unique : sources.HaveUniqueKeys) :
    ∀ value, sources.merged = some value → value.HasUniqueKeys :=
  hasUniqueKeys_laidOver
    (hasUniqueKeys_laidOver (fun value said => unique value (.inr (.inr (.inr said))))
      fun value said => unique value (.inr (.inr (.inl said))))
    (hasUniqueKeys_laidOver (fun value said => unique value (.inr (.inl said)))
      fun value said => unique value (.inl said))

private theorem isOther_of_laidOver
    {below? above? : Option Value}
    (isMapping : isOther (laidOver below? above?) = false) :
    isOther above? = false := by
  cases isNoMapping : isOther above? with
  | false => rfl
  | true =>
      rw [laidOver_of_isOther isNoMapping, isNoMapping] at isMapping
      cases isMapping

private theorem under?_files
    (unique : sources.HaveUniqueKeys)
    (name : String) :
    under? (laidOver sources.global sources.project) name =
      laidOver (sources.under name).global (sources.under name).project := by
  cases isNoMapping : isOther sources.project with
  | true =>
      rw [laidOver_of_isOther isNoMapping]
      simp [under, isNoMapping, laidOver_none_left]
  | false =>
      rw [under?_laidOver isNoMapping fun value said => unique value (.inr (.inr (.inl said)))]
      simp [under, isNoMapping]

/-- Looking under a name goes through merging, if the result is a mapping. -/
theorem under?_merged
    (unique : sources.HaveUniqueKeys)
    (isMapping : isOther sources.merged = false)
    (name : String) :
    under? sources.merged name = (sources.under name).merged := by
  have upperIsMapping := isOther_of_laidOver isMapping
  have overridesAreMapping := isOther_of_laidOver upperIsMapping
  have upperUnique := hasUniqueKeys_laidOver
    (fun value said => unique value (.inr (.inl said)))
    fun value said => unique value (.inl said)
  rw [merged, under?_laidOver upperIsMapping upperUnique, under?_files unique,
    under?_laidOver overridesAreMapping fun value said => unique value (.inl said)]
  rfl

/-- Where the result of merging is no mapping, the highest source decides alone. -/
theorem merged_eq_first
    (noEntries : sources.merged.bind Value.entries? = none) :
    sources.merged = sources.first := by
  have upper := laidOver_eq_or noEntries
  rw [merged] at noEntries ⊢
  rw [upper] at noEntries ⊢
  cases isLaid : laidOver sources.environment sources.overrides with
  | none =>
      rw [isLaid] at noEntries
      have nothing : sources.overrides = none ∧ sources.environment = none := by
        cases isOverride : sources.overrides <;> simp_all [laidOver]
      rw [Option.none_or, laidOver_eq_or noEntries, first, nothing.1, nothing.2]
      rfl
  | some value =>
      have noEntriesAbove :
          (laidOver sources.environment sources.overrides).bind Value.entries? = none := by
        rw [isLaid] at noEntries ⊢
        exact noEntries
      rw [first, ← Option.or_assoc, ← laidOver_eq_or noEntriesAbove, isLaid]
      rfl

/-- Merging adds no keys of its own. -/
theorem keys_merged
    {holds : Key → Prop}
    (keysHold : ∀ value, sources.Say value → value.HasKeys holds) :
    ∀ value, sources.merged = some value → value.HasKeys holds :=
  hasKeys_laidOver
    (hasKeys_laidOver (fun value said => keysHold value (.inr (.inr (.inr said))))
      fun value said => keysHold value (.inr (.inr (.inl said))))
    (hasKeys_laidOver (fun value said => keysHold value (.inr (.inl said)))
      fun value said => keysHold value (.inl said))

end Sources

end Settings

end TypeCatalog
