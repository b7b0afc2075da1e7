import TypeCatalog.Proofs.Settings.Merging
import TypeCatalog.Settings.Load

namespace TypeCatalog

/-!
# Merged settings along paths

A path of keys leads through mappings only.  At the end of each path merged settings hold what the
upper ones hold there, merged with the lower ones where both have mappings, and what the lower ones
hold where the upper ones hold nothing.  But the upper ones also end paths: where they have
something other than a mapping on the way, whatever the lower ones hold further on is lost.

Laying the same settings over once more changes nothing, and of several layers the last decides
wherever it has something other than a mapping.
-/

/-- Whether a value is no mapping, or a nested one: the keys of each mapping differ, and none stands
inside itself. -/
inductive Value.IsNested : Value → Prop where
  | other {value : Value} :
      value.entries? = none →
      IsNested value
  | map {entries : List (Key × Value)} :
      DifferentKeys entries →
      (∀ entry ∈ entries, IsNested entry.2) →
      IsNested (.map entries)

theorem Value.IsNested.of_entries?
    {value : Value}
    {entries : List (Key × Value)}
    (nested : value.IsNested)
    (areEntries : value.entries? = some entries) :
    DifferentKeys entries ∧ ∀ entry ∈ entries, entry.2.IsNested := by
  cases nested with
  | other noEntries =>
      rw [noEntries] at areEntries
      cases areEntries
  | map different entriesNested =>
      cases areEntries
      exact ⟨different, entriesNested⟩

namespace Settings

/-! ## Paths -/

/-- What a value holds at a path, if all that is on the way is mappings. -/
def heldAt? : Option Value → List Key → Option Value
  | value?, [] => value?
  | value?, key :: path => heldAt? (atKey? value? key) path

/-- What settings hold at a path. -/
def settingAt?
    (entries : List (Key × Value))
    (path : List Key) : Option Value :=
  heldAt? (some (.map entries)) path

/-- Whether a value has something other than a mapping on the way to the end of a path. -/
def EndsBefore
    (value? : Option Value)
    (path : List Key) : Prop :=
  ∃ start key rest, path = start ++ key :: rest ∧ isOther (heldAt? value? start) = true

/-- Whether the keys of each mapping differ that a value holds at a path. -/
def KeysDiffer (value? : Option Value) : Prop :=
  ∀ path entries, (heldAt? value? path).bind Value.entries? = some entries → DifferentKeys entries

@[simp] theorem heldAt?_nil (value? : Option Value) : heldAt? value? [] = value? :=
  rfl

@[simp] theorem heldAt?_cons
    (value? : Option Value)
    (key : Key)
    (path : List Key) :
    heldAt? value? (key :: path) = heldAt? (atKey? value? key) path :=
  rfl

theorem heldAt?_none (path : List Key) : heldAt? none path = none := by
  induction path with
  | nil => rfl
  | cons key path inductionHypothesis => exact inductionHypothesis

theorem heldAt?_append
    (value? : Option Value)
    (start rest : List Key) :
    heldAt? value? (start ++ rest) = heldAt? (heldAt? value? start) rest := by
  induction start generalizing value? with
  | nil => rfl
  | cons key start inductionHypothesis => exact inductionHypothesis (atKey? value? key)

/-- No path goes on behind something other than a mapping. -/
theorem heldAt?_cons_of_isOther
    {value? : Option Value}
    (isNoMapping : isOther value? = true)
    (key : Key)
    (path : List Key) :
    heldAt? value? (key :: path) = none := by
  cases value? with
  | none => cases isNoMapping
  | some value =>
      have noEntries : value.entries? = none := Option.isNone_iff_eq_none.mp isNoMapping
      rw [heldAt?_cons, atKey?, Option.bind_some, noEntries]
      exact heldAt?_none path

theorem endsBefore_cons_iff
    {value? : Option Value}
    {key : Key}
    {path : List Key} :
    EndsBefore value? (key :: path) ↔
      isOther value? = true ∨ EndsBefore (atKey? value? key) path := by
  constructor
  · rintro ⟨start, next, rest, pathIs, isNoMapping⟩
    cases start with
    | nil => exact .inl isNoMapping
    | cons first start =>
        obtain ⟨rfl, rfl⟩ := List.cons.inj pathIs
        exact .inr ⟨start, next, rest, rfl, isNoMapping⟩
  · rintro (isNoMapping | ⟨start, next, rest, rfl, isNoMapping⟩)
    · exact ⟨[], key, path, rfl, isNoMapping⟩
    · exact ⟨key :: start, next, rest, rfl, isNoMapping⟩

theorem not_endsBefore_nil (value? : Option Value) : ¬ EndsBefore value? [] := by
  rintro ⟨start, key, rest, isEmpty, -⟩
  simp at isEmpty

instance decidableEndsBefore :
    (value? : Option Value) →
    (path : List Key) →
    Decidable (EndsBefore value? path)
  | value?, [] => .isFalse (not_endsBefore_nil value?)
  | value?, key :: path =>
    have := decidableEndsBefore (atKey? value? key) path
    decidable_of_iff _ endsBefore_cons_iff.symm

/-- Where something is held, the path does not end before. -/
theorem not_endsBefore_of_heldAt?
    {value? : Option Value}
    {path : List Key}
    {value : Value}
    (isHeld : heldAt? value? path = some value) :
    ¬ EndsBefore value? path := by
  rintro ⟨start, key, rest, rfl, isNoMapping⟩
  rw [heldAt?_append, heldAt?_cons_of_isOther isNoMapping] at isHeld
  cases isHeld

theorem KeysDiffer.of_entries?
    {value? : Option Value}
    (differ : KeysDiffer value?) :
    ∀ entries, value?.bind Value.entries? = some entries → DifferentKeys entries :=
  differ []

theorem KeysDiffer.atKey?
    {value? : Option Value}
    (differ : KeysDiffer value?)
    (key : Key) :
    KeysDiffer (atKey? value? key) :=
  fun path entries areEntries => differ (key :: path) entries areEntries

theorem isNested_atKey?
    {value? : Option Value}
    (nested : ∀ value, value? = some value → value.IsNested)
    (key : Key) :
    ∀ value, atKey? value? key = some value → value.IsNested := by
  intro value isThere
  obtain ⟨entries, areEntries, isUnder⟩ := Option.bind_eq_some_iff.mp isThere
  obtain ⟨held, isHeld, areHeld⟩ := Option.bind_eq_some_iff.mp areEntries
  obtain ⟨entry, member, -, rfl⟩ := mem_of_valueAt? isUnder
  exact ((nested held isHeld).of_entries? areHeld).2 entry member

theorem isNested_heldAt?
    {value? : Option Value}
    (nested : ∀ value, value? = some value → value.IsNested)
    (path : List Key) :
    ∀ value, heldAt? value? path = some value → value.IsNested := by
  induction path generalizing value? with
  | nil => exact nested
  | cons key path inductionHypothesis => exact inductionHypothesis (isNested_atKey? nested key)

theorem keysDiffer_of_isNested
    {value : Value}
    (nested : value.IsNested) :
    KeysDiffer (some value) := by
  intro path entries areEntries
  obtain ⟨held, isHeld, areHeld⟩ := Option.bind_eq_some_iff.mp areEntries
  have allNested : ∀ other, some value = some other → other.IsNested := by
    rintro _ ⟨⟩
    exact nested
  exact ((isNested_heldAt? allNested path held isHeld).of_entries? areHeld).1

/-! ## One value over another, along a path -/

/-- Looking along a path goes through merging, unless the upper value ends the path. -/
theorem heldAt?_laidOver
    {above? : Option Value}
    {path : List Key}
    (differ : KeysDiffer above?)
    (goesOn : ¬ EndsBefore above? path)
    (below? : Option Value) :
    heldAt? (laidOver below? above?) path =
      laidOver (heldAt? below? path) (heldAt? above? path) := by
  induction path generalizing below? above? with
  | nil => rfl
  | cons key path inductionHypothesis =>
      obtain ⟨isMapping, goesOnBehind⟩ := not_or.mp (endsBefore_cons_iff.not.mp goesOn)
      rw [heldAt?_cons, atKey?_laidOver (Bool.not_eq_true _ ▸ isMapping) differ.of_entries?,
        inductionHypothesis (differ.atKey? key) goesOnBehind]
      rfl

/-- Where the upper value ends a path, nothing is held further on. -/
theorem heldAt?_laidOver_of_endsBefore
    {above? : Option Value}
    {path : List Key}
    (differ : KeysDiffer above?)
    (ends : EndsBefore above? path)
    (below? : Option Value) :
    heldAt? (laidOver below? above?) path = none := by
  induction path generalizing below? above? with
  | nil => exact absurd ends (not_endsBefore_nil above?)
  | cons key path inductionHypothesis =>
      cases isNoMapping : isOther above? with
      | true =>
          rw [laidOver_of_isOther isNoMapping, heldAt?_cons_of_isOther isNoMapping]
      | false =>
          have endsBehind := (endsBefore_cons_iff.mp ends).resolve_left (by simp [isNoMapping])
          rw [heldAt?_cons, atKey?_laidOver isNoMapping differ.of_entries?,
            inductionHypothesis (differ.atKey? key) endsBehind]

/-! ## Merging once more -/

theorem differentKeys_merge
    {base : List (Key × Value)}
    (different : DifferentKeys base)
    (added : List (Key × Value)) :
    DifferentKeys (merge base added) := by
  induction added generalizing base with
  | nil =>
      unfold merge
      exact different
  | cons entry rest inductionHypothesis =>
      unfold merge
      exact inductionHypothesis (different.insert entry.1 _)

/-- Setting what stands under a key already changes nothing. -/
theorem insert_eq_self
    {entries : List (Key × Value)}
    {key : Key}
    {value : Value}
    (different : DifferentKeys entries)
    (isThere : valueAt? entries key = some value) :
    Value.insert entries key value = entries := by
  obtain ⟨first, isFirst, firstSame, -⟩ := mem_of_valueAt? isThere
  unfold Value.insert Key.insert
  rw [if_pos (List.any_eq_true.mpr ⟨first, isFirst, firstSame⟩)]
  refine (List.map_congr_left fun entry member => ?_).trans (List.map_id entries)
  by_cases isKey : entry.1.same key = true
  · have holds := valueAt?_of_mem different member
    rw [valueAt?_congr isKey, isThere] at holds
    rw [if_pos isKey, Option.some.inj holds]
    rfl
  · rw [if_neg isKey]
    rfl

/-- Entries that change nothing one by one change nothing together. -/
theorem merge_eq_self
    {base added : List (Key × Value)}
    (different : DifferentKeys base)
    (unchanged : ∀ entry ∈ added, ∃ held,
      valueAt? base entry.1 = some held ∧ overlay (some held) entry.2 = held) :
    merge base added = base := by
  induction added with
  | nil =>
      unfold merge
      rfl
  | cons entry rest inductionHypothesis =>
      obtain ⟨⟨held, isHeld, stays⟩, restUnchanged⟩ := List.forall_mem_cons.mp unchanged
      unfold merge
      rw [isHeld, stays, insert_eq_self different isHeld, inductionHypothesis restUnchanged]

/-- Laying a value over once more changes nothing. -/
theorem overlay_overlay
    {value : Value}
    (nested : value.IsNested)
    {below? : Option Value}
    (belowNested : ∀ below, below? = some below → below.IsNested) :
    overlay (some (overlay below? value)) value = overlay below? value := by
  induction nested generalizing below? with
  | other noEntries =>
      rw [overlay_of_noEntries noEntries, overlay_of_noEntries noEntries]
  | @map entries different _ inductionHypothesis =>
      rw [overlay_of_entries? (rfl : (Value.map entries).entries? = some entries) below?]
      cases areBelow : below?.bind Value.entries? with
      | none =>
          -- The mapping stands as it is, and each of its values was laid over nothing.
          rw [Option.elim_none, overlay_of_entries? rfl]
          refine congrArg Value.map (merge_eq_self different fun entry member => ?_)
          have once :
              overlay (some (overlay none entry.2)) entry.2 = overlay none entry.2 :=
            inductionHypothesis entry member (by simp)
          rw [overlay_none] at once
          exact ⟨entry.2, valueAt?_of_mem different member, once⟩
      | some current =>
          obtain ⟨below, isBelow, areCurrent⟩ := Option.bind_eq_some_iff.mp areBelow
          obtain ⟨currentDifferent, currentNested⟩ :=
            (belowNested below isBelow).of_entries? areCurrent
          -- Under each key stands what was laid over there, which the induction says stays.
          rw [Option.elim_some, overlay_of_entries? rfl]
          refine congrArg Value.map
            (merge_eq_self (differentKeys_merge currentDifferent entries) fun entry member => ?_)
          refine ⟨overlay (valueAt? current entry.1) entry.2, ?_,
            inductionHypothesis entry member fun held isHeld => ?_⟩
          · rw [valueAt?_merge different, valueAt?_of_mem different member]
            rfl
          · obtain ⟨other, inCurrent, -, rfl⟩ := mem_of_valueAt? isHeld
            exact currentNested other inCurrent

/-- Entries whose keys differ from each other and from those below are merged behind them. -/
theorem merge_eq_append
    {base added : List (Key × Value)}
    (different : DifferentKeys (base ++ added)) :
    merge base added = base ++ added := by
  induction added generalizing base with
  | nil =>
      unfold merge
      exact (List.append_nil base).symm
  | cons entry rest inductionHypothesis =>
      have differs : ∀ other ∈ base, other.1.same entry.1 = false := fun other member =>
        (List.pairwise_append.mp different).2.2 other member entry List.mem_cons_self
      have isNew : ¬ (base.any fun other => other.1.same entry.1) = true := by
        simpa using differs
      have inserted (value : Value) :
          Value.insert base entry.1 value = base ++ [(entry.1, value)] :=
        if_neg isNew
      unfold merge
      rw [valueAt?_eq_none differs, overlay_none, inserted, inductionHypothesis
        (by simpa using different), List.append_assoc, List.singleton_append]

/-! ## Layers of settings -/

/-- What merging settings into others does, path by path. -/
structure MergesByPath (base added : List (Key × Value)) : Prop where
  upper_decides : ∀ path value, settingAt? added path = some value →
    (value.entries? = none ∨ (settingAt? base path).bind Value.entries? = none) →
      settingAt? (merge base added) path = some value
  mappings_merge : ∀ path lower upper, settingAt? base path = some (.map lower) →
    settingAt? added path = some (.map upper) →
      settingAt? (merge base added) path = some (.map (merge lower upper))
  lower_stays : ∀ path, settingAt? added path = none → ¬ EndsBefore (some (.map added)) path →
    settingAt? (merge base added) path = settingAt? base path
  nothing_behind : ∀ path, EndsBefore (some (.map added)) path →
    settingAt? (merge base added) path = none
  once_more : merge (merge base added) added = merge base added
  into_nothing : merge [] added = added
  last_decides : ∀ layers path value, settingAt? added path = some value → value.entries? = none →
    settingAt? ((layers ++ [added]).foldl merge []) path = some value

theorem some_merge_eq_laidOver (base added : List (Key × Value)) :
    some (Value.map (merge base added)) = laidOver (some (.map base)) (some (.map added)) := by
  rw [laidOver, overlay_of_entries? rfl]
  rfl

/-- What settings hold at a path stands there after merging, over what was there. -/
theorem settingAt?_merge_of_settingAt?
    {added : List (Key × Value)}
    {path : List Key}
    {value : Value}
    (differ : KeysDiffer (some (.map added)))
    (isSet : settingAt? added path = some value)
    (base : List (Key × Value)) :
    settingAt? (merge base added) path = some (overlay (settingAt? base path) value) := by
  rw [settingAt?, some_merge_eq_laidOver,
    heldAt?_laidOver differ (not_endsBefore_of_heldAt? isSet)]
  exact congrArg (laidOver (settingAt? base path)) isSet

/-- What is no mapping takes the place of what was there, and a mapping that of anything else. -/
theorem overlay_eq_self
    {below? : Option Value}
    {value : Value}
    (noMapping : value.entries? = none ∨ below?.bind Value.entries? = none) :
    overlay below? value = value := by
  cases areEntries : value.entries? with
  | none =>
      exact overlay_of_noEntries areEntries below?
  | some entries =>
      have nothingBelow := noMapping.resolve_left (by simp [areEntries])
      rw [overlay_of_entries? areEntries, nothingBelow, Option.elim_none]

/-- The settings of both files are merged in the order in which the files are read. -/
theorem fileSettings_eq
    (files : FileTree)
    (globalPath root : FilePath) :
    fileSettings files globalPath root =
      ([globalPath, root.join projectFile].mapM (readFile files)).map
        fun layers => layers.foldl merge [] := by
  rw [fileSettings, List.mapM_cons, List.mapM_cons, List.mapM_nil]
  cases readFile files globalPath with
  | error failure => rfl
  | ok global =>
      cases readFile files (root.join projectFile) with
      | error failure => rfl
      | ok project => rfl

/-- Merging nested mappings, path by path, and the order in which the files are merged. -/
theorem merge_along_paths
    {base added : List (Key × Value)}
    (baseNested : (Value.map base).IsNested)
    (addedNested : (Value.map added).IsNested) :
    MergesByPath base added ∧
      ∀ (files : FileTree) (globalPath root : FilePath),
        fileSettings files globalPath root =
          ([globalPath, root.join projectFile].mapM (readFile files)).map
            fun layers => layers.foldl merge [] := by
  have differ := keysDiffer_of_isNested addedNested
  have addedDifferent : DifferentKeys added := (addedNested.of_entries? rfl).1
  refine ⟨?_, fileSettings_eq⟩
  constructor
  case upper_decides =>
    intro path value isSet noMapping
    rw [settingAt?_merge_of_settingAt? differ isSet, overlay_eq_self noMapping]
  case mappings_merge =>
    intro path lower upper isBelow isSet
    rw [settingAt?_merge_of_settingAt? differ isSet, isBelow, overlay_of_entries? rfl]
    rfl
  case lower_stays =>
    intro path notSet goesOn
    rw [settingAt?, some_merge_eq_laidOver, heldAt?_laidOver differ goesOn]
    exact congrArg (laidOver (settingAt? base path)) notSet
  case nothing_behind =>
    intro path ends
    rw [settingAt?, some_merge_eq_laidOver, heldAt?_laidOver_of_endsBefore differ ends]
  case once_more =>
    have below : ∀ value, some (Value.map base) = some value → value.IsNested := by
      rintro _ ⟨⟩
      exact baseNested
    have twice := overlay_overlay addedNested below
    rw [overlay_of_entries? rfl, overlay_of_entries? rfl] at twice
    exact Value.map.inj twice
  case into_nothing =>
    exact merge_eq_append addedDifferent
  case last_decides =>
    intro layers path value isSet noEntries
    rw [List.foldl_append, List.foldl_cons, List.foldl_nil,
      settingAt?_merge_of_settingAt? differ isSet, overlay_of_noEntries noEntries]

/-- Settings in the lower one of two layers. -/
def lowerLayer : List (Key × Value) :=
  [(.text "cache", .map [(.text "ttl", .int 10), (.text "size", .int 4)]), (.text "log", .null)]

/-- Settings in the upper one of two layers. -/
def upperLayer : List (Key × Value) :=
  [(.text "cache", .map [(.text "ttl", .int 20)]), (.text "log", .map [(.text "level", .int 1)])]

theorem merge_along_paths_of_two_layers :
    (Value.map lowerLayer).IsNested ∧ (Value.map upperLayer).IsNested ∧
      MergesByPath lowerLayer upperLayer ∧
      settingAt? (merge lowerLayer upperLayer) [.text "cache", .text "ttl"] = some (.int 20) ∧
      settingAt? (merge lowerLayer upperLayer) [.text "cache", .text "size"] = some (.int 4) ∧
      settingAt? (merge lowerLayer upperLayer) [.text "log"] =
        some (.map [(.text "level", .int 1)]) := by
  have lowerNested : (Value.map lowerLayer).IsNested :=
    .map (by decide) (List.forall_mem_cons.mpr
      ⟨.map (by decide) (List.forall_mem_cons.mpr
        ⟨.other rfl, List.forall_mem_singleton.mpr (.other rfl)⟩),
        List.forall_mem_singleton.mpr (.other rfl)⟩)
  have upperNested : (Value.map upperLayer).IsNested :=
    .map (by decide) (List.forall_mem_cons.mpr
      ⟨.map (by decide) (List.forall_mem_singleton.mpr (.other rfl)),
        List.forall_mem_singleton.mpr
          (.map (by decide) (List.forall_mem_singleton.mpr (.other rfl)))⟩)
  have merges := (merge_along_paths lowerNested upperNested).1
  refine ⟨lowerNested, upperNested, merges, ?_, ?_, ?_⟩
  · exact merges.upper_decides _ _ rfl (.inl rfl)
  · exact merges.lower_stays _ rfl (by decide)
  · exact merges.upper_decides _ _ rfl (.inr rfl)

/-- Where something other than a mapping is laid over a mapping, what the mapping holds is lost,
although nothing is set at its path. -/
theorem not_lower_stays_behind_replaced_mapping :
    ¬ ∀ (base added : List (Key × Value)) (path : List Key),
      (Value.map base).IsNested → (Value.map added).IsNested → settingAt? added path = none →
        settingAt? (merge base added) path = settingAt? base path := by
  intro lowerStays
  let base : List (Key × Value) := [(.text "a", .map [(.text "x", .int 2)])]
  let added : List (Key × Value) := [(.text "a", .int 1)]
  have baseNested : (Value.map base).IsNested :=
    .map (by decide) (List.forall_mem_singleton.mpr
      (.map (by decide) (List.forall_mem_singleton.mpr (.other rfl))))
  have addedNested : (Value.map added).IsNested :=
    .map (by decide) (List.forall_mem_singleton.mpr (.other rfl))
  have stays := lowerStays base added [.text "a", .text "x"] baseNested addedNested rfl
  have isLost : settingAt? (merge base added) [.text "a", .text "x"] = none := by
    rw [settingAt?, some_merge_eq_laidOver]
    exact heldAt?_laidOver_of_endsBefore (keysDiffer_of_isNested addedNested) (by decide) _
  rw [isLost] at stays
  cases stays

end Settings

end TypeCatalog
