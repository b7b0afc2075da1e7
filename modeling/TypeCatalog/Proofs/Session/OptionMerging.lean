import TypeCatalog.Proofs.Session.OptionChange
import TypeCatalog.Proofs.Settings.RuntimeOptions

namespace TypeCatalog

/-!
# What a change of options merges

A change installs the settings that it gives, merges page sizes kind by kind, and adds search roots
behind those that are there before it takes others out.  Made once more, it changes nothing.
-/

namespace OptionChanges

/-! ## Page sizes -/

/-- Page sizes by their kinds, with those that are given merged in; the size zero takes out the
page size of a kind. -/
def mergeSizes
    (sizes given : List (String × Value)) : List (String × Value) :=
  given.foldl
    (fun sizes change =>
      if isZero change.2 then sizes.filter fun entry => entry.1 != change.1
      else Schema.setUnder sizes change.1 change.2)
    sizes

/-- Page sizes under texts are merged by their kinds. -/
theorem mergeOverrides_entriesOf (sizes given : List (String × Value)) :
    mergeOverrides (Value.entriesOf sizes) (Value.entriesOf given) =
      Value.entriesOf (mergeSizes sizes given) := by
  induction given generalizing sizes with
  | nil =>
      rfl
  | cons change rest inductionHypothesis =>
      have unfolded :
          mergeOverrides (Value.entriesOf sizes) (Value.entriesOf (change :: rest)) =
            mergeOverrides
              (if isZero change.2 then
                (Value.entriesOf sizes).filter fun entry => !entry.1.same (.text change.1)
              else Value.insert (Value.entriesOf sizes) (.text change.1) change.2)
              (Value.entriesOf rest) :=
        rfl
      rw [unfolded, mergeSizes, List.foldl_cons]
      by_cases zero : isZero change.2 = true
      · rw [if_pos zero, if_pos zero]
        refine Eq.trans ?_ (inductionHypothesis _)
        congr 1
        rw [Value.entriesOf, Value.entriesOf, List.filter_map]
        congr 2
        funext entry
        simp [bne, beq_eq_decide]
      · rw [if_neg zero, if_neg zero, Value.insert_entriesOf_text]
        exact inductionHypothesis _

private theorem lookup_mergeSizes_of_not_given
    {given : List (String × Value)}
    {kind : String}
    (notGiven : kind ∉ given.map Prod.fst)
    (sizes : List (String × Value)) :
    (mergeSizes sizes given).lookup kind = sizes.lookup kind := by
  induction given generalizing sizes with
  | nil =>
      rfl
  | cons change rest inductionHypothesis =>
      rw [List.map_cons, List.mem_cons, not_or] at notGiven
      rw [mergeSizes, List.foldl_cons]
      refine (inductionHypothesis notGiven.2 _).trans ?_
      split
      · rw [Schema.lookup_without, if_neg notGiven.1]
      · exact Schema.lookup_setUnder_of_ne sizes change.2 notGiven.1

/-- A kind has the page size that is given for it, none when that is zero, and else the one it had
before. -/
theorem lookup_mergeSizes
    {given : List (String × Value)}
    (distinct : (given.map Prod.fst).Nodup)
    (sizes : List (String × Value))
    (kind : String) :
    (mergeSizes sizes given).lookup kind =
      match given.lookup kind with
      | .none => sizes.lookup kind
      | some size => if isZero size then .none else some size := by
  induction given generalizing sizes with
  | nil =>
      rfl
  | cons change rest inductionHypothesis =>
      obtain ⟨changed, size⟩ := change
      rw [List.map_cons, List.nodup_cons] at distinct
      rw [mergeSizes, List.foldl_cons, List.lookup_cons]
      by_cases isChanged : kind = changed
      · rw [isChanged, beq_self_eq_true]
        refine (lookup_mergeSizes_of_not_given distinct.1 _).trans ?_
        dsimp only
        split
        · rw [Schema.lookup_without, if_pos rfl]
        · exact Schema.lookup_setUnder_self sizes changed size
      · rw [beq_eq_false_iff_ne.mpr isChanged]
        refine (inductionHypothesis distinct.2 _).trans ?_
        cases rest.lookup kind with
        | some given =>
            rfl
        | none =>
            dsimp only
            split
            · rw [Schema.lookup_without, if_neg isChanged]
            · exact Schema.lookup_setUnder_of_ne sizes size isChanged

/-- Sizes are merged kind by kind: a kind has the number that is given for it, no size when that is
zero, and else the size it had before. -/
def SizesMerge
    (given : List (String × Value))
    (before after : List (String × Int)) : Prop :=
  ∀ kind,
    match given.lookup kind with
    | .none => after.lookup kind = before.lookup kind
    | some size =>
      if isZero size then after.lookup kind = .none
      else ∃ number, Schema.whole size = .ok number ∧ after.lookup kind = some number

private theorem nodup_mergeSizes
    {sizes : List (String × Value)}
    (distinct : (sizes.map Prod.fst).Nodup)
    (given : List (String × Value)) :
    ((mergeSizes sizes given).map Prod.fst).Nodup := by
  induction given generalizing sizes with
  | nil =>
      exact distinct
  | cons change rest inductionHypothesis =>
      rw [mergeSizes, List.foldl_cons]
      apply inductionHypothesis
      split
      · exact distinct.sublist (List.filter_sublist.map Prod.fst)
      · exact Schema.nodup_setUnder distinct change.1 change.2

/-- Merged page sizes that pass their check are merged kind by kind. -/
theorem sizesMerge_of_passes
    {given : List (String × Value)}
    {before after : List (String × Int)}
    (distinct : (given.map Prod.fst).Nodup)
    (passed :
      List.Forall₂ (Schema.PassesAs Schema.whole) (mergeSizes (RuntimeOptions.sizeValues before) given) after) :
    SizesMerge given before after := by
  intro kind
  have found := Schema.lookup_of_passesAs passed kind
  rw [lookup_mergeSizes distinct] at found
  cases isGiven : given.lookup kind with
  | none =>
      rw [isGiven] at found
      dsimp only at found ⊢
      rw [RuntimeOptions.lookup_sizeValues, Option.map_map] at found
      have okInjective : Function.Injective (Schema.Checked.ok (α := Int)) :=
        fun _ _ same => Schema.Checked.ok.inj same
      exact (Option.map_injective okInjective found).symm
  | some size =>
      rw [isGiven] at found
      dsimp only at found ⊢
      split
      · next zero =>
          rw [if_pos zero] at found
          simpa using found.symm
      · next notZero =>
          rw [if_neg notZero] at found
          cases isThere : after.lookup kind with
          | none =>
              rw [isThere] at found
              cases found
          | some number =>
              rw [isThere] at found
              exact ⟨number, Option.some.inj found, rfl⟩

/-- Merging sizes once more into those that came of it leaves what passes as it is. -/
theorem passes_of_sizesMerge
    {given sizes : List (String × Value)}
    {before after : List (String × Int)}
    (distinct : (given.map Prod.fst).Nodup)
    (distinctAfter : (after.map Prod.fst).Nodup)
    (merged : SizesMerge given before after)
    (passed : List.Forall₂ (Schema.PassesAs Schema.whole) sizes after) :
    List.Forall₂ (Schema.PassesAs Schema.whole) (mergeSizes sizes given) after := by
  have settled :
      ∀ change ∈ given,
        if isZero change.2 then after.lookup change.1 = .none
        else ∃ number, Schema.whole change.2 = .ok number ∧ after.lookup change.1 = some number := by
    intro change member
    have forKind := merged change.1
    rw [Schema.lookup_of_mem distinct member] at forKind
    exact forKind
  clear distinct merged
  induction given generalizing sizes with
  | nil =>
      exact passed
  | cons change rest inductionHypothesis =>
      rw [mergeSizes, List.foldl_cons]
      refine inductionHypothesis ?_ fun other member =>
        settled other (List.mem_cons_of_mem change member)
      have here := settled change List.mem_cons_self
      split
      · next zero =>
          -- The kind has no size any more, so there is none to take out.
          rw [if_pos zero] at here
          have allStay : (sizes.filter fun entry => entry.1 != change.1) = sizes := by
            rw [List.filter_eq_self]
            intro entry member
            have isKind := List.mem_map_of_mem (f := Prod.fst) member
            rw [Schema.map_fst_of_passesAs passed] at isKind
            obtain ⟨other, isThere, sameKind⟩ := List.mem_map.mp isKind
            rw [bne_iff_ne]
            intro isChanged
            have found := Schema.lookup_of_mem distinctAfter isThere
            rw [sameKind, isChanged, here] at found
            cases found
          rw [allStay]
          exact passed
      · next notZero =>
          rw [if_neg notZero] at here
          obtain ⟨number, isWhole, found⟩ := here
          refine Schema.passesAs_setUnder passed
            (List.mem_map_of_mem (Schema.mem_of_lookup found)) ?_
          intro other isThere sameKind
          have foundToo := Schema.lookup_of_mem distinctAfter isThere
          rw [sameKind, found] at foundToo
          rw [isWhole, Option.some.inj foundToo]

/-! ## Search roots -/

/-- Roots that are added stand behind those that are there already, in order and each once; then
those that are taken out are gone from both. -/
theorem mergeRoots_eq (before added removed : List String) :
    mergeRoots before added removed =
      (before ++ (added.filter fun root => !before.contains root).eraseDups).filter
        fun root => !removed.contains root := by
  have addedBehind :
      added.foldl (fun roots root => if roots.contains root then roots else roots ++ [root])
          before =
        before ++ (added.filter fun root => !before.contains root).eraseDups := by
    induction added generalizing before with
    | nil =>
        simp
    | cons root rest inductionHypothesis =>
        rw [List.foldl_cons, inductionHypothesis]
        by_cases isThere : before.contains root = true
        · rw [if_pos isThere, List.filter_cons_of_neg (by simpa using isThere)]
        · rw [if_neg isThere, List.filter_cons_of_pos (by simpa using isThere), List.eraseDups_cons,
            List.filter_filter, List.append_assoc, List.singleton_append]
          congr 3
          refine List.filter_congr fun other _ => ?_
          by_cases sameRoot : other = root <;> simp [sameRoot]
  rw [mergeRoots, addedBehind]

/-- Adding and taking out the same roots once more leaves all roots as they are. -/
theorem mergeRoots_again (before added removed : List String) :
    mergeRoots (mergeRoots before added removed) added removed =
      mergeRoots before added removed := by
  have merged := mergeRoots_eq before added removed
  -- What is added and not there was taken out, and is taken out again.
  have newAreRemoved :
      ∀ root ∈ (added.filter fun root =>
          !(mergeRoots before added removed).contains root).eraseDups,
        root ∈ removed := by
    intro root isNew
    rw [List.mem_eraseDups, List.mem_filter] at isNew
    obtain ⟨isAdded, notThere⟩ := isNew
    rw [merged] at notThere
    by_contra notRemoved
    simp [notRemoved, isAdded] at notThere
  have stays :
      ∀ root ∈ mergeRoots before added removed, root ∉ removed := by
    intro root isThere
    rw [merged] at isThere
    simpa using (List.mem_filter.mp isThere).2
  rw [mergeRoots_eq (mergeRoots before added removed), List.filter_append,
    List.filter_eq_self.mpr (by simpa using stays),
    List.filter_eq_nil_iff.mpr (by simpa using newAreRemoved), List.append_nil]

/-! ## Settings -/

/-- A setting that is given, or else the value that is in force. -/
def inForce (given current : Value) : Value :=
  match given with
  | .null => current
  | value => value

private theorem lookup?_insertAll_setting_self
    {base : List (Key × Value)}
    {name : String}
    {current : Value}
    (isCurrent : Value.lookup? base name = some current)
    (given : Value) :
    Value.lookup? (Value.insertAll base (setting name given)) name =
      some (inForce given current) := by
  cases given with
  | null =>
      exact isCurrent
  | _ =>
      exact Value.lookup?_insert_self base name _

private theorem lookup?_insertAll_setting_of_ne
    {name other : String}
    (different : other ≠ name)
    (base : List (Key × Value))
    (given : Value) :
    Value.lookup? (Value.insertAll base (setting name given)) other =
      Value.lookup? base other := by
  cases given with
  | null =>
      rfl
  | _ =>
      exact Value.lookup?_insert_of_ne base _ different

/-- Entries that set what is given under several names. -/
private def settings (given : List (String × Value)) : List (Key × Value) :=
  given.flatMap fun entry => setting entry.1 entry.2

private theorem insertAll_settings_cons
    (base : List (Key × Value))
    (first : String × Value)
    (rest : List (String × Value)) :
    Value.insertAll base (settings (first :: rest)) =
      Value.insertAll (Value.insertAll base (setting first.1 first.2)) (settings rest) := by
  simp only [Value.insertAll, settings, List.flatMap_cons, List.foldl_append]

private theorem lookup?_insertAll_settings_of_not_mem
    {given : List (String × Value)}
    {name : String}
    (notSet : name ∉ given.map Prod.fst)
    (base : List (Key × Value)) :
    Value.lookup? (Value.insertAll base (settings given)) name = Value.lookup? base name := by
  induction given generalizing base with
  | nil =>
      rfl
  | cons first rest inductionHypothesis =>
      rw [List.map_cons, List.mem_cons, not_or] at notSet
      rw [insertAll_settings_cons, inductionHypothesis notSet.2,
        lookup?_insertAll_setting_of_ne notSet.1]

/-- Each setting is in force as it is given, or else as it was, whatever the others are. -/
private theorem lookup?_insertAll_settings
    {given : List (String × Value)}
    (distinct : (given.map Prod.fst).Nodup)
    {name : String}
    {new current : Value}
    (isGiven : (name, new) ∈ given)
    {base : List (Key × Value)}
    (isCurrent : Value.lookup? base name = some current) :
    Value.lookup? (Value.insertAll base (settings given)) name = some (inForce new current) := by
  induction given generalizing base with
  | nil =>
      cases isGiven
  | cons first rest inductionHypothesis =>
      obtain ⟨notInRest, distinctInRest⟩ := List.nodup_cons.mp distinct
      rw [insertAll_settings_cons]
      rcases List.mem_cons.mp isGiven with rfl | inRest
      · rw [lookup?_insertAll_settings_of_not_mem notInRest]
        exact lookup?_insertAll_setting_self isCurrent new
      · refine inductionHypothesis distinctInRest inRest ?_
        rw [lookup?_insertAll_setting_of_ne, isCurrent]
        rintro rfl
        exact notInRest (List.mem_map.mpr ⟨_, inRest, rfl⟩)

private theorem optional_insertAll_settings_iff
    {α : Type}
    {check : Schema.Check α}
    {otherwise result : α}
    {given : List (String × Value)}
    (distinct : (given.map Prod.fst).Nodup)
    {name : String}
    {new current : Value}
    (isGiven : given.lookup name = some new)
    {base : List (Key × Value)}
    (isCurrent : Value.lookup? base name = some current) :
    Schema.optional (Value.insertAll base (settings given)) name otherwise check = .ok result ↔
      check (inForce new current) = .ok result := by
  rw [Schema.optional_eq_ok_iff,
    lookup?_insertAll_settings distinct (Schema.mem_of_lookup isGiven) isCurrent]

/-- The page sizes to set, if any are given. -/
def sizesToSet
    (current : RuntimeOptions)
    (given : List (Key × Value)) : Value :=
  if given.isEmpty then .null else .map (mergeOverrides (currentOverrides current) given)

/-- The search roots to set, if any are given. -/
def rootsToSet
    (current added removed : List String) : Value :=
  if added.isEmpty && removed.isEmpty then .null else .ofTexts (mergeRoots current added removed)

/-- All that changes set. -/
def settingsOf
    (changes : OptionChanges)
    (current : RuntimeOptions)
    (given : List (Key × Value))
    (added removed : List String) : List (Key × Value) :=
  setting "default_page_size" changes.defaultPageSize ++
    setting "cache_ttl_seconds" changes.cacheLifetime ++
    setting "include_non_public_by_default" changes.includeNonPublic ++
    setting "page_size_overrides" (sizesToSet current given) ++
    setting "search_roots" (rootsToSet current.searchRoots added removed)

theorem toEntries_eq
    (changes : OptionChanges)
    (current : RuntimeOptions)
    (added removed : List String) :
    changes.toEntries current added removed =
      (requestedOverrides changes.pageSizeOverrides).map fun given =>
        changes.settingsOf current given added removed := by
  unfold toEntries
  cases requestedOverrides changes.pageSizeOverrides with
  | error failure =>
      rfl
  | ok given =>
      have sizes :
          setting "page_size_overrides" (sizesToSet current given) =
            if given.isEmpty then []
            else
              [(.text "page_size_overrides",
                .map (mergeOverrides (currentOverrides current) given))] := by
        unfold sizesToSet
        split <;> rfl
      have roots :
          setting "search_roots" (rootsToSet current.searchRoots added removed) =
            if added.isEmpty && removed.isEmpty then []
            else
              [(.text "search_roots", .ofTexts (mergeRoots current.searchRoots added removed))] := by
        unfold rootsToSet
        split <;> rfl
      change _ = Except.ok (changes.settingsOf current given added removed)
      rw [settingsOf, sizes, roots]
      rfl

/-- What a change installs, setting by setting. -/
structure Installs
    (changes : OptionChanges)
    (given : List (String × Value))
    (added removed : List String)
    (before after : RuntimeOptions) : Prop where
  defaultPageSize :
    RuntimeOptions.checkDefaultSize
        (inForce changes.defaultPageSize (.ofNat before.defaultPageSize)) =
      .ok after.defaultPageSize
  pageSizeOverrides :
    RuntimeOptions.checkOverrides
        (.record (mergeSizes (RuntimeOptions.sizeValues before.pageSizeOverrides) given)) =
      .ok after.pageSizeOverrides
  cacheLifetime :
    Schema.whole (inForce changes.cacheLifetime (.int before.cacheLifetime)) =
      .ok after.cacheLifetime
  includeNonPublic :
    Schema.truth (inForce changes.includeNonPublic (.bool before.includeNonPublic)) =
      .ok after.includeNonPublic
  searchRoots : after.searchRoots = mergeRoots before.searchRoots added removed

/-- The size to set, or else those in force, are the merged ones. -/
private theorem inForce_sizesToSet
    (current : RuntimeOptions)
    (given : List (String × Value)) :
    inForce (sizesToSet current (Value.entriesOf given))
        (.record (RuntimeOptions.sizeValues current.pageSizeOverrides)) =
      .record (mergeSizes (RuntimeOptions.sizeValues current.pageSizeOverrides) given) := by
  have areCurrent :
      currentOverrides current = Value.entriesOf (RuntimeOptions.sizeValues current.pageSizeOverrides) := by
    rw [currentOverrides, Value.entriesOf, RuntimeOptions.sizeValues, List.map_map]
    rfl
  cases given with
  | nil =>
      rfl
  | cons change rest =>
      rw [sizesToSet, areCurrent, mergeOverrides_entriesOf]
      rfl

private theorem inForce_rootsToSet (current added removed : List String) :
    inForce (rootsToSet current added removed) (.ofTexts current) =
      .ofTexts (mergeRoots current added removed) := by
  rw [rootsToSet]
  split
  · next noneGiven =>
      rw [Bool.and_eq_true, List.isEmpty_iff, List.isEmpty_iff] at noneGiven
      rw [noneGiven.1, noneGiven.2, mergeRoots_eq]
      simp [inForce]
  · rfl

/-- What a change gives under each name. -/
private def givenSettings
    (changes : OptionChanges)
    (current : RuntimeOptions)
    (given : List (Key × Value))
    (added removed : List String) : List (String × Value) :=
  [("default_page_size", changes.defaultPageSize), ("cache_ttl_seconds", changes.cacheLifetime),
    ("include_non_public_by_default", changes.includeNonPublic),
    ("page_size_overrides", sizesToSet current given),
    ("search_roots", rootsToSet current.searchRoots added removed)]

private theorem settingsOf_eq
    (changes : OptionChanges)
    (current : RuntimeOptions)
    (given : List (Key × Value))
    (added removed : List String) :
    changes.settingsOf current given added removed =
      settings (changes.givenSettings current given added removed) := by
  simp [settingsOf, settings, givenSettings]

private theorem distinct_givenSettings
    (changes : OptionChanges)
    (current : RuntimeOptions)
    (given : List (Key × Value))
    (added removed : List String) :
    ((changes.givenSettings current given added removed).map Prod.fst).Nodup := by
  simp [givenSettings]

private theorem readFrom_settingsOf_iff
    {changes : OptionChanges}
    {given : List (String × Value)}
    {added removed : List String}
    {before after : RuntimeOptions} :
    after.ReadFrom
        (Value.insertAll before.storedEntries
          (changes.settingsOf before (Value.entriesOf given) added removed)) ↔
      changes.Installs given added removed before after := by
  have distinct := changes.distinct_givenSettings before (Value.entriesOf given) added removed
  have rootsRead :
      Schema.sequenceOf Schema.text
            (.ofTexts (mergeRoots before.searchRoots added removed)) =
          .ok after.searchRoots ↔
        after.searchRoots = mergeRoots before.searchRoots added removed := by
    rw [Schema.sequenceOf_text_ofTexts, Schema.Checked.ok.injEq, eq_comm]
  rw [settingsOf_eq]
  constructor
  · rintro ⟨size, sizes, lifetime, visibility, roots⟩
    rw [optional_insertAll_settings_iff distinct rfl rfl] at size sizes lifetime visibility roots
    refine ⟨size, ?_, lifetime, visibility, rootsRead.mp ?_⟩
    · rw [← inForce_sizesToSet]
      exact sizes
    · rw [← inForce_rootsToSet]
      exact roots
  · rintro ⟨size, sizes, lifetime, visibility, roots⟩
    rw [← inForce_sizesToSet] at sizes
    rw [← rootsRead, ← inForce_rootsToSet] at roots
    constructor <;> rw [optional_insertAll_settings_iff distinct rfl rfl] <;> assumption

/-- Options are updated with the settings of a change exactly as the change installs them. -/
theorem update_settingsOf_eq_ok_iff
    {changes : OptionChanges}
    {given : List (String × Value)}
    {added removed : List String}
    {before after : RuntimeOptions}
    (inBounds : before.InBounds) :
    before.update (changes.settingsOf before (Value.entriesOf given) added removed) = .ok after ↔
      changes.Installs given added removed before after := by
  rw [← readFrom_settingsOf_iff, ← RuntimeOptions.ofEntries_eq_ok_iff, RuntimeOptions.update]
  split
  · next nothing =>
      -- Without settings the options are not checked again, but they would pass.
      rw [List.isEmpty_iff.mp nothing, Value.insertAll, List.foldl_nil,
        RuntimeOptions.ofEntries_storedEntries inBounds]
  · rfl

/-! ## What a change installs -/

/-- A setting that is given is installed as what its check makes of it; else it is kept. -/
def Settles
    {α : Type}
    (check : Schema.Check α)
    (given : Value)
    (before after : α) : Prop :=
  match given with
  | .null => after = before
  | value => check value = .ok after

private theorem settles_of_inForce
    {α : Type}
    {check : Schema.Check α}
    {given current : Value}
    {before after : α}
    (currentPasses : check current = .ok before)
    (installed : check (inForce given current) = .ok after) :
    Settles check given before after := by
  cases given with
  | null =>
      exact Schema.Checked.ok.inj (installed.symm.trans currentPasses)
  | _ =>
      exact installed

private theorem inForce_again
    {α : Type}
    {check : Schema.Check α}
    {given current installed : Value}
    {after : α}
    (passes : check (inForce given current) = .ok after)
    (installedPasses : check installed = .ok after) :
    check (inForce given installed) = .ok after := by
  cases given with
  | null =>
      exact installedPasses
  | _ =>
      exact passes

/-- A change merged into options: what is given is installed and all else is kept. -/
structure Merges
    (changes : OptionChanges)
    (given : List (String × Value))
    (added removed : List String)
    (before after : RuntimeOptions) : Prop where
  defaultPageSize :
    Settles Schema.whole changes.defaultPageSize (before.defaultPageSize : Int)
      after.defaultPageSize
  cacheLifetime :
    Settles Schema.whole changes.cacheLifetime before.cacheLifetime after.cacheLifetime
  includeNonPublic :
    Settles Schema.truth changes.includeNonPublic before.includeNonPublic after.includeNonPublic
  pageSizeOverrides : SizesMerge given before.pageSizeOverrides after.pageSizeOverrides
  searchRoots :
    after.searchRoots =
      (before.searchRoots ++
          (added.filter fun root => !before.searchRoots.contains root).eraseDups).filter
        fun root => !removed.contains root

namespace Installs

variable {changes : OptionChanges} {given : List (String × Value)} {added removed : List String}
  {before after : RuntimeOptions}

private theorem passes
    (oneSizeEach : before.OneSizeEach)
    (installs : changes.Installs given added removed before after) :
    List.Forall₂ (Schema.PassesAs Schema.whole)
      (mergeSizes (RuntimeOptions.sizeValues before.pageSizeOverrides) given)
      after.pageSizeOverrides := by
  have distinct :
      ((RuntimeOptions.sizeValues before.pageSizeOverrides).map Prod.fst).Nodup := by
    rw [Schema.map_fst_of_passesAs (RuntimeOptions.sizeValues_passes _)]
    exact oneSizeEach
  exact
    (Schema.mappingOf_record_eq_ok_iff (nodup_mergeSizes distinct given)).mp
      (RuntimeOptions.checkOverrides_eq_ok_iff.mp installs.pageSizeOverrides).1

/-- What a change installs is the change merged into the options. -/
theorem merges
    (oneSizeEach : before.OneSizeEach)
    (distinct : (given.map Prod.fst).Nodup)
    (installs : changes.Installs given added removed before after) :
    changes.Merges given added removed before after := by
  constructor
  · have size := (RuntimeOptions.checkDefaultSize_eq_ok_iff.mp installs.defaultPageSize).1
    exact settles_of_inForce rfl size
  · exact settles_of_inForce rfl installs.cacheLifetime
  · exact settles_of_inForce rfl installs.includeNonPublic
  · exact sizesMerge_of_passes distinct (installs.passes oneSizeEach)
  · rw [installs.searchRoots, mergeRoots_eq]

/-- What is installed is within the bounds. -/
theorem inBounds
    (installs : changes.Installs given added removed before after) :
    after.InBounds where
  default_bounds := (RuntimeOptions.checkDefaultSize_eq_ok_iff.mp installs.defaultPageSize).2
  override_bounds := (RuntimeOptions.checkOverrides_eq_ok_iff.mp installs.pageSizeOverrides).2
  oneSizeEach :=
    Schema.nodup_of_mappingOf
      (RuntimeOptions.checkOverrides_eq_ok_iff.mp installs.pageSizeOverrides).1

/-- A change that was installed installs the same once more. -/
theorem again
    (oneSizeEach : before.OneSizeEach)
    (distinct : (given.map Prod.fst).Nodup)
    (installs : changes.Installs given added removed before after) :
    changes.Installs given added removed after after := by
  have inBounds := installs.inBounds
  have sizesDistinct :
      ((RuntimeOptions.sizeValues after.pageSizeOverrides).map Prod.fst).Nodup := by
    rw [Schema.map_fst_of_passesAs (RuntimeOptions.sizeValues_passes _)]
    exact inBounds.oneSizeEach
  have merged := installs.merges oneSizeEach distinct
  constructor
  · exact
      inForce_again installs.defaultPageSize
        (RuntimeOptions.checkDefaultSize_eq_ok_iff.mpr ⟨rfl, inBounds.default_bounds⟩)
  · refine RuntimeOptions.checkOverrides_eq_ok_iff.mpr ⟨?_, inBounds.override_bounds⟩
    refine (Schema.mappingOf_record_eq_ok_iff (nodup_mergeSizes sizesDistinct given)).mpr ?_
    exact
      passes_of_sizesMerge distinct inBounds.oneSizeEach merged.pageSizeOverrides
        (RuntimeOptions.sizeValues_passes _)
  · exact inForce_again installs.cacheLifetime rfl
  · exact inForce_again installs.includeNonPublic rfl
  · rw [installs.searchRoots, mergeRoots_again]

end Installs

end OptionChanges

end TypeCatalog
