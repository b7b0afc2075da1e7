import TypeCatalog.Proofs.Session.OptionMerging

namespace TypeCatalog

/-!
# Options through a run

Options are changed by calls, by fields that are set directly and by options that take their place.
They stay within their bounds through every run, and a call that changes them merges exactly what
it gives.
-/

/-- One step of a session as far as its options go. -/
inductive OptionStep where
  | answer (requestId : String) (call : Call)
  | update (fields : List (Key × Value))
  | replace (options : RuntimeOptions)
  | amid (source : ModuleSource) (files : FileTree) (clock : Binary64)
deriving Repr

/-- Whether a step leaves the bounds on options to their check, or stays within them. -/
def OptionStep.StaysInBounds : OptionStep → Prop
  | .replace options => options.InBounds
  | .answer .. | .update _ | .amid .. => True

/-- Whether page sizes, if they are given, are given under texts, one for each kind. -/
def OptionChanges.NamesKinds (changes : OptionChanges) : Prop :=
  ∀ entries, changes.pageSizeOverrides = .map entries →
    ∃ given : List (String × Value),
      (given.map Prod.fst).Nodup ∧ entries = Value.entriesOf given

namespace Session

/-- The session after a step.  Fields that do not pass their check are not set. -/
def optionStep
    (session : Session) : OptionStep → Session
  | .answer requestId call => (session.answer requestId call).2
  | .update fields =>
    match session.options.update fields with
    | .ok options => { session with options := options }
    | .rejected _ | .crashed _ => session
  | .replace options => { session with options := options }
  | .amid source files clock => session.amid source files clock

/-- The session after several steps. -/
def optionRun
    (session : Session)
    (steps : List OptionStep) : Session :=
  steps.foldl optionStep session

/-- What a session reads from a change: the page sizes that it gives, the roots that it adds and
those that it takes out, each resolved. -/
structure ReadsChange
    (session : Session)
    (changes : OptionChanges)
    (given : List (String × Value))
    (added removed : List String) : Prop where
  sizes :
    OptionChanges.requestedOverrides changes.pageSizeOverrides = .ok (Value.entriesOf given)
  distinct : (given.map Prod.fst).Nodup
  added : rootsOf changes.addedRoots session.checkedRoot = .ok added
  removed : rootsOf changes.removedRoots session.resolvedRoot = .ok removed

/-- Options that come of merging exactly what a change gives into those of a session. -/
def Merges
    (session : Session)
    (changes : OptionChanges)
    (after : RuntimeOptions) : Prop :=
  ∃ given added removed,
    session.ReadsChange changes given added removed ∧
      changes.Merges given added removed session.options after

variable {session : Session} {changes : OptionChanges} {given : List (String × Value)}
  {added removed : List String}

theorem changedOptions_eq
    (reads : session.ReadsChange changes given added removed) :
    session.changedOptions changes =
      (let settings :=
        changes.settingsOf session.options (Value.entriesOf given) added removed
      (session.options.update settings).toExcept.map fun options =>
        (options, OptionChanges.changedNames settings)) := by
  have entries :
      changes.toEntries session.options added removed =
        .ok (changes.settingsOf session.options (Value.entriesOf given) added removed) := by
    rw [OptionChanges.toEntries_eq, reads.sizes]
    rfl
  simp only [changedOptions, reads.added, reads.removed, entries, bind, Except.bind]
  cases (session.options.update
    (changes.settingsOf session.options (Value.entriesOf given) added removed)).toExcept <;> rfl

/-- A change that passes was read, and installs what it gives. -/
theorem exists_installs_of_changedOptions
    {after : RuntimeOptions}
    {names : List String}
    (inBounds : session.options.InBounds)
    (namesKinds : changes.NamesKinds)
    (changed : session.changedOptions changes = .ok (after, names)) :
    ∃ given added removed,
      session.ReadsChange changes given added removed ∧
        changes.Installs given added removed session.options after := by
  obtain ⟨added, addedRead, rest⟩ := Failure.exists_of_bind_eq_ok changed
  obtain ⟨removed, removedRead, rest⟩ := Failure.exists_of_bind_eq_ok rest
  obtain ⟨_, entriesRead, _⟩ := Failure.exists_of_bind_eq_ok rest
  rw [OptionChanges.toEntries_eq] at entriesRead
  obtain ⟨entries, requested, _⟩ := Failure.exists_of_map_eq_ok entriesRead
  obtain ⟨given, distinct, rfl⟩ :
      ∃ given : List (String × Value),
        (given.map Prod.fst).Nodup ∧ entries = Value.entriesOf given := by
    unfold OptionChanges.requestedOverrides at requested
    split at requested
    · next areGiven =>
        cases requested
        exact namesKinds _ areGiven
    · split at requested <;> cases requested
      exact ⟨[], List.nodup_nil, rfl⟩
  have reads : session.ReadsChange changes given added removed :=
    ⟨requested, distinct, addedRead, removedRead⟩
  rw [changedOptions_eq reads] at changed
  obtain ⟨options, passed, same⟩ := Failure.exists_of_map_eq_ok changed
  cases same
  refine ⟨given, added, removed, reads, ?_⟩
  exact
    (OptionChanges.update_settingsOf_eq_ok_iff inBounds).mp
      (Schema.Checked.eq_ok_of_toExcept passed)

/-- Options that a change installed are left as they are by the same change. -/
theorem changedOptions_again
    {after : RuntimeOptions}
    (inBounds : session.options.InBounds)
    (reads : session.ReadsChange changes given added removed)
    (installs : changes.Installs given added removed session.options after) :
    ∃ names,
      { session with options := after }.changedOptions changes = .ok (after, names) := by
  have readsAgain :
      { session with options := after }.ReadsChange changes given added removed :=
    ⟨reads.sizes, reads.distinct, reads.added, reads.removed⟩
  have passes :
      after.update (changes.settingsOf after (Value.entriesOf given) added removed) = .ok after :=
    (OptionChanges.update_settingsOf_eq_ok_iff installs.inBounds).mpr
      (installs.again inBounds.oneSizeEach reads.distinct)
  rw [changedOptions_eq readsAgain]
  simp only [passes]
  exact ⟨_, rfl⟩

/-- A change that is not answered with an error is merged; one that is merged or refused leaves the
options as they are when it is made once more. -/
theorem merges_or_refuses
    (inBounds : session.options.InBounds)
    (namesKinds : changes.NamesKinds)
    (requestId again : String) :
    let answered := session.answer requestId (.updateOptions changes)
    let repeated := answered.2.answer again (.updateOptions changes)
    (session.Merges changes answered.2.options ∨
        answered.1.isError = true ∧ answered.2.options = session.options) ∧
      repeated.2.options = answered.2.options := by
  intro answered repeated
  have answeredIs : answered = session.updateOptions requestId changes :=
    rfl
  have repeatedIs : repeated = answered.2.updateOptions again changes :=
    rfl
  cases changed : session.changedOptions changes with
  | error failure =>
      rw [updateOptions, changed] at answeredIs
      rw [updateOptions, answeredIs, changed] at repeatedIs
      rw [repeatedIs, answeredIs]
      exact ⟨.inr ⟨rfl, rfl⟩, rfl⟩
  | ok found =>
      obtain ⟨after, names⟩ := found
      obtain ⟨given, added, removed, reads, installs⟩ :=
        exists_installs_of_changedOptions inBounds namesKinds changed
      have merges := installs.merges inBounds.oneSizeEach reads.distinct
      obtain ⟨_, changedAgain⟩ := changedOptions_again inBounds reads installs
      rw [updateOptions, changed] at answeredIs
      rw [updateOptions, answeredIs, changedAgain] at repeatedIs
      rw [repeatedIs, answeredIs]
      exact ⟨.inl ⟨given, added, removed, reads, merges⟩, rfl⟩

/-! ## Runs -/

theorem inBounds_optionStep
    {step : OptionStep}
    (inBounds : session.options.InBounds)
    (staysInBounds : step.StaysInBounds) :
    (session.optionStep step).options.InBounds := by
  cases step with
  | answer requestId call =>
      cases call with
      | query call =>
          change (session.answerQuery requestId call).2.options.InBounds
          rw [options_answerQuery]
          exact inBounds
      | updateOptions changes =>
          change (session.updateOptions requestId changes).2.options.InBounds
          unfold updateOptions
          split
          · exact inBounds
          · next changed =>
              obtain ⟨_, _, changed⟩ := Failure.exists_of_bind_eq_ok changed
              obtain ⟨_, _, changed⟩ := Failure.exists_of_bind_eq_ok changed
              obtain ⟨_, _, changed⟩ := Failure.exists_of_bind_eq_ok changed
              obtain ⟨_, passed, changed⟩ := Failure.exists_of_bind_eq_ok changed
              cases changed
              exact inBounds.update (Schema.Checked.eq_ok_of_toExcept passed)
      | showOptions | describeErrors =>
          exact inBounds
  | update fields =>
      rw [optionStep]
      split
      · next updated =>
          exact inBounds.update updated
      · exact inBounds
      · exact inBounds
  | replace options =>
      exact staysInBounds
  | amid =>
      exact inBounds

/-- Options within their bounds stay so through a run. -/
theorem inBounds_optionRun
    {steps : List OptionStep}
    (inBounds : session.options.InBounds)
    (stayInBounds : ∀ step ∈ steps, step.StaysInBounds) :
    (session.optionRun steps).options.InBounds := by
  induction steps generalizing session with
  | nil =>
      exact inBounds
  | cons step rest inductionHypothesis =>
      refine inductionHypothesis ?_ fun other member =>
        stayInBounds other (List.mem_cons_of_mem step member)
      exact inBounds_optionStep inBounds (stayInBounds step List.mem_cons_self)

/-- After every run from options within their bounds, in which only such options take their place,
the options are within their bounds.  A change made there installs each setting that it gives and
keeps the others, merges page sizes kind by kind and search roots in order, or it is answered with an
error and leaves the options alone; and made once more it leaves them as they are. -/
theorem options_merge_exactly_after_run
    {steps : List OptionStep}
    (inBounds : session.options.InBounds)
    (stayInBounds : ∀ step ∈ steps, step.StaysInBounds) :
    let reached := session.optionRun steps
    reached.options.InBounds ∧
      ∀ changes : OptionChanges, changes.NamesKinds → ∀ requestId again : String,
        let answered := reached.answer requestId (.updateOptions changes)
        let repeated := answered.2.answer again (.updateOptions changes)
        (reached.Merges changes answered.2.options ∨
            answered.1.isError = true ∧ answered.2.options = reached.options) ∧
          repeated.2.options = answered.2.options := by
  intro reached
  have stayed := inBounds_optionRun inBounds stayInBounds
  exact ⟨stayed, fun _ namesKinds => merges_or_refuses stayed namesKinds⟩

/-- A session over no modules in a directory with one directory in it. -/
def overOneDirectory : Session :=
  start (.ofStore (.registry .empty))
    ((FileTree.empty (.ofText "/work") (.ofText "/home")).makeDirectory (.ofText "a"))
    RuntimeOptions.standard (.zero false)

/-- Options with two page sizes and a search root. -/
def ofTwoSizes : RuntimeOptions :=
  { RuntimeOptions.standard with
    pageSizeOverrides := [("type.list", 5), ("member.all", 6)]
    searchRoots := ["/work/b"] }

/-- A change that takes out one page size and one root, sets the other size and adds a root twice. -/
def mergingChange : OptionChanges :=
  { OptionChanges.none with
    cacheLifetime := .int 60
    pageSizeOverrides := .record [("type.list", .int 0), ("member.all", .int 9)]
    addedRoots := .ofTexts ["a", "a"]
    removedRoots := .ofTexts ["b"] }

/-- The options that the change merges into. -/
def ofMergedSizes : RuntimeOptions :=
  { RuntimeOptions.standard with
    pageSizeOverrides := [("member.all", 9)]
    cacheLifetime := 60
    searchRoots := ["/work/a"] }

theorem inBounds_ofTwoSizes : ofTwoSizes.InBounds := by
  refine ⟨⟨by decide, by decide⟩, ?_, by unfold RuntimeOptions.OneSizeEach; decide⟩
  simp [ofTwoSizes, RuntimeOptions.IsPageSize, Limits.maximumPageSize]

theorem namesKinds_mergingChange : mergingChange.NamesKinds := by
  intro entries areGiven
  cases areGiven
  exact ⟨[("type.list", .int 0), ("member.all", .int 9)], by decide, rfl⟩

/-- A field is set and then other options take the place of all. -/
def replacingSteps : List OptionStep :=
  [.update [(.text "default_page_size", .int 7)], .replace ofTwoSizes]

theorem replacingSteps_stayInBounds : ∀ step ∈ replacingSteps, step.StaysInBounds := by
  intro step member
  simp only [replacingSteps, List.mem_cons, List.not_mem_nil, or_false] at member
  rcases member with rfl | rfl
  · trivial
  · exact inBounds_ofTwoSizes

/-- The session that the steps reach. -/
def overMergedSizes : Session :=
  overOneDirectory.optionRun replacingSteps

theorem overMergedSizes_eq :
    overMergedSizes = { overOneDirectory with options := ofTwoSizes } := by
  simp only [overMergedSizes, optionRun, replacingSteps, List.foldl_cons, List.foldl_nil,
    optionStep]
  split <;> rfl

theorem answer_mergingChange :
    (overMergedSizes.answer "1" (.updateOptions mergingChange)).2.options = ofMergedSizes := by
  rw [overMergedSizes_eq]
  decide +kernel

theorem options_ne_answer_mergingChange :
    (overMergedSizes.answer "1" (.updateOptions mergingChange)).2.options ≠
      overMergedSizes.options := by
  rw [answer_mergingChange, overMergedSizes_eq]
  decide

/-- A change is merged into options that took the place of others. -/
theorem options_merge_exactly_into_two_sizes :
    overOneDirectory.options.InBounds ∧
      (∀ step ∈ replacingSteps, step.StaysInBounds) ∧
      mergingChange.NamesKinds ∧
      overMergedSizes.Merges mergingChange ofMergedSizes := by
  have startInBounds : overOneDirectory.options.InBounds :=
    RuntimeOptions.inBounds_standard
  have afterRun :=
    (options_merge_exactly_after_run startInBounds replacingSteps_stayInBounds).2 mergingChange
      namesKinds_mergingChange "1" "2"
  change (overMergedSizes.Merges _ _ ∨ _) ∧ _ at afterRun
  refine ⟨startInBounds, replacingSteps_stayInBounds,
    namesKinds_mergingChange, ?_⟩
  rw [← answer_mergingChange]
  exact afterRun.1.resolve_right fun refused => options_ne_answer_mergingChange refused.2

end Session

end TypeCatalog
