import TypeCatalog.Proofs.Json.Record
import TypeCatalog.Proofs.Session.SizeCeiling
import TypeCatalog.Proofs.Session.Steps

namespace TypeCatalog

/-!
# What a change of options leaves behind

A change is checked as a whole, so a change that is refused leaves the options alone.  A change that
passes is in force before its answer is made.  The answer then shows the options in force, or it
cannot be written: then the change is in force although the caller is told of an error.
-/

/-- The options that an answer shows, if it shows any. -/
def Envelope.shownOptions? : Envelope → Option Value
  | .success _ data => data.field? "options"
  | .failure _ => none

namespace RuntimeOptions

private theorem sortedOverrides_perm (options : RuntimeOptions) :
    options.sortedOverrides.Perm options.pageSizeOverrides :=
  List.mergeSort_perm _ _

/-- Options with one page size for each kind are settled as they stand. -/
theorem OneSizeEach.settled_toValue
    {options : RuntimeOptions}
    (oneSizeEach : options.OneSizeEach) :
    Json.settled options.toValue = options.toValue := by
  have sizesDistinct :
      ((options.sortedOverrides.map fun entry => (entry.1, Value.int entry.2)).map
        Prod.fst).Nodup := by
    rw [List.map_map]
    exact (options.sortedOverrides_perm.map Prod.fst).nodup_iff.mpr oneSizeEach
  have sizesSettled :
      Json.settled (.record (options.sortedOverrides.map fun entry => (entry.1, .int entry.2))) =
        .record (options.sortedOverrides.map fun entry => (entry.1, .int entry.2)) := by
    rw [Json.settled_record sizesDistinct, List.map_map]
    rfl
  have rootsSettled :
      Json.settled (.ofTexts options.searchRoots) = .ofTexts options.searchRoots := by
    rw [Value.ofTexts, Json.settled, Json.settledItems_eq_map, List.map_map]
    rfl
  rw [toValue, Json.settled_record (by simp)]
  simp only [List.map_cons, List.map_nil, sizesSettled, rootsSettled]
  rfl

end RuntimeOptions

namespace Session

theorem oneSizeEach_of_changedOptions
    {session : Session}
    {changes : OptionChanges}
    {options : RuntimeOptions}
    {names : List String}
    (oneSizeEach : session.options.OneSizeEach)
    (changed : session.changedOptions changes = .ok (options, names)) :
    options.OneSizeEach := by
  obtain ⟨_, _, changed⟩ := Failure.exists_of_bind_eq_ok changed
  obtain ⟨_, _, changed⟩ := Failure.exists_of_bind_eq_ok changed
  obtain ⟨entries, _, changed⟩ := Failure.exists_of_bind_eq_ok changed
  obtain ⟨updated, passed, changed⟩ := Failure.exists_of_bind_eq_ok changed
  cases changed
  exact oneSizeEach.update (Schema.Checked.eq_ok_of_toExcept passed)

/-- Answering a call keeps one page size for each kind. -/
theorem oneSizeEach_answer
    {session : Session}
    (oneSizeEach : session.options.OneSizeEach)
    (requestId : String)
    (call : Call) :
    (session.answer requestId call).2.options.OneSizeEach := by
  cases call with
  | query call =>
      change (session.answerQuery requestId call).2.options.OneSizeEach
      rw [options_answerQuery]
      exact oneSizeEach
  | updateOptions changes =>
      change (session.updateOptions requestId changes).2.options.OneSizeEach
      unfold updateOptions
      split
      · exact oneSizeEach
      · next changed =>
          exact oneSizeEach_of_changedOptions oneSizeEach changed
  | showOptions | describeErrors =>
      exact oneSizeEach

theorem Reachable.oneSizeEach
    {session : Session}
    (reachable : session.Reachable) :
    session.options.OneSizeEach := by
  induction reachable with
  | start _ _ _ oneSizeEach =>
      exact oneSizeEach
  | answer requestId call _ inductionHypothesis =>
      exact oneSizeEach_answer inductionHypothesis requestId call
  | amid _ _ _ _ inductionHypothesis =>
      exact inductionHypothesis

/-- A change of options changes nothing else. -/
theorem updateOptions_eq
    (session : Session)
    (requestId : String)
    (changes : OptionChanges) :
    (session.updateOptions requestId changes).2 =
      { session with options := (session.updateOptions requestId changes).2.options } := by
  unfold updateOptions
  split <;> rfl

private theorem shownOptions?_of_envelopeOf
    {kind : String}
    {options : RuntimeOptions}
    {names : List String}
    {envelope : Envelope}
    (oneSizeEach : options.OneSizeEach)
    (made :
      envelopeOf kind (.record [("options", options.toValue), ("changed", .ofTexts names)]) =
        .ok envelope) :
    envelope.shownOptions? = some options.toValue := by
  rw [eq_success_of_envelopeOf made, Json.settled_record (by simp)]
  simp [Envelope.shownOptions?, oneSizeEach.settled_toValue]

/-- In every session that can be reached, a change that is answered with data shows the options in
force.  One that is answered with an error leaves the options as they were, or it is in force and
only its answer cannot be written. -/
theorem options_of_updateOptions
    {session : Session}
    (reachable : session.Reachable)
    (requestId : String)
    (changes : OptionChanges) :
    let answered := session.answer requestId (.updateOptions changes)
    (answered.1.isError = false →
      answered.1.shownOptions? = some answered.2.options.toValue) ∧
    (answered.1.isError = true →
      answered.2.options = session.options ∨
        ∃ (names : List String) (failure : Failure),
          session.changedOptions changes = .ok (answered.2.options, names) ∧
            failure.OfWriting ∧ answered.1 = .failure (failure.toError requestId)) := by
  intro answered
  have answeredIs : answered = session.updateOptions requestId changes :=
    rfl
  rw [updateOptions] at answeredIs
  cases changed : session.changedOptions changes with
  | error failure =>
      rw [changed] at answeredIs
      rw [answeredIs]
      refine ⟨fun noError => ?_, fun _ => .inl rfl⟩
      cases noError
  | ok found =>
      -- The change is in force from here on: all that can fail is writing its answer.
      obtain ⟨options, names⟩ := found
      have oneSizeEach := oneSizeEach_of_changedOptions reachable.oneSizeEach changed
      simp only [changed] at answeredIs
      cases made :
          envelopeOf OperationKind.runtimeOptions.word
            (.record [("options", options.toValue), ("changed", .ofTexts names)]) with
      | error failure =>
          rw [made] at answeredIs
          rw [answeredIs]
          refine ⟨fun noError => ?_, fun _ => ?_⟩
          · cases noError
          · exact .inr ⟨names, failure, rfl, ofWriting_of_envelopeOf made, rfl⟩
      | ok envelope =>
          rw [made] at answeredIs
          rw [answeredIs]
          refine ⟨fun _ => shownOptions?_of_envelopeOf oneSizeEach made, fun isError => ?_⟩
          rw [conclude, (fits_of_envelopeOf made).noError] at isError
          cases isError

/-- A session with one search root and no modules. -/
def overRoot (root : String) : Session :=
  start (.ofStore (.registry .empty)) (.empty (.ofText "/work") (.ofText "/home"))
    { RuntimeOptions.standard with searchRoots := [root] } (.zero false)

theorem reachable_overRoot (root : String) : (overRoot root).Reachable :=
  .start _ _ _ RuntimeOptions.oneSizeEach_standard

/-- The change to pages of one item. -/
def singlePages : OptionChanges :=
  { OptionChanges.none with defaultPageSize := .int 1 }

/-- A change that is answered with data is shown as it is in force. -/
theorem options_of_shown_change :
    let answered := (overRoot "r").answer "1" (.updateOptions singlePages)
    answered.1.isError = false ∧
      answered.1.shownOptions? = some answered.2.options.toValue := by
  intro answered
  have noError : answered.1.isError = false := by
    decide +kernel
  exact ⟨noError, (options_of_updateOptions (reachable_overRoot "r") "1" singlePages).1 noError⟩

/-! ## A change in force behind an error -/

private theorem length_root_le
    {options : RuntimeOptions}
    {root : String}
    (member : root ∈ options.searchRoots)
    (names : List String) :
    root.toList.length ≤
      (Json.characters .compact 1
        (.record [("options", options.toValue), ("changed", .ofTexts names)])).length := by
  have inRoots :
      (Json.characters .compact 4 (.text root)).length ≤
        (Json.characters .compact 3 (.ofTexts options.searchRoots)).length :=
    Json.length_le_of_mem_list (List.mem_map_of_mem member)
  have inOptions :
      (Json.characters .compact 3 (.ofTexts options.searchRoots)).length ≤
        (Json.characters .compact 2 options.toValue).length :=
    Json.length_le_of_mem_record
      (show ("search_roots", Value.ofTexts options.searchRoots) ∈ _ by simp)
  have inData :
      (Json.characters .compact 2 options.toValue).length ≤
        (Json.characters .compact 1
          (.record [("options", options.toValue), ("changed", .ofTexts names)])).length :=
    Json.length_le_of_mem_record
      (show ("options", options.toValue) ∈
          [("options", options.toValue), ("changed", Value.ofTexts names)] by
        simp)
  exact Nat.le_trans (Json.length_le_length_stringCharacters root)
    (Nat.le_trans inRoots (Nat.le_trans inOptions inData))

/-- A change that leaves a search root above the ceiling in force is answered with an error. -/
theorem updateOptions_of_long_root
    {session : Session}
    {changes : OptionChanges}
    {options : RuntimeOptions}
    {names : List String}
    {root : String}
    (changed : session.changedOptions changes = .ok (options, names))
    (member : root ∈ options.searchRoots)
    (long : Limits.maximumResponse < root.toList.length)
    (requestId : String) :
    (session.answer requestId (.updateOptions changes)).1.isError = true ∧
      (session.answer requestId (.updateOptions changes)).2.options = options := by
  obtain ⟨failure, refused⟩ :
      ∃ failure,
        envelopeOf OperationKind.runtimeOptions.word
          (.record [("options", options.toValue), ("changed", .ofTexts names)]) =
            .error failure :=
    exists_failure_of_large (Nat.lt_of_lt_of_le long (length_root_le member names))
  simp only [answer, updateOptions, changed, refused]
  exact ⟨rfl, trivial⟩

private theorem changedOptions_overRoot (root : String) :
    ((overRoot root).changedOptions singlePages).map Prod.fst =
      .ok { RuntimeOptions.standard with defaultPageSize := 1, searchRoots := [root] } := by
  rfl

/-- With a search root above the ceiling a change is in force although it is answered with an
error. -/
theorem options_changed_behind_error :
    let session := overRoot (String.ofList (List.replicate (Limits.maximumResponse + 1) 'r'))
    let answered := session.answer "1" (.updateOptions singlePages)
    session.Reachable ∧ answered.1.isError = true ∧ answered.2.options ≠ session.options := by
  intro session answered
  obtain ⟨⟨options, names⟩, changed, rfl⟩ :=
    Failure.exists_of_map_eq_ok (changedOptions_overRoot _)
  have long :
      Limits.maximumResponse <
        (String.ofList (List.replicate (Limits.maximumResponse + 1) 'r')).toList.length := by
    rw [String.toList_ofList, List.length_replicate]
    exact Nat.lt_succ_self _
  obtain ⟨isError, inForce⟩ :=
    updateOptions_of_long_root changed (List.mem_singleton.mpr rfl) long "1"
  refine ⟨reachable_overRoot _, isError, fun same => ?_⟩
  have sameSize := congrArg RuntimeOptions.defaultPageSize (inForce.symm.trans same)
  cases sameSize

end Session

end TypeCatalog
