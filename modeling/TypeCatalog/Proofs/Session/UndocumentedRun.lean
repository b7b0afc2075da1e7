import TypeCatalog.Proofs.Cache.UnderKey
import TypeCatalog.Proofs.Query.UndocumentedAnswers
import TypeCatalog.Proofs.Session.KeptAnswers
import TypeCatalog.Proofs.Session.NameQueryOrder
import TypeCatalog.Proofs.Session.Preparation
import TypeCatalog.Proofs.Session.Steps

namespace TypeCatalog

/-!
# Documentation shows in its own answers only

Two sessions take the same steps over modules that differ only in documentation.  Then all calls but
those for documentation are answered alike, from the cache or not.  What the calls for documentation
leave in the two caches may differ, but it is kept under keys that no other call reads.
-/

/-- Whether answers of a kind show documentation. -/
def OperationKind.showsDocs : OperationKind → Bool
  | .type .documentation | .named .documentation => true
  | .typeList | .type _ | .members _ | .named _ | .runtimeOptions | .errorCatalog => false

/-- Whether a call asks for documentation. -/
def Call.showsDocs : Call → Bool
  | .query call => call.query.kind.showsDocs
  | .showOptions | .updateOptions _ | .describeErrors _ => false

/-- Two steps that are the same, but for the documentation of a module that comes in. -/
inductive SessionStep.SameButDocs : SessionStep → SessionStep → Prop where
  | same (step : SessionStep) : SameButDocs step step
  | replace {definition other : ModuleDefinition} (path : String) :
      Redaction.ofDocs.module definition = Redaction.ofDocs.module other →
      SameButDocs (.replace path definition) (.replace path other)

/-- What can be told about the answer to a call: the answer, and whether it is from the cache. -/
structure Observation where
  answer : Envelope
  fromCache : Bool
deriving Repr

namespace Session

/-- Whether a call is answered from the cache.  Only queries ever are. -/
def answersFromCache
    (session : Session) : Call → Bool
  | .query call =>
    !call.noCache &&
      match session.plan call.modulePath call.query with
      | .ok plan => (session.cache.get plan.cacheKey).1.isSome
      | .error _ => false
  | .showOptions | .updateOptions _ | .describeErrors _ => false

/-- A query that is answered from the cache is answered with what is kept there, and changes
nothing. -/
theorem answerQuery_of_answersFromCache
    {session : Session}
    {call : QueryCall}
    (fromCache : session.answersFromCache (.query call) = true)
    (requestId : String) :
    ∃ entry ∈ session.cache.entries,
      session.answerQuery requestId call = (entry.payload, session) := by
  rw [answersFromCache, Bool.and_eq_true, Bool.not_eq_true'] at fromCache
  obtain ⟨cached, isKept⟩ := fromCache
  cases planned : session.plan call.modulePath call.query with
  | error failure =>
      rw [planned] at isKept
      cases isKept
  | ok plan =>
      rw [planned] at isKept
      obtain ⟨payload, read⟩ := Option.isSome_iff_exists.mp isKept
      obtain ⟨entry, member, _, isPayload⟩ :=
        ResponseCache.exists_entry_of_get (Prod.ext read rfl)
      refine ⟨entry, member, ?_⟩
      simp only [answerQuery, planned, cached, ResponseCache.execute_of_get _ _ _ read, isPayload]
      rfl

/-- What can be told about the answer to a step, unless it is about documentation. -/
def observedAt
    (session : Session) : SessionStep → List Observation
  | .ask requestId call =>
    if call.showsDocs then []
    else [⟨(session.answer requestId call).1, session.answersFromCache call⟩]
  | .replace .. | .remove _ | .advance _ => []

/-- What can be told about the answers of a run that are not about documentation, in order. -/
def observations
    (session : Session) : List SessionStep → List Observation
  | [] => []
  | step :: rest => session.observedAt step ++ (session.step step).observations rest

/-- The answer to a query that does not ask for documentation is computed from the module without
its documentation. -/
theorem compute_ofDocs
    {session : Session}
    {modulePath : Value}
    {query : Query}
    {plan : Plan}
    (undocumented : query.kind.showsDocs = false)
    (planned : session.plan modulePath query = .ok plan)
    (opened : OpenModule) :
    plan.compute (Redaction.ofDocs.opened opened) = plan.compute opened := by
  cases prepares_of_plan planned with
  | types =>
      exact Redaction.typeListing_ofDocs _ _ _ _ _
  | members =>
      exact Redaction.memberListing_ofDocs _ _ _ _ _ _ _
  | type =>
      apply Redaction.typeView_ofDocs
      rintro rfl
      cases undocumented
  | @named view =>
      cases view with
      | lookup =>
          exact Redaction.lookup_ofDocs _ _ _ _ _ _
      | documentation =>
          cases undocumented

theorem files_answerQuery
    (session : Session)
    (requestId : String)
    (call : QueryCall) :
    (session.answerQuery requestId call).2.files = session.files := by
  unfold answerQuery
  split <;> rfl

theorem clock_answerQuery
    (session : Session)
    (requestId : String)
    (call : QueryCall) :
    (session.answerQuery requestId call).2.cache.clock = session.cache.clock := by
  unfold answerQuery
  split
  · rfl
  · exact ResponseCache.clock_execute _ _ _ _ _ _

/-- A query leaves the registry alone. -/
theorem serves_answerQuery
    {session : Session}
    {modules : Registry}
    (serves : session.source.Serves modules)
    (requestId : String)
    (call : QueryCall) :
    (session.answerQuery requestId call).2.source.Serves modules := by
  unfold answerQuery
  split
  · exact serves
  · next plan _ =>
      dsimp only
      rcases ResponseCache.execute_untouched_or_produced session.cache plan.cacheKey
          session.lifetime call.noCache (fun _ => session.produce plan) session.source with
        untouched | produced
      · rw [untouched]
        exact serves
      · rw [produced]
        exact serves.serves_withModule _ _ _

/-- Two sessions that differ only in documentation: that of their modules, and that in the kept
answers that show it. -/
structure SameButDocs (first second : Session) : Prop where
  overRegistries :
    ∃ modules others : Registry,
      first.source.Serves modules ∧
        second.source.Serves others ∧ modules.AlikeThrough .ofDocs others
  files_eq : first.files = second.files
  options_eq : first.options = second.options
  clock_eq : first.cache.clock = second.cache.clock
  entry?_eq :
    ∀ (kind : OperationKind) (parts : List Value),
      kind.showsDocs = false →
        first.cache.entry? (CacheKey.build kind.word Limits.contractVersion parts) =
          second.cache.entry? (CacheKey.build kind.word Limits.contractVersion parts)

namespace SameButDocs

variable {first second : Session}

theorem alike
    (same : first.SameButDocs second) :
    first.AlikeThrough .ofDocs second := by
  obtain ⟨modules, others, firstServes, secondServes, registriesAlike⟩ := same.overRegistries
  have sourcesAlike : first.source.AlikeThrough .ofDocs second.source :=
    ⟨⟨modules, others, firstServes.store_eq, secondServes.store_eq, registriesAlike⟩,
      firstServes.mode_eq.trans secondServes.mode_eq.symm⟩
  exact ⟨sourcesAlike, same.options_eq⟩

section Query

variable {modulePath : Value} {query : Query} {plan : Plan}

/-- An answer that does not show documentation is kept in both sessions or in none. -/
theorem entry?_of_plan
    (same : first.SameButDocs second)
    (undocumented : query.kind.showsDocs = false)
    (planned : first.plan modulePath query = .ok plan) :
    first.cache.entry? plan.cacheKey = second.cache.entry? plan.cacheKey := by
  obtain ⟨parts, keyIs⟩ := (preparedAs_of_plan planned).key_built
  rw [keyIs]
  exact same.entry?_eq query.kind parts undocumented

theorem produce_eq
    (same : first.SameButDocs second)
    (undocumented : query.kind.showsDocs = false)
    (planned : first.plan modulePath query = .ok plan) :
    (first.produce plan).1 = (second.produce plan).1 :=
  same.alike.produce_eq (compute_ofDocs undocumented planned)

end Query

/-- A query that does not ask for documentation is answered alike. -/
theorem answerQuery_eq
    {call : QueryCall}
    (same : first.SameButDocs second)
    (undocumented : call.query.kind.showsDocs = false)
    (requestId : String) :
    (first.answerQuery requestId call).1 = (second.answerQuery requestId call).1 := by
  unfold answerQuery
  rw [← same.alike.plan_eq, ← same.alike.lifetime_eq]
  cases planned : first.plan call.modulePath call.query with
  | error failure =>
      rfl
  | ok plan =>
      apply congrArg (conclude requestId)
      apply ResponseCache.execute_fst_congr
      · exact ResponseCache.get_fst_congr same.clock_eq (same.entry?_of_plan undocumented planned)
      · exact same.produce_eq undocumented planned

/-- A change of the runtime options comes out alike. -/
theorem changedOptions_eq
    (same : first.SameButDocs second)
    (changes : OptionChanges) :
    first.changedOptions changes = second.changedOptions changes := by
  have sameChecked : first.checkedRoot = second.checkedRoot := by
    funext root
    simp only [checkedRoot, expandRoot, same.files_eq]
  have sameResolved : first.resolvedRoot = second.resolvedRoot := by
    funext root
    simp only [resolvedRoot, expandRoot, same.files_eq]
  rw [changedOptions, changedOptions, sameChecked, sameResolved, same.options_eq]

/-- A call that does not ask for documentation is answered alike. -/
theorem answer_eq
    {call : Call}
    (same : first.SameButDocs second)
    (undocumented : call.showsDocs = false)
    (requestId : String) :
    (first.answer requestId call).1 = (second.answer requestId call).1 := by
  cases call with
  | query call =>
      exact same.answerQuery_eq undocumented requestId
  | showOptions =>
      simp only [answer, showOptions, same.options_eq]
  | updateOptions changes =>
      simp only [answer, updateOptions, same.changedOptions_eq]
      split <;> rfl
  | describeErrors =>
      rfl

/-- A call that does not ask for documentation is answered from both caches or from none. -/
theorem answersFromCache_eq
    {call : Call}
    (same : first.SameButDocs second)
    (undocumented : call.showsDocs = false) :
    first.answersFromCache call = second.answersFromCache call := by
  cases call with
  | showOptions | updateOptions | describeErrors =>
      rfl
  | query call =>
      rw [answersFromCache, answersFromCache, ← same.alike.plan_eq]
      cases planned : first.plan call.modulePath call.query with
      | error failure =>
          rfl
      | ok plan =>
          simp only [ResponseCache.get_fst_congr same.clock_eq
            (same.entry?_of_plan undocumented planned)]

/-- What can be told about an answer that is not about documentation is the same. -/
theorem observedAt_eq
    {step other : SessionStep}
    (same : first.SameButDocs second)
    (sameStep : step.SameButDocs other) :
    first.observedAt step = second.observedAt other := by
  cases sameStep with
  | replace =>
      rfl
  | same =>
      cases step with
      | replace | remove | advance =>
          rfl
      | ask requestId call =>
          cases documented : call.showsDocs with
          | true =>
              rw [observedAt, observedAt, if_pos documented, if_pos documented]
          | false =>
              rw [observedAt, observedAt, same.answer_eq documented,
                same.answersFromCache_eq documented]

/-- A query leaves the same entries under keys of answers without documentation: its own answer is
kept in both caches when it shows none, and under a key of another kind when it shows some. -/
theorem entry?_answerQuery_eq
    {kind : OperationKind}
    (same : first.SameButDocs second)
    (undocumented : kind.showsDocs = false)
    (requestId : String)
    (call : QueryCall)
    (parts : List Value) :
    let key := CacheKey.build kind.word Limits.contractVersion parts
    ResponseCache.entry? (first.answerQuery requestId call).2.cache key =
      ResponseCache.entry? (second.answerQuery requestId call).2.cache key := by
  intro key
  have sameBefore : first.cache.entry? key = second.cache.entry? key :=
    same.entry?_eq kind parts undocumented
  unfold Session.answerQuery
  rw [← same.alike.plan_eq, ← same.alike.lifetime_eq]
  cases planned : first.plan call.modulePath call.query with
  | error failure =>
      exact sameBefore
  | ok plan =>
      obtain ⟨ownParts, keyIs⟩ := (preparedAs_of_plan planned).key_built
      dsimp only
      -- The call touches its own key alone.  A key of an answer without documentation can be that
      -- key only when the call does not ask for documentation either.
      by_cases ownKey : key = plan.cacheKey
      · have kindSame := CacheKey.kind_eq_of_build_eq (ownKey.trans keyIs)
        rw [kindSame] at undocumented
        rw [ownKey] at sameBefore ⊢
        exact
          ResponseCache.entry?_execute_congr same.clock_eq sameBefore
            (same.produce_eq undocumented planned) _ _
      · rw [ResponseCache.entry?_execute_of_ne _ _ _ _ _ _ ownKey,
          ResponseCache.entry?_execute_of_ne _ _ _ _ _ _ ownKey]
        exact sameBefore

theorem answerQuery
    (same : first.SameButDocs second)
    (requestId : String)
    (call : QueryCall) :
    (first.answerQuery requestId call).2.SameButDocs
      (second.answerQuery requestId call).2 := by
  obtain ⟨modules, others, firstServes, secondServes, registriesAlike⟩ := same.overRegistries
  constructor
  · exact
      ⟨modules, others, serves_answerQuery firstServes requestId call,
        serves_answerQuery secondServes requestId call, registriesAlike⟩
  · rw [files_answerQuery, files_answerQuery, same.files_eq]
  · rw [options_answerQuery, options_answerQuery, same.options_eq]
  · rw [clock_answerQuery, clock_answerQuery, same.clock_eq]
  · intro kind parts undocumented
    exact same.entry?_answerQuery_eq undocumented requestId call parts

/-- Every call keeps sessions the same but for documentation. -/
theorem answer
    (same : first.SameButDocs second)
    (requestId : String)
    (call : Call) :
    (first.answer requestId call).2.SameButDocs (second.answer requestId call).2 := by
  cases call with
  | query call =>
      exact same.answerQuery requestId call
  | showOptions | describeErrors =>
      exact same
  | updateOptions changes =>
      simp only [Session.answer, updateOptions, ← same.changedOptions_eq]
      cases first.changedOptions changes with
      | error failure =>
          exact same
      | ok changed =>
          exact
            ⟨same.overRegistries, same.files_eq, rfl, same.clock_eq, same.entry?_eq⟩

/-- Steps that are the same but for documentation keep sessions the same but for documentation. -/
theorem step
    {step other : SessionStep}
    (same : first.SameButDocs second)
    (sameStep : step.SameButDocs other) :
    (first.step step).SameButDocs (second.step other) := by
  obtain ⟨modules, others, firstServes, secondServes, registriesAlike⟩ := same.overRegistries
  cases sameStep with
  | replace path sameModule =>
      have sameNumbered := congrArg ModuleDefinition.assignDeclarationOrder sameModule
      rw [Redaction.assignDeclarationOrder_ofDocs, Redaction.assignDeclarationOrder_ofDocs]
        at sameNumbered
      exact
        ⟨⟨_, _, firstServes.having path _, secondServes.having path _,
            registriesAlike.replace sameNumbered path⟩,
          same.files_eq, same.options_eq, same.clock_eq, same.entry?_eq⟩
  | same =>
      cases step with
      | ask requestId call =>
          exact same.answer requestId call
      | replace path definition =>
          exact
            ⟨⟨_, _, firstServes.having path _, secondServes.having path _,
                registriesAlike.replace rfl path⟩,
              same.files_eq, same.options_eq, same.clock_eq, same.entry?_eq⟩
      | remove path =>
          exact
            ⟨⟨_, _, firstServes.without path, secondServes.without path,
                registriesAlike.remove path⟩,
              same.files_eq, same.options_eq, same.clock_eq, same.entry?_eq⟩
      | advance seconds =>
          exact
            ⟨same.overRegistries, same.files_eq, same.options_eq,
              congrArg (·.add seconds) same.clock_eq, same.entry?_eq⟩

/-- Runs that are the same but for documentation give the same answers wherever they are not about
documentation, from the cache or not. -/
theorem observations_eq
    {steps others : List SessionStep}
    (same : first.SameButDocs second)
    (sameSteps : List.Forall₂ SessionStep.SameButDocs steps others) :
    first.observations steps = second.observations others := by
  induction sameSteps generalizing first second with
  | nil =>
      rfl
  | cons sameStep _ inductionHypothesis =>
      rw [observations, observations, same.observedAt_eq sameStep,
        inductionHypothesis (same.step sameStep)]

end SameButDocs

/-- Two sessions start over registries that differ only in documentation, with the same options and
at the same time, and take steps that differ only in documentation.  Then every answer that is not
about documentation is the same in both, and so is whether it comes from the cache. -/
theorem documentation_shows_in_its_own_answers_only
    {modules others : Registry}
    {steps otherSteps : List SessionStep}
    (registriesAlike : modules.AlikeThrough .ofDocs others)
    (sameSteps : List.Forall₂ SessionStep.SameButDocs steps otherSteps)
    (files : FileTree)
    (options : RuntimeOptions)
    (clock : Binary64) :
    (start (.ofStore (.registry modules)) files options clock).observations steps =
      (start (.ofStore (.registry others)) files options clock).observations otherSteps := by
  apply SameButDocs.observations_eq _ sameSteps
  exact
    ⟨⟨modules, others, ⟨rfl, rfl⟩, ⟨rfl, rfl⟩, registriesAlike⟩, rfl, rfl, rfl,
      fun _ _ _ => rfl⟩

/-- Documentation is asked for between two listings and changed before a third one, of a method that
has some in one session and none in the other. -/
theorem documentation_shows_in_its_own_answers_only_of_summary :
    let method : MemberFact := .overload 1 "X" "summary"
    let around (member : MemberFact) : ModuleDefinition :=
      ⟨"Lib", "", [{ TypeDefinition.bare "A" with members := [member] }]⟩
    let listing : Call := .query ⟨.text "lib", .members .all (.text "A") .null, false⟩
    let docs : Call :=
      .query ⟨.text "lib", .named .documentation (.text "A") (.text "M") .null, false⟩
    let steps (member : MemberFact) : List SessionStep :=
      [.ask "1" listing, .ask "2" docs, .ask "3" listing, .replace "lib" (around member),
        .ask "4" listing]
    let first := overModule "lib" (around method.withoutDocs)
    let second := overModule "lib" (around method)
    first.observations (steps method) = second.observations (steps method.withoutDocs) ∧
      (first.observations (steps method)).length = 3 ∧
        ((first.observations (steps method)).head?.map fun seen => seen.answer.isError) =
          some false := by
  intro method around listing docs steps first second
  refine ⟨?_, rfl, ?_⟩
  · apply documentation_shows_in_its_own_answers_only
    · refine Registry.AlikeThrough.replace (.refl _ .empty) ?_ "lib"
      rfl
    · refine .cons (.same _) (.cons (.same _) (.cons (.same _) (.cons (.replace "lib" ?_)
        (.cons (.same _) .nil))))
      rfl
  · decide +kernel

end Session

end TypeCatalog
