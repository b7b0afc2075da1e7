import TypeCatalog.Proofs.Cache.Entries
import TypeCatalog.Proofs.Session.CacheTransparency
import TypeCatalog.Proofs.Session.PageStart
import TypeCatalog.Proofs.Session.Preparation
import TypeCatalog.Proofs.Session.SizeCeiling

namespace TypeCatalog

/-!
# What a query leaves behind

A query opens at most one module and closes it again, at whichever stage it fails.  It opens none
when it is refused before or answered from the cache.  When it fails, the options stay as they were,
and so do all entries of the cache but an expired one under its own key.
-/

/-- A computation in two parts fails in the first part or after it. -/
theorem Failure.stage_of_bind_eq_error
    {α β : Type}
    {first : Except Failure α}
    {second : α → Except Failure β}
    {failure : Failure}
    (failed : first >>= second = .error failure) :
    first = .error failure ∨ ∃ between, first = .ok between ∧ second between = .error failure := by
  cases first with
  | error other =>
      cases failed
      exact .inl rfl
  | ok between =>
      exact .inr ⟨between, rfl, failed⟩

namespace ModuleSource

/-- A source over a registry in which every module that was opened is closed again. -/
structure Balanced (source : ModuleSource) : Prop where
  overRegistry : ∃ modules, source.store = .registry modules
  closed_eq : source.closed = source.opened

/-- How often a module is opened that is in the registry: a vanishing one is gone by then. -/
def openings (source : ModuleSource) : Nat :=
  if source.mode = .vanishing then 0 else 1

variable {source : ModuleSource}

theorem Balanced.having
    (balanced : source.Balanced)
    (path : String)
    (definition : ModuleDefinition) :
    (source.having path definition).Balanced := by
  obtain ⟨⟨modules, isRegistry⟩, closedSame⟩ := balanced
  unfold ModuleSource.having
  rw [isRegistry]
  exact ⟨⟨modules.replace path definition, rfl⟩, closedSame⟩

theorem Balanced.without
    (balanced : source.Balanced)
    (path : String) :
    (source.without path).Balanced := by
  obtain ⟨⟨modules, isRegistry⟩, closedSame⟩ := balanced
  unfold ModuleSource.without
  rw [isRegistry]
  exact ⟨⟨modules.remove path, rfl⟩, closedSame⟩

/-- Working with a module of the registry closes what it opens, whatever is computed. -/
theorem Balanced.withModule
    {α : Type}
    {modules : Registry}
    {stamp : ModuleStamp}
    {definition : ModuleDefinition}
    (balanced : source.Balanced)
    (isRegistry : source.store = .registry modules)
    (present : modules.module? stamp.path = some definition)
    (files : FileTree)
    (compute : OpenModule → Except Failure α) :
    (source.withModule files stamp compute).2.Balanced ∧
      (source.withModule files stamp compute).2.opened = source.opened + source.openings := by
  unfold ModuleSource.withModule openModule beforeOpening openings
  by_cases vanishing : source.mode = .vanishing
  · simp only [if_pos vanishing, ModuleSource.without, isRegistry, module?,
      modules.module?_remove_self stamp.path, Option.map_none]
    exact ⟨⟨⟨modules.remove stamp.path, rfl⟩, balanced.closed_eq⟩, rfl⟩
  · simp only [if_neg vanishing, module?, isRegistry, present, Option.map_some]
    exact ⟨⟨⟨modules, rfl⟩, congrArg (· + 1) balanced.closed_eq⟩, rfl⟩

/-- A source whose modules are read in another way from now on. -/
def reading
    (source : ModuleSource)
    (mode : ReadingMode) : ModuleSource :=
  { source with mode := mode }

/-- The way of reading plays no part in finding a module. -/
theorem firstStamp?_reading
    (source : ModuleSource)
    (mode : ReadingMode)
    (files : FileTree)
    (paths : List String) :
    (source.reading mode).firstStamp? files paths = source.firstStamp? files paths := by
  apply firstStamp?_congr
  intro path
  rfl

end ModuleSource

namespace Query

/-- The options that a query gives. -/
def options? : Query → Option Value
  | .types options | .members _ _ options | .named _ _ _ options => some options
  | .type .. => none

/-- The names that a query gives, under the names of their arguments. -/
def names : Query → List (String × Value)
  | .types _ => []
  | .members _ typeName _ | .type _ typeName _ => [("type_name", typeName)]
  | .named _ typeName memberName _ => [("type_name", typeName), ("member_name", memberName)]

end Query

/-- A step of a session: one over the registry, or a change of the way in which its modules are
read. -/
inductive SourceStep where
  | take (step : SessionStep)
  | read (mode : ReadingMode)
deriving Repr

namespace Session

/-- The session after a step. -/
def stepSource
    (session : Session) : SourceStep → Session
  | .take step => session.step step
  | .read mode => { session with source := session.source.reading mode }

/-- The session after several steps. -/
def runSource
    (session : Session)
    (steps : List SourceStep) : Session :=
  steps.foldl stepSource session

/-- The reasons for which a query is refused before its module is opened: its options, a name, its
module, or its token. -/
inductive Refuses
    (session : Session)
    (modulePath : Value)
    (query : Query) : Failure → Prop where
  | options {given : Value} {failure : Failure} :
      query.options? = some given →
      (FilterOptions.checkOptional given).toExcept = .error failure →
      Refuses session modulePath query failure
  | name {argument : String} {value : Value} {failure : Failure} :
      (argument, value) ∈ query.names →
      requireText argument value = .error failure →
      Refuses session modulePath query failure
  | module {failure : Failure} :
      session.resolveModule modulePath = .error failure →
      Refuses session modulePath query failure
  | token
      {form : ListingForm}
      {given : Value}
      {options : FilterOptions}
      {listing : ListingSubject}
      {failure : Failure} :
      query = form.query given →
      FilterOptions.checkOptional given = .ok options →
      session.listing modulePath form options = .ok listing →
      listing.startOf options = .error failure →
      Refuses session modulePath query failure

/-- The ways in which a query is answered without opening its module: it is refused, or its answer
is in the cache. -/
inductive AnswersUnopened
    (session : Session)
    (call : QueryCall) : Prop where
  | refused {failure : Failure} :
      session.Refuses call.modulePath call.query failure →
      AnswersUnopened session call
  | cached {plan : Plan} {payload : Envelope} :
      call.noCache = false →
      session.plan call.modulePath call.query = .ok plan →
      (session.cache.get plan.cacheKey).1 = some payload →
      AnswersUnopened session call

variable {session : Session} {modulePath : Value} {query : Query}

private theorem refuses_of_listing
    {form : ListingForm}
    {given : Value}
    {options : FilterOptions}
    {failure : Failure}
    (failed : session.listing modulePath form options = .error failure) :
    session.Refuses modulePath (form.query given) failure := by
  rcases Failure.stage_of_bind_eq_error failed with nameRefused | ⟨scope, _, failed⟩
  · cases form with
    | types =>
        cases nameRefused
    | members selection typeName =>
        apply Refuses.name (List.mem_singleton.mpr rfl)
        exact Failure.eq_error_of_map_eq_error nameRefused
  · rcases Failure.stage_of_bind_eq_error failed with unresolved | ⟨stamp, _, done⟩
    · exact .module unresolved
    · cases done

private theorem refuses_of_pageSubject
    (form : ListingForm)
    {given : Value}
    {failure : Failure}
    (failed : session.pageSubject modulePath form given = .error failure) :
    session.Refuses modulePath (form.query given) failure := by
  have givenHere : (form.query given).options? = some given := by
    cases form <;> rfl
  rcases Failure.stage_of_bind_eq_error failed with refused | ⟨options, checked, failed⟩
  · exact .options givenHere refused
  rcases Failure.stage_of_bind_eq_error failed with refused | ⟨listing, meant, failed⟩
  · exact refuses_of_listing refused
  rcases Failure.stage_of_bind_eq_error failed with refused | ⟨offset, _, done⟩
  · exact .token rfl (Schema.Checked.eq_ok_of_toExcept checked) meant refused
  · cases done

/-- A query that cannot be prepared is refused for one of the reasons. -/
theorem refuses_of_plan
    {failure : Failure}
    (failed : session.plan modulePath query = .error failure) :
    session.Refuses modulePath query failure := by
  cases query with
  | types given =>
      exact refuses_of_pageSubject .types
        (Failure.eq_error_of_map_eq_error
          ((session.planTypes_eq modulePath given).symm.trans failed))
  | members selection typeName given =>
      exact refuses_of_pageSubject (.members selection typeName)
        (Failure.eq_error_of_map_eq_error
          ((session.planMembers_eq modulePath selection typeName given).symm.trans failed))
  | type view typeName caseSensitive =>
      rcases Failure.stage_of_bind_eq_error failed with refused | ⟨name, _, failed⟩
      · exact .name (List.mem_singleton.mpr rfl) refused
      rcases Failure.stage_of_bind_eq_error failed with unresolved | ⟨stamp, _, done⟩
      · exact .module unresolved
      · cases done
  | named view typeName memberName given =>
      rcases Failure.stage_of_bind_eq_error failed with refused | ⟨options, _, failed⟩
      · exact .options rfl refused
      rcases Failure.stage_of_bind_eq_error failed with refused | ⟨name, _, failed⟩
      · exact .name List.mem_cons_self refused
      rcases Failure.stage_of_bind_eq_error failed with refused | ⟨wanted, _, failed⟩
      · exact .name (List.mem_cons_of_mem _ List.mem_cons_self) refused
      rcases Failure.stage_of_bind_eq_error failed with unresolved | ⟨stamp, _, failed⟩
      · exact .module unresolved
      · cases failed

private theorem exists_options_of_plan
    {plan : Plan}
    {given : Value}
    (planned : session.plan modulePath query = .ok plan)
    (isGiven : query.options? = some given) :
    ∃ options, (FilterOptions.checkOptional given).toExcept = .ok options := by
  cases prepares_of_plan planned with
  | types checked | members checked | named checked =>
      cases isGiven
      exact ⟨_, checked⟩
  | type =>
      cases isGiven

private theorem exists_text_of_plan
    {plan : Plan}
    {argument : String}
    {value : Value}
    (planned : session.plan modulePath query = .ok plan)
    (isName : (argument, value) ∈ query.names) :
    ∃ text, requireText argument value = .ok text := by
  cases prepares_of_plan planned with
  | types =>
      cases isName
  | members _ named | type named =>
      cases List.mem_singleton.mp isName
      exact ⟨_, named⟩
  | named _ named memberNamed =>
      rcases List.mem_cons.mp isName with isTypeName | isMemberName
      · cases isTypeName
        exact ⟨_, named⟩
      · cases List.mem_singleton.mp isMemberName
        exact ⟨_, memberNamed⟩

private theorem resolveModule_of_plan
    {plan : Plan}
    (planned : session.plan modulePath query = .ok plan) :
    session.resolveModule modulePath = .ok plan.stamp := by
  cases prepares_of_plan planned with
  | types _ resolved | members _ _ resolved | type _ resolved | named _ _ _ resolved =>
      exact resolved

private theorem exists_start_of_plan
    {plan : Plan}
    {form : ListingForm}
    {given : Value}
    {options : FilterOptions}
    {listing : ListingSubject}
    (planned : session.plan modulePath (form.query given) = .ok plan)
    (checked : FilterOptions.checkOptional given = .ok options)
    (meant : session.listing modulePath form options = .ok listing) :
    ∃ offset, listing.startOf options = .ok offset := by
  obtain ⟨_, found, _⟩ := exists_subject_of_plan (wellTyped_listing form given) planned
  rw [subject_query] at found
  obtain ⟨other, meantHere, offset, passed, itMeans, starts, _⟩ :=
    exists_listing_of_pageSubject found
  rw [checked] at passed
  cases passed
  cases itMeans.symm.trans meant
  exact ⟨offset, starts⟩

/-- A query with a reason to refuse it cannot be prepared. -/
theorem exists_failure_of_refuses
    {failure : Failure}
    (refused : session.Refuses modulePath query failure) :
    ∃ first, session.plan modulePath query = .error first := by
  cases planned : session.plan modulePath query with
  | error first =>
      exact ⟨first, rfl⟩
  | ok plan =>
      exfalso
      cases refused with
      | options isGiven rejected =>
          obtain ⟨options, checked⟩ := exists_options_of_plan planned isGiven
          cases checked.symm.trans rejected
      | name isName rejected =>
          obtain ⟨text, required⟩ := exists_text_of_plan planned isName
          cases required.symm.trans rejected
      | module unresolved =>
          cases (resolveModule_of_plan planned).symm.trans unresolved
      | token isListing checked meant rejected =>
          rw [isListing] at planned
          obtain ⟨offset, starts⟩ := exists_start_of_plan planned checked meant
          cases starts.symm.trans rejected

/-- A session over a registry between two calls: what was opened is closed, the keys of the cache
are distinct, and no error is kept in it. -/
structure AtRest (session : Session) : Prop where
  balanced : session.source.Balanced
  keysDistinct : session.cache.KeysDistinct
  noErrorKept : ∀ entry ∈ session.cache.entries, entry.payload.isError = false

theorem AtRest.openHandles_eq_zero
    (atRest : session.AtRest) :
    session.source.openHandles = 0 := by
  rw [ModuleSource.openHandles, atRest.balanced.closed_eq, Int.sub_self]

/-- A session starts at rest. -/
theorem atRest_start
    (modules : Registry)
    (files : FileTree)
    (options : RuntimeOptions)
    (clock : Binary64) :
    (start (.ofStore (.registry modules)) files options clock).AtRest :=
  ⟨⟨⟨modules, rfl⟩, rfl⟩, ResponseCache.keysDistinct_empty clock,
    fun _ member => absurd member List.not_mem_nil⟩

/-- The module of a prepared query is in the registry. -/
theorem exists_definition_of_plan
    {modules : Registry}
    {plan : Plan}
    (isRegistry : session.source.store = .registry modules)
    (planned : session.plan modulePath query = .ok plan) :
    ∃ definition, modules.module? plan.stamp.path = some definition := by
  let ordinary : Session := { session with source := session.source.reading .ordinary }
  have sameModule : ordinary.resolveModule modulePath = session.resolveModule modulePath := by
    simp only [resolveModule, ordinary, ModuleSource.firstStamp?_reading]
  have resolved : ordinary.resolveModule modulePath = .ok plan.stamp :=
    sameModule.trans (resolveModule_of_plan planned)
  have serves : ordinary.source.Serves modules := ⟨isRegistry, rfl⟩
  exact (module_of_resolveModule serves resolved).1

/-- Making an answer closes the module again if it could be opened. -/
theorem AtRest.produce
    {plan : Plan}
    (atRest : session.AtRest)
    (planned : session.plan modulePath query = .ok plan) :
    (session.produce plan).2.Balanced ∧
      (session.produce plan).2.opened = session.source.opened + session.source.openings := by
  obtain ⟨modules, isRegistry⟩ := atRest.balanced.overRegistry
  obtain ⟨definition, present⟩ := exists_definition_of_plan isRegistry planned
  exact atRest.balanced.withModule isRegistry present session.files _

private theorem isError_of_produce
    {plan : Plan}
    {envelope : Envelope}
    (produced : (session.produce plan).1 = .ok envelope) :
    envelope.isError = false := by
  rw [produce, ModuleSource.withModule_fst] at produced
  obtain ⟨found, _, computed⟩ := Failure.exists_of_bind_eq_ok produced
  cases found with
  | none =>
      cases computed
  | some opened =>
      obtain ⟨data, _, enveloped⟩ := Failure.exists_of_bind_eq_ok computed
      rw [eq_success_of_envelopeOf enveloped]
      rfl

/-- A query that is answered without opening its module leaves the source alone. -/
theorem source_answerQuery_of_unopened
    {call : QueryCall}
    (unopened : session.AnswersUnopened call)
    (requestId : String) :
    (session.answerQuery requestId call).2.source = session.source := by
  cases unopened with
  | refused refused =>
      obtain ⟨failure, unplanned⟩ := exists_failure_of_refuses refused
      rw [answerQuery, unplanned]
  | cached cacheUsed planned read =>
      rw [answerQuery, planned, cacheUsed]
      dsimp only
      rw [ResponseCache.execute_of_get session.lifetime (fun _ => session.produce _)
        session.source read]

/-- A query that is not answered without opening its module is prepared and produces an answer. -/
theorem exists_plan_of_not_unopened
    {call : QueryCall}
    (opens : ¬session.AnswersUnopened call)
    (requestId : String) :
    ∃ plan, session.plan call.modulePath call.query = .ok plan ∧
      (session.answerQuery requestId call).2.source = (session.produce plan).2 := by
  cases planned : session.plan call.modulePath call.query with
  | error failure =>
      exact absurd (.refused (refuses_of_plan planned)) opens
  | ok plan =>
      refine ⟨plan, rfl, ?_⟩
      rw [answerQuery, planned]
      apply ResponseCache.execute_produced
      cases cacheUse : call.noCache with
      | true =>
          exact .inl rfl
      | false =>
          cases read : (session.cache.get plan.cacheKey).1 with
          | none =>
              exact .inr rfl
          | some payload =>
              exact absurd (.cached cacheUse planned read) opens

/-- A query opens its module once, if it is still there, unless it is answered without. -/
theorem AtRest.opened_answerQuery
    {call : QueryCall}
    (atRest : session.AtRest)
    (opens : ¬session.AnswersUnopened call)
    (requestId : String) :
    (session.answerQuery requestId call).2.source.opened =
      session.source.opened + session.source.openings := by
  obtain ⟨plan, planned, produced⟩ := exists_plan_of_not_unopened opens requestId
  rw [produced]
  exact (atRest.produce planned).2

/-- A query leaves a session at rest. -/
theorem AtRest.answerQuery
    (atRest : session.AtRest)
    (requestId : String)
    (call : QueryCall) :
    (session.answerQuery requestId call).2.AtRest := by
  constructor
  · by_cases unopened : session.AnswersUnopened call
    · rw [source_answerQuery_of_unopened unopened]
      exact atRest.balanced
    · obtain ⟨plan, planned, produced⟩ := exists_plan_of_not_unopened unopened requestId
      rw [produced]
      exact (atRest.produce planned).1
  · unfold Session.answerQuery
    split
    · exact atRest.keysDistinct
    · exact atRest.keysDistinct.execute _ _ _ _ _
  · intro entry member
    unfold Session.answerQuery at member
    split at member
    · exact atRest.noErrorKept entry member
    · rcases ResponseCache.mem_of_mem_execute member with earlier | ⟨_, produced⟩
      · exact atRest.noErrorKept entry earlier
      · exact isError_of_produce produced

/-- A step leaves a session at rest. -/
theorem AtRest.stepSource
    (atRest : session.AtRest)
    (step : SourceStep) :
    (session.stepSource step).AtRest := by
  have ⟨balanced, keysDistinct, noErrorKept⟩ := atRest
  cases step with
  | read mode =>
      exact ⟨⟨balanced.overRegistry, balanced.closed_eq⟩, keysDistinct, noErrorKept⟩
  | take step =>
      cases step with
      | ask requestId call =>
          cases call with
          | query call =>
              exact atRest.answerQuery requestId call
          | showOptions | describeErrors =>
              exact atRest
          | updateOptions changes =>
              change (session.updateOptions requestId changes).2.AtRest
              unfold updateOptions
              split
              · exact atRest
              · exact ⟨balanced, keysDistinct, noErrorKept⟩
      | replace path definition =>
          exact ⟨balanced.having path definition, keysDistinct, noErrorKept⟩
      | remove path =>
          exact ⟨balanced.without path, keysDistinct, noErrorKept⟩
      | advance seconds =>
          exact ⟨balanced, keysDistinct, noErrorKept⟩

/-- A run leaves a session at rest. -/
theorem AtRest.runSource
    (atRest : session.AtRest)
    (steps : List SourceStep) :
    (session.runSource steps).AtRest := by
  induction steps generalizing session with
  | nil =>
      exact atRest
  | cons step rest inductionHypothesis =>
      exact inductionHypothesis (atRest.stepSource step)

/-- A session after a call that failed: the options are as before, and at most an expired entry
under the key of the query is gone from the cache. -/
structure Unmarked
    (before : Session)
    (call : QueryCall)
    (after : Session) : Prop where
  options_eq : after.options = before.options
  clock_eq : after.cache.clock = before.cache.clock
  sublist : after.cache.entries.Sublist before.cache.entries
  gone :
    ∀ entry ∈ before.cache.entries, entry ∉ after.cache.entries →
      before.cache.isExpired entry = true ∧
        ∃ plan, before.plan call.modulePath call.query = .ok plan ∧ entry.key = plan.cacheKey

/-- A query that is answered with an error leaves no mark on its session. -/
theorem AtRest.unmarked_of_error
    {requestId : String}
    {call : QueryCall}
    (atRest : session.AtRest)
    (failed : (session.answerQuery requestId call).1.isError = true) :
    session.Unmarked call (session.answerQuery requestId call).2 := by
  unfold Session.answerQuery at failed ⊢
  split
  · exact ⟨rfl, rfl, .refl _, fun _ member gone => absurd member gone⟩
  · next plan planned =>
      rw [planned] at failed
      dsimp only at failed ⊢
      cases outcome :
          (session.cache.execute plan.cacheKey session.lifetime call.noCache
            (fun _ => session.produce plan) session.source).1 with
      | ok envelope =>
          have noError : envelope.isError = false := by
            rcases ResponseCache.exists_entry_or_produced_of_execute outcome with
              ⟨entry, member, payloadIs⟩ | produced
            · rw [← payloadIs]
              exact atRest.noErrorKept entry member
            · exact isError_of_produce produced
          rw [outcome] at failed
          cases noError.symm.trans failed
      | error failure =>
          have sheds := atRest.keysDistinct.sheds_execute outcome
          refine ⟨rfl, sheds.clock_eq, sheds.sublist, fun entry member gone => ?_⟩
          obtain ⟨keySame, entryExpired⟩ := sheds.expired entry member gone
          exact ⟨entryExpired, plan, planned, keySame⟩

/-- After any run over a registry, in whatever ways its modules were read meanwhile, a query leaves
no module open, and no mark on its session when it is answered with an error.  It opens its module
exactly once, unless it is answered without opening one or the module vanishes before. -/
theorem answerQuery_leaves_nothing_behind
    (modules : Registry)
    (files : FileTree)
    (options : RuntimeOptions)
    (clock : Binary64)
    (steps : List SourceStep)
    (requestId : String)
    (call : QueryCall) :
    let before := (start (.ofStore (.registry modules)) files options clock).runSource steps
    let after := (before.answerQuery requestId call).2
    after.source.openHandles = 0 ∧
      after.source.opened ≤ before.source.opened + 1 ∧
      (before.AnswersUnopened call → after.source.opened = before.source.opened) ∧
      (¬before.AnswersUnopened call →
        after.source.opened =
          before.source.opened + if before.source.mode = .vanishing then 0 else 1) ∧
      ((before.answerQuery requestId call).1.isError = true → before.Unmarked call after) := by
  intro before after
  have atRest : before.AtRest := (atRest_start modules files options clock).runSource steps
  have unopenedSame (unopened : before.AnswersUnopened call) :
      after.source.opened = before.source.opened :=
    congrArg ModuleSource.opened (source_answerQuery_of_unopened unopened requestId)
  have openedOnce (opens : ¬before.AnswersUnopened call) :
      after.source.opened =
        before.source.opened + if before.source.mode = .vanishing then 0 else 1 :=
    atRest.opened_answerQuery opens requestId
  refine ⟨(atRest.answerQuery requestId call).openHandles_eq_zero, ?_, unopenedSame, openedOnce,
    atRest.unmarked_of_error⟩
  by_cases unopened : before.AnswersUnopened call
  · have openedSame := unopenedSame unopened
    omega
  · have openedThen := openedOnce unopened
    split at openedThen <;> omega

/-- A query that meets its expired answer and then fails to read the module. -/
theorem answerQuery_leaves_nothing_behind_when_failing :
    let call : QueryCall := ⟨.text "lib", .type .info (.text "A") (.bool true), false⟩
    let before :=
      (overModule "lib" ⟨"Lib", "", [.bare "A"]⟩).runSource
        [.take (.ask "1" (.query call)), .take (.advance (.ofInt 3600)), .read .failing]
    let after := (before.answerQuery "2" call).2
    before.cache.size = 1 ∧ after.cache.size = 0 ∧
      (before.answerQuery "2" call).1.isError = true ∧ before.Unmarked call after := by
  intro call before after
  have failed : (before.answerQuery "2" call).1.isError = true := by
    decide +kernel
  refine ⟨by decide +kernel, by decide +kernel, failed, ?_⟩
  exact (answerQuery_leaves_nothing_behind _ _ _ _ _ "2" call).2.2.2.2 failed

end Session

end TypeCatalog
