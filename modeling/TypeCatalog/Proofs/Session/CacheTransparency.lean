import TypeCatalog.Proofs.Cache.Entries
import TypeCatalog.Proofs.Session.Steps

namespace TypeCatalog

/-!
# The cache changes no answer

Every entry of the cache holds what one query was answered with when a registry that the present
one follows was in force.  A query that meets the entry asks the same, since keys are exact, and
finds the same module, since its fingerprint is the same.  So answering anew would give what the
entry holds, whatever calls, changes and delays lie in between.
-/

/-- The envelope that answers a query when its module has a definition. -/
def QuerySubject.envelope
    (subject : QuerySubject)
    (definition : ModuleDefinition) : Except Failure Envelope := do
  Session.envelopeOf subject.kind.word
    (← subject.answer ⟨subject.stamp.path, definition, .ordinary⟩)

/-- An entry that holds the answer to a query in a registry. -/
structure CacheEntry.Answers
    (entry : CacheEntry Envelope)
    (modules : Registry)
    (subject : QuerySubject)
    (definition : ModuleDefinition) : Prop where
  key_eq : entry.key = subject.cacheKey
  present : modules.module? subject.stamp.path = some definition
  fingerprint_eq : subject.stamp.fingerprint = modules.fingerprint subject.stamp.path
  payload_eq : subject.envelope definition = .ok entry.payload

namespace Session

/-- A session over a registry whose cache holds answers to queries with some key texts, each from
a registry that the present one follows. -/
structure Coherent
    (session : Session)
    (modules : Registry)
    (texts : List String) : Prop where
  serves : session.source.Serves modules
  answered :
    ∀ entry ∈ session.cache.entries, ∃ earlier subject definition,
      modules.Follows earlier ∧ subject.keyText ∈ texts ∧
        entry.Answers earlier subject definition

variable {session : Session} {modules : Registry} {texts : List String}

/-- A session starts coherent. -/
theorem coherent_start
    (modules : Registry)
    (files : FileTree)
    (options : RuntimeOptions)
    (clock : Binary64)
    (texts : List String) :
    (start (.ofStore (.registry modules)) files options clock).Coherent modules texts :=
  ⟨⟨rfl, rfl⟩, fun _ member => absurd member List.not_mem_nil⟩

/-- A module that a path means is in the registry, and its stamp has the fingerprint of now. -/
theorem module_of_resolveModule
    {modulePath : Value}
    {stamp : ModuleStamp}
    (serves : session.source.Serves modules)
    (resolved : session.resolveModule modulePath = .ok stamp) :
    (∃ definition, modules.module? stamp.path = some definition) ∧
      stamp.fingerprint = modules.fingerprint stamp.path := by
  obtain ⟨path, _, resolved⟩ := Failure.exists_of_bind_eq_ok resolved
  dsimp only at resolved
  split at resolved
  · cases resolved
  · next found =>
      cases resolved
      exact serves.module_of_firstStamp? found
  · cases resolved

/-- A query that can be prepared is answered from the module of now, and its stamp has the
fingerprint of now. -/
theorem produce_of_subject
    {modulePath : Value}
    {query : Query}
    {subject : QuerySubject}
    (serves : session.source.Serves modules)
    (found : session.subject modulePath query = .ok subject) :
    ∃ definition,
      modules.module? subject.stamp.path = some definition ∧
      subject.stamp.fingerprint = modules.fingerprint subject.stamp.path ∧
      (session.produce subject.plan).1 = subject.envelope definition ∧
      (session.produce subject.plan).2.Serves modules := by
  obtain ⟨⟨definition, present⟩, fingerprintSame⟩ :=
    module_of_resolveModule serves (resolveModule_of_subject found)
  have opened :=
    serves.withModule_of_present present session.files fun opened => do
      envelopeOf subject.kind.word (← subject.answer opened)
  exact ⟨definition, present, fingerprintSame, opened.1, opened.2⟩

/-- A lifetime that cannot be used is an unforeseen failure. -/
theorem exists_crash_of_lifetime
    {failure : Failure}
    (unusable : session.lifetime = .error failure) :
    ∃ crash, failure = .crashed crash := by
  unfold lifetime at unusable
  cases converted : (Quantity.whole session.options.effectiveLifetime).toDouble with
  | error crash =>
      rw [converted] at unusable
      cases unusable
      exact ⟨crash, rfl⟩
  | ok seconds =>
      rw [converted] at unusable
      cases unusable

private theorem exists_lifetime_of_isFinite
    (finite : (Binary64.ofInt session.options.effectiveLifetime).isFinite = true) :
    ∃ seconds, session.lifetime = .ok seconds := by
  refine ⟨.ofInt session.options.effectiveLifetime, ?_⟩
  rw [lifetime, Quantity.toDouble, if_pos finite]
  rfl

namespace Coherent

/-- What an entry under the key of a query holds is what answering the query anew gives. -/
theorem produce_eq
    {modulePath : Value}
    {query : Query}
    {subject : QuerySubject}
    {entry : CacheEntry Envelope}
    (coherent : session.Coherent modules texts)
    (apart : DigestsApart texts)
    (found : session.subject modulePath query = .ok subject)
    (hashed : subject.keyText ∈ texts)
    (member : entry ∈ session.cache.entries)
    (keySame : entry.key = subject.cacheKey) :
    (session.produce subject.plan).1 = .ok entry.payload := by
  obtain ⟨earlier, asked, definition, follows, askedHashed, answers⟩ :=
    coherent.answered entry member
  -- Keys are exact, so the entry was made for this very query.
  have subjectSame : asked = subject :=
    QuerySubject.eq_of_cacheKey (apart _ askedHashed _ hashed)
      (answers.key_eq.symm.trans keySame)
  rw [subjectSame] at answers
  obtain ⟨now, presentNow, fingerprintNow, produced, _⟩ :=
    produce_of_subject coherent.serves found
  -- The module has not changed since then, or its fingerprint would have.
  have definitionSame : now = definition :=
    follows.module?_eq_of_fingerprint_eq
      (fingerprintNow.symm.trans answers.fingerprint_eq) presentNow answers.present
  rw [produced, definitionSame, answers.payload_eq]

/-- Moving on to a registry that follows keeps a session coherent. -/
theorem follow
    {next : Session}
    {later : Registry}
    (coherent : session.Coherent modules texts)
    (serves : next.source.Serves later)
    (follows : later.Follows modules)
    (entriesSame : next.cache.entries = session.cache.entries) :
    next.Coherent later texts := by
  refine ⟨serves, fun entry member => ?_⟩
  rw [entriesSame] at member
  obtain ⟨earlier, subject, definition, modulesFollow, hashed, answers⟩ :=
    coherent.answered entry member
  exact ⟨earlier, subject, definition, follows.trans modulesFollow, hashed, answers⟩

/-- Answering a query keeps a session coherent. -/
theorem answerQuery
    {call : QueryCall}
    (coherent : session.Coherent modules texts)
    (wellTyped : call.query.WellTyped)
    (hashed :
      ∀ subject, session.subject call.modulePath call.query = .ok subject →
        subject.keyText ∈ texts)
    (requestId : String) :
    (session.answerQuery requestId call).2.Coherent modules texts := by
  unfold Session.answerQuery
  split
  · exact coherent
  · next plan planned =>
      obtain ⟨subject, found, rfl⟩ := exists_subject_of_plan wellTyped planned
      obtain ⟨definition, present, fingerprintSame, produced, servesAfter⟩ :=
        produce_of_subject coherent.serves found
      constructor
      · change (session.cache.execute subject.cacheKey session.lifetime call.noCache
          (fun _ => session.produce subject.plan) session.source).2.2.Serves modules
        rcases session.cache.execute_untouched_or_produced subject.cacheKey session.lifetime
          call.noCache (fun _ => session.produce subject.plan) session.source with
          untouched | changed
        · rw [untouched]
          exact coherent.serves
        · rw [changed]
          exact servesAfter
      · intro entry member
        rcases ResponseCache.mem_of_mem_execute member with earlier | ⟨keySame, payloadSame⟩
        · exact coherent.answered entry earlier
        · exact ⟨modules, subject, definition, .refl modules, hashed subject found,
            keySame, present, fingerprintSame, produced.symm.trans payloadSame⟩

/-- A step keeps a session coherent, over a registry that follows. -/
theorem step
    {step : SessionStep}
    (coherent : session.Coherent modules texts)
    (wellTyped : step.WellTyped)
    (hashed : ∀ text ∈ session.textsOfStep step, text ∈ texts) :
    ∃ later : Registry, later.Follows modules ∧ (session.step step).Coherent later texts := by
  cases step with
  | ask requestId call =>
      refine ⟨modules, .refl modules, ?_⟩
      cases call with
      | query call =>
          exact coherent.answerQuery wellTyped
            (fun _ found => hashed _ (keyText_mem_textsOfStep wellTyped found requestId))
            requestId
      | showOptions | describeErrors =>
          exact coherent
      | updateOptions changes =>
          change (session.updateOptions requestId changes).2.Coherent modules texts
          unfold updateOptions
          split
          · exact coherent
          · exact ⟨coherent.serves, coherent.answered⟩
  | replace path definition =>
      exact ⟨modules.replace path definition, .replace modules path definition,
        coherent.follow (coherent.serves.having path definition)
          (.replace modules path definition) rfl⟩
  | remove path =>
      exact ⟨modules.remove path, .remove modules path,
        coherent.follow (coherent.serves.without path) (.remove modules path) rfl⟩
  | advance seconds =>
      exact ⟨modules, .refl modules,
        coherent.follow coherent.serves (.refl modules) rfl⟩

/-- A run keeps a session coherent, over a registry that follows. -/
theorem run
    {steps : List SessionStep}
    (coherent : session.Coherent modules texts)
    (wellTyped : ∀ step ∈ steps, step.WellTyped)
    (hashed : ∀ text ∈ session.hashedTexts steps, text ∈ texts) :
    ∃ later : Registry, later.Follows modules ∧ (session.run steps).Coherent later texts := by
  induction steps generalizing session modules with
  | nil =>
      exact ⟨modules, .refl modules, coherent⟩
  | cons step rest inductionHypothesis =>
      obtain ⟨next, nextFollows, afterStep⟩ :=
        coherent.step (wellTyped step (by simp)) fun text member =>
          hashed text (List.mem_append_left _ member)
      obtain ⟨later, laterFollows, afterRest⟩ :=
        inductionHypothesis afterStep
          (fun other member => wellTyped other (List.mem_cons_of_mem step member))
          fun text member => hashed text (List.mem_append_right _ member)
      exact ⟨later, laterFollows.trans nextFollows, afterRest⟩

/-- In a coherent session a query is answered with the cache as without, if the lifetime of
answers is a finite number on the clock. -/
theorem answerQuery_eq_noCache
    {call : QueryCall}
    (coherent : session.Coherent modules texts)
    (apart : DigestsApart texts)
    (wellTyped : call.query.WellTyped)
    (hashed :
      ∀ subject, session.subject call.modulePath call.query = .ok subject →
        subject.keyText ∈ texts)
    (lifetimeFinite : (Binary64.ofInt session.options.effectiveLifetime).isFinite = true)
    (requestId : String) :
    (session.answerQuery requestId call).1 =
      (session.answerQuery requestId { call with noCache := true }).1 := by
  obtain ⟨seconds, usable⟩ := exists_lifetime_of_isFinite lifetimeFinite
  simp only [Session.answerQuery]
  cases planned : session.plan call.modulePath call.query with
  | error failure =>
      rfl
  | ok plan =>
      obtain ⟨subject, found, rfl⟩ := exists_subject_of_plan wellTyped planned
      dsimp only
      rw [usable, ResponseCache.execute_eq_produce call.noCache, ResponseCache.execute_noCache]
      intro entry member keySame
      exact coherent.produce_eq apart found (hashed subject found) member keySame

/-- A query that can be prepared is answered from the module of now, unless the lifetime of answers
cannot be used. -/
theorem conclude_of_answerQuery
    {call : QueryCall}
    {subject : QuerySubject}
    (coherent : session.Coherent modules texts)
    (apart : DigestsApart texts)
    (wellTyped : call.query.WellTyped)
    (found : session.subject call.modulePath call.query = .ok subject)
    (hashed : subject.keyText ∈ texts)
    (requestId : String) :
    ∃ definition,
      modules.module? subject.stamp.path = some definition ∧
      subject.stamp.fingerprint = modules.fingerprint subject.stamp.path ∧
      ((session.answerQuery requestId call).1 =
          conclude requestId (subject.envelope definition) ∨
        ∃ failure, session.lifetime = .error failure ∧
          (session.answerQuery requestId call).1 = conclude requestId (.error failure)) := by
  obtain ⟨definition, present, fingerprintSame, produced, _⟩ :=
    produce_of_subject coherent.serves found
  refine ⟨definition, present, fingerprintSame, ?_⟩
  rw [← produced]
  simp only [Session.answerQuery, plan_of_subject wellTyped found]
  have holds :
      ∀ entry ∈ session.cache.entries, entry.key = subject.plan.cacheKey →
        (session.produce subject.plan).1 = .ok entry.payload :=
    fun entry member keySame => coherent.produce_eq apart found hashed member keySame
  rcases ResponseCache.execute_eq_produce_or_error session.lifetime call.noCache
      (fun _ => session.produce subject.plan) session.source holds with
    asProduced | ⟨failure, unusable, failed⟩
  · exact .inl (congrArg (conclude requestId) asProduced)
  · exact .inr ⟨failure, unusable, congrArg (conclude requestId) failed⟩

/-- An answer without an error is what the query is answered with from the module of now. -/
theorem envelope_of_answerQuery
    {call : QueryCall}
    {subject : QuerySubject}
    {requestId : String}
    (coherent : session.Coherent modules texts)
    (apart : DigestsApart texts)
    (wellTyped : call.query.WellTyped)
    (found : session.subject call.modulePath call.query = .ok subject)
    (hashed : subject.keyText ∈ texts)
    (noError : (session.answerQuery requestId call).1.isError = false) :
    ∃ definition,
      modules.module? subject.stamp.path = some definition ∧
      subject.stamp.fingerprint = modules.fingerprint subject.stamp.path ∧
      subject.envelope definition = .ok (session.answerQuery requestId call).1 := by
  obtain ⟨definition, present, fingerprintSame, concluded | ⟨_, _, failed⟩⟩ :=
    coherent.conclude_of_answerQuery apart wellTyped found hashed requestId
  · refine ⟨definition, present, fingerprintSame, ?_⟩
    rw [concluded] at noError ⊢
    cases outcome : subject.envelope definition with
    | error failure =>
        rw [outcome] at noError
        cases noError
    | ok envelope =>
        rfl
  · rw [failed] at noError
    cases noError

end Coherent

/-- After any run over a registry the session is coherent, over the texts of the run and of the
steps that come next. -/
theorem exists_coherent_run
    (modules : Registry)
    (files : FileTree)
    (options : RuntimeOptions)
    (clock : Binary64)
    {history : List SessionStep}
    (historyWellTyped : ∀ step ∈ history, step.WellTyped)
    (steps : List SessionStep) :
    let started := start (.ofStore (.registry modules)) files options clock
    let session := started.run history
    let texts := started.hashedTexts (history ++ steps)
    ∃ now : Registry,
      session.Coherent now texts ∧ ∀ text ∈ session.hashedTexts steps, text ∈ texts := by
  intro started session texts
  have textsAre : texts = started.hashedTexts history ++ session.hashedTexts steps :=
    started.hashedTexts_append history steps
  obtain ⟨now, _, coherent⟩ :=
    (coherent_start modules files options clock texts).run historyWellTyped
      fun _ member => textsAre ▸ List.mem_append_left _ member
  exact ⟨now, coherent, fun _ member => textsAre ▸ List.mem_append_right _ member⟩

/-- After any run over a registry a query is answered with the cache as without, errors included.
The digest is taken to tell the key texts of the run apart, and the clock to be exact, so that the
lifetime of answers in force is a finite number on it. -/
theorem answerQuery_eq_noCache_after_run
    {modules : Registry}
    {files : FileTree}
    {options : RuntimeOptions}
    {clock : Binary64}
    {steps : List SessionStep}
    {requestId : String}
    {call : QueryCall}
    (stepsWellTyped : ∀ step ∈ steps, step.WellTyped)
    (callWellTyped : call.query.WellTyped)
    (apart :
      DigestsApart
        ((start (.ofStore (.registry modules)) files options clock).hashedTexts
          (steps ++ [.ask requestId (.query call)])))
    (lifetimeFinite :
      (Binary64.ofInt
        ((start (.ofStore (.registry modules)) files options clock).run
          steps).options.effectiveLifetime).isFinite = true) :
    let session := (start (.ofStore (.registry modules)) files options clock).run steps
    (session.answerQuery requestId call).1 =
      (session.answerQuery requestId { call with noCache := true }).1 := by
  intro session
  obtain ⟨now, coherent, hashed⟩ :=
    exists_coherent_run modules files options clock stepsWellTyped [.ask requestId (.query call)]
  refine coherent.answerQuery_eq_noCache apart callWellTyped ?_ lifetimeFinite requestId
  intro subject found
  exact hashed _
    (List.mem_append_left _ (keyText_mem_textsOfStep callWellTyped found requestId))

/-- A type that was looked at, replaced and looked at again is shown from the cache as it is. -/
theorem answerQuery_eq_noCache_after_replacing :
    let call : QueryCall := ⟨.text "lib", .type .info (.text "A") (.bool true), false⟩
    let session :=
      (overModule "lib" ⟨"Lib", "", [.bare "A"]⟩).run
        [.ask "1" (.query call), .replace "lib" ⟨"Lib", "", [.bare "N.A"]⟩,
          .ask "2" (.query call)]
    (session.answerQuery "3" call).1 =
      (session.answerQuery "3" { call with noCache := true }).1 := by
  intro call
  apply answerQuery_eq_noCache_after_run
  · intro step member
    simp only [List.mem_cons, List.not_mem_nil, or_false] at member
    rcases member with rfl | rfl | rfl
    · exact ⟨true, rfl⟩
    · trivial
    · exact ⟨true, rfl⟩
  · exact ⟨true, rfl⟩
  · apply digestsApart_of_nodup
    decide +kernel
  · decide +kernel

end Session

end TypeCatalog
