import TypeCatalog.Proofs.Cache.Entries
import TypeCatalog.Proofs.Cache.Executor
import TypeCatalog.Proofs.Cache.UnderKey
import TypeCatalog.Proofs.Session.Subject

namespace TypeCatalog

/-!
# Expiry on reading

An entry that has expired stays in the cache until it is read.  Nobody can tell: as long as no time
is rounded, an executor replies as the log of its writes says, at whatever time an entry expires and
whatever is written after it was dropped.
-/

/-- What the cache has under a key when a log of writes is right: nothing if nothing was kept, else
what was kept last.  It may be gone only when its time is over. -/
inductive WriteLog.Records
    {α : Type}
    (log : WriteLog α)
    (key : String) : Option (CacheEntry α) → Prop where
  | unwritten :
      log.kept? key = none →
      Records log key none
  | present {kept : KeptPayload α} {expiresAt : Binary64} :
      log.kept? key = some kept →
      expiresAt.isFinite = true →
      expiresAt.value = kept.expiry →
      Records log key (some ⟨key, kept.payload, expiresAt⟩)
  | dropped {kept : KeptPayload α} :
      log.kept? key = some kept →
      kept.expiry ≤ log.now →
      Records log key none

/-- What is recorded stays right while time passes and nothing is written under the key. -/
theorem WriteLog.Records.follow
    {α : Type}
    {log later : WriteLog α}
    {key : String}
    {found : Option (CacheEntry α)}
    (records : log.Records key found)
    (kept_eq : later.kept? key = log.kept? key)
    (notBefore : log.now ≤ later.now) :
    later.Records key found := by
  cases records with
  | unwritten nothingKept =>
      exact .unwritten (kept_eq.trans nothingKept)
  | present keptLast finite expiry_eq =>
      exact .present (kept_eq.trans keptLast) finite expiry_eq
  | dropped keptLast ended =>
      exact .dropped (kept_eq.trans keptLast) (ended.trans notBefore)

namespace Executor

variable {α : Type}

/-- An executor whose writes a log has recorded. -/
structure Mirrors
    (executor : Executor α)
    (log : WriteLog α) : Prop where
  finite : executor.cache.clock.isFinite = true
  now_eq : log.now = executor.cache.clock.value
  keptSeconds_eq : log.keptSeconds = executor.options.cacheLifetime
  runs_eq : log.runs = executor.runs
  records : ∀ key, log.Records key (executor.cache.entry? key)

theorem mirrors_start
    {clock : Binary64}
    (finite : clock.isFinite = true)
    (options : RuntimeOptions) :
    (start options clock : Executor α).Mirrors (.start options clock) :=
  ⟨finite, rfl, rfl, rfl, fun _ => .unwritten rfl⟩

namespace Mirrors

variable {executor : Executor α} {log : WriteLog α}

theorem isExpired_iff
    (mirrors : executor.Mirrors log)
    (entry : CacheEntry α)
    (finite : entry.expiresAt.isFinite = true) :
    executor.cache.isExpired entry = true ↔ entry.expiresAt.value ≤ log.now := by
  rw [ResponseCache.isExpired, Binary64.atMost_iff finite mirrors.finite, mirrors.now_eq]

/-- Reading gives what the log says. -/
theorem get_eq_lookup
    (mirrors : executor.Mirrors log)
    (key : String) :
    (executor.cache.get key).1 = log.lookup key := by
  have recorded := mirrors.records key
  rw [ResponseCache.get_fst]
  generalize executor.cache.entry? key = found at recorded ⊢
  cases recorded with
  | unwritten nothingKept =>
      simp [WriteLog.lookup, nothingKept]
  | @present kept expiresAt keptLast finite expiry_eq =>
      have expired := mirrors.isExpired_iff ⟨key, kept.payload, expiresAt⟩ finite
      rw [expiry_eq] at expired
      by_cases ended : kept.expiry ≤ log.now
      · simp [WriteLog.lookup, keptLast, expired.mpr ended, not_lt.mpr ended, Option.filter_some]
      · have fresh := Bool.eq_false_iff.mpr (mt expired.mp ended)
        simp [WriteLog.lookup, keptLast, fresh, not_le.mp ended, Option.filter_some]
  | dropped keptLast ended =>
      simp [WriteLog.lookup, keptLast, not_lt.mpr ended]

/-- Reading drops nothing that the log still needs. -/
theorem read
    (mirrors : executor.Mirrors log)
    (key : String) :
    ({ executor with cache := (executor.cache.get key).2 } : Executor α).Mirrors log := by
  refine ⟨?_, ?_, mirrors.keptSeconds_eq, mirrors.runs_eq, ?_⟩
  · simpa using mirrors.finite
  · simpa using mirrors.now_eq
  intro other
  have recorded := mirrors.records other
  by_cases isKey : other = key
  · subst other
    dsimp only
    rw [ResponseCache.entry?_get_self]
    generalize executor.cache.entry? key = found at recorded ⊢
    cases recorded with
    | unwritten nothingKept =>
        exact .unwritten nothingKept
    | @present kept expiresAt keptLast finite expiry_eq =>
        have expired := mirrors.isExpired_iff ⟨key, kept.payload, expiresAt⟩ finite
        rw [expiry_eq] at expired
        rw [Option.filter_some]
        split
        · exact .present keptLast finite expiry_eq
        · next notFresh =>
            refine .dropped keptLast (expired.mp ?_)
            simpa using notFresh
    | dropped keptLast ended =>
        exact .dropped keptLast ended
  · dsimp only
    rw [ResponseCache.entry?_get_of_ne _ _ isKey]
    exact recorded

/-- Keeping a payload is recorded as the latest write of its key. -/
theorem keep
    (mirrors : executor.Mirrors log)
    {lifetime : Binary64}
    (exact : executor.cache.clock.AddsExactly lifetime)
    (key : String)
    (payload : α) :
    ({ executor with cache := executor.cache.set key payload lifetime } : Executor α).Mirrors
      (log.keep key payload lifetime.value) := by
  refine ⟨mirrors.finite, mirrors.now_eq, mirrors.keptSeconds_eq, mirrors.runs_eq, ?_⟩
  intro other
  dsimp only
  by_cases isKey : other = key
  · subst other
    rw [ResponseCache.entry?_set_self]
    refine .present (log.kept?_keep_self key payload lifetime.value) exact.finite ?_
    rw [exact.value_add, KeptPayload.expiry, mirrors.now_eq]
  · rw [ResponseCache.entry?_set_of_ne _ _ isKey]
    have keptSame := log.kept?_keep_of_ne isKey payload lifetime.value
    exact (mirrors.records other).follow keptSame le_rfl

/-- Producing is recorded, and what was produced is kept for the lifetime of this moment. -/
theorem produce
    (mirrors : executor.Mirrors log)
    {key : String}
    (missed : (executor.cache.get key).1 = none)
    (outcome : Except Failure α)
    (exact : ∀ payload, outcome = .ok payload → executor.KeepsExactly) :
    (executor.execute key false outcome).1 = outcome ∧
      (executor.execute key false outcome).2.Mirrors (log.produce key outcome) := by
  have afterRead := mirrors.read key
  have runs_eq : log.runs + 1 = executor.runs + 1 := congrArg (· + 1) mirrors.runs_eq
  unfold execute
  rw [ResponseCache.execute_of_miss _ _ _ _ _ missed]
  cases outcome with
  | error failure =>
      exact ⟨rfl, afterRead.finite, afterRead.now_eq, afterRead.keptSeconds_eq, runs_eq,
        fun other => (afterRead.records other).follow rfl le_rfl⟩
  | ok payload =>
      obtain ⟨seconds, usable, seconds_eq, addsExactly⟩ := exact payload rfl
      have kept := afterRead.keep (by simpa using addsExactly) key payload
      have lifetime_eq : ((max 1 log.keptSeconds : Int) : ℚ) = seconds.value := by
        rw [seconds_eq, mirrors.keptSeconds_eq]
        rfl
      rw [usable, WriteLog.produce]
      push_cast at lifetime_eq
      rw [lifetime_eq]
      exact ⟨rfl, kept.finite, kept.now_eq, kept.keptSeconds_eq, runs_eq,
        fun other => (kept.records other).follow rfl le_rfl⟩

/-- Executing answers as the log says, and is recorded by it. -/
theorem execute
    (mirrors : executor.Mirrors log)
    {key : String}
    {noCache : Bool}
    {outcome : Except Failure α}
    (exact : executor.Exact (.execute key noCache outcome)) :
    (executor.step (.execute key noCache outcome)).1 =
        (log.step (.execute key noCache outcome)).1 ∧
      (executor.step (.execute key noCache outcome)).2.Mirrors
        (log.step (.execute key noCache outcome)).2 := by
  cases noCache with
  | true =>
      refine ⟨congrArg (ExecutorReply.answered outcome) ?_, mirrors.finite, mirrors.now_eq,
        mirrors.keptSeconds_eq, congrArg (· + 1) mirrors.runs_eq,
        fun other => (mirrors.records other).follow rfl le_rfl⟩
      exact (congrArg (· + 1) mirrors.runs_eq).symm
  | false =>
      have reads := mirrors.get_eq_lookup key
      cases found : log.lookup key with
      | some payload =>
          rw [found] at reads
          simp only [step, Executor.execute, WriteLog.step, found,
            ResponseCache.execute_of_get _ _ _ reads, mirrors.runs_eq, true_and]
          exact ⟨mirrors.finite, mirrors.now_eq, mirrors.keptSeconds_eq, mirrors.runs_eq,
            mirrors.records⟩
      | none =>
          rw [found] at reads
          have produced := mirrors.produce reads _ (exact rfl reads)
          simp only [step, WriteLog.step, found]
          refine ⟨?_, produced.2⟩
          rw [produced.1, ← produced.2.runs_eq]
          cases outcome <;> rfl

/-- A step is replied to as the log says, and is recorded by it. -/
theorem step
    (mirrors : executor.Mirrors log)
    {next : ExecutorStep α}
    (exact : executor.Exact next) :
    (executor.step next).1 = (log.step next).1 ∧
      (executor.step next).2.Mirrors (log.step next).2 := by
  cases next with
  | read key =>
      exact ⟨congrArg ExecutorReply.found (mirrors.get_eq_lookup key), mirrors.read key⟩
  | keep key payload lifetime =>
      exact ⟨rfl, mirrors.keep exact key payload⟩
  | clear =>
      exact ⟨rfl, mirrors.finite, mirrors.now_eq, mirrors.keptSeconds_eq, mirrors.runs_eq,
        fun _ => .unwritten rfl⟩
  | execute key noCache outcome =>
      exact mirrors.execute exact
  | advance seconds =>
      obtain ⟨forward, addsExactly⟩ := exact
      refine ⟨rfl, addsExactly.finite, ?_, mirrors.keptSeconds_eq, mirrors.runs_eq,
        fun key => (mirrors.records key).follow rfl (le_add_of_nonneg_right forward)⟩
      exact (congrArg (· + seconds.value) mirrors.now_eq).trans addsExactly.value_add.symm
  | changeLifetime seconds =>
      exact ⟨rfl, mirrors.finite, mirrors.now_eq, rfl, mirrors.runs_eq,
        fun key => (mirrors.records key).follow rfl le_rfl⟩

/-- A run is replied to as the log says, and is recorded by it. -/
theorem run
    (mirrors : executor.Mirrors log)
    {steps : List (ExecutorStep α)}
    (exact : executor.ExactRun steps) :
    executor.replies steps = log.replies steps ∧
      (executor.run steps).Mirrors (log.run steps) := by
  induction steps generalizing executor log with
  | nil =>
      exact ⟨rfl, mirrors⟩
  | cons next rest inductionHypothesis =>
      obtain ⟨replied, mirrorsNext⟩ := mirrors.step exact.1
      obtain ⟨repliedRest, mirrorsRest⟩ := inductionHypothesis mirrorsNext exact.2
      exact ⟨congrArg₂ List.cons replied repliedRest, mirrorsRest⟩

end Mirrors

/-- What an executor does next when a log has recorded its writes.  Reading finds what was kept last
under a key while its time is not over.  Executing produces a payload exactly when reading finds
none, and keeps it for the lifetime of this moment, which is at least one second; without the cache
it always produces and leaves the cache alone.  Neither a failure nor a new lifetime writes. -/
structure Obeys
    (executor : Executor α)
    (log : WriteLog α) : Prop where
  reads :
    ∀ key payload,
      (executor.cache.get key).1 = some payload ↔
        ∃ kept,
          log.kept? key = some kept ∧ kept.payload = payload ∧ log.now < kept.since + kept.lifetime
  produces :
    ∀ key outcome,
      (executor.execute key false outcome).2.runs =
        executor.runs + if (log.lookup key).isSome then 0 else 1
  keeps :
    ∀ key payload,
      log.lookup key = none → executor.KeepsExactly →
        ∃ expiresAt,
          ResponseCache.entry? (executor.execute key false (.ok payload)).2.cache key =
              some ⟨key, payload, expiresAt⟩ ∧
            expiresAt.value = log.now + max 1 (executor.options.cacheLifetime : ℚ)
  bypasses :
    ∀ key outcome,
      executor.execute key true outcome = (outcome, { executor with runs := executor.runs + 1 })
  failureWritesNothing :
    ∀ key noCache failure,
      ∀ entry ∈ (executor.execute key noCache (.error failure)).2.cache.entries,
        entry ∈ executor.cache.entries
  lifetimeMovesNothing :
    ∀ seconds, (executor.step (.changeLifetime seconds)).2.cache = executor.cache

namespace Mirrors

variable {executor : Executor α} {log : WriteLog α}

private theorem runs_execute
    (mirrors : executor.Mirrors log)
    (key : String)
    (outcome : Except Failure α) :
    (executor.execute key false outcome).2.runs =
      executor.runs + if (log.lookup key).isSome then 0 else 1 := by
  have reads := mirrors.get_eq_lookup key
  cases found : log.lookup key with
  | some payload =>
      rw [found] at reads
      simp [Executor.execute, ResponseCache.execute_of_get _ _ _ reads]
  | none =>
      rw [found] at reads
      exact ResponseCache.execute_produced _ _ _ (.inr reads)

theorem obeys (mirrors : executor.Mirrors log) : executor.Obeys log where
  reads key payload := by
    rw [mirrors.get_eq_lookup, WriteLog.lookup_eq_some_iff]
    rfl
  produces := mirrors.runs_execute
  keeps key payload nothingFound exact := by
    have reads := (mirrors.get_eq_lookup key).trans nothingFound
    have produced := (mirrors.produce reads (.ok payload) fun _ _ => exact).2
    have recorded := produced.records key
    have keptNow :
        (log.produce key (.ok payload)).kept? key =
          some ⟨payload, log.now, max 1 log.keptSeconds⟩ :=
      log.kept?_keep_self key payload _
    generalize ResponseCache.entry? (executor.execute key false (.ok payload)).2.cache key = found
      at recorded ⊢
    cases recorded with
    | unwritten nothingKept =>
        cases nothingKept.symm.trans keptNow
    | present keptLast finite expiry_eq =>
        cases keptLast.symm.trans keptNow
        rw [mirrors.keptSeconds_eq] at expiry_eq
        exact ⟨_, rfl, expiry_eq⟩
    | dropped keptLast ended =>
        cases keptLast.symm.trans keptNow
        have alive : log.now < log.now + max 1 (log.keptSeconds : ℚ) :=
          lt_add_of_pos_right _ (lt_max_of_lt_left one_pos)
        exact absurd ended (not_le.mpr alive)
  bypasses _ _ := rfl
  failureWritesNothing key noCache failure entry member := by
    rcases ResponseCache.mem_of_mem_execute member with wasThere | ⟨_, produced⟩
    · exact wasThere
    · cases produced
  lifetimeMovesNothing _ := rfl

end Mirrors

/-- As long as no time is rounded, an executor replies to every run as the log of its writes says,
and it goes on that way: that expired entries stay until they are read is never seen. -/
theorem obeys_latest_writes_after_run
    {clock : Binary64}
    {steps : List (ExecutorStep α)}
    (finite : clock.isFinite = true)
    (options : RuntimeOptions)
    (exact : (start options clock : Executor α).ExactRun steps) :
    (start options clock).replies steps = (WriteLog.start options clock).replies steps ∧
      ((start options clock).run steps).Obeys ((WriteLog.start options clock).run steps) := by
  obtain ⟨replied, mirrors⟩ := (mirrors_start finite options).run exact
  exact ⟨replied, mirrors.obeys⟩

/-- A payload is given out until just before its time is over, and then produced anew for one
second. -/
theorem obeys_latest_writes_at_boundary :
    let steps : List (ExecutorStep String) :=
      [.keep "k" "old" (.ofInt 5), .advance (.ofInt 4), .execute "k" false (.ok "unused"),
        .changeLifetime 0, .advance (.ofInt 1), .execute "k" false (.ok "new"), .read "k",
        .advance (.ofInt 1), .read "k"]
    let executor : Executor String := start .standard (.ofInt 1000)
    (executor.replies steps).map ExecutorReply.payload? =
        [none, none, some "old", none, none, some "new", some "new", none, none] ∧
      (executor.run steps).runs = 1 ∧
      (executor.run steps).Obeys ((WriteLog.start .standard (.ofInt 1000)).run steps) := by
  intro steps executor
  have exact : executor.ExactRun steps := by
    refine ⟨⟨by decide +kernel, by decide +kernel⟩,
      ⟨by decide +kernel, by decide +kernel, by decide +kernel⟩, ?hit, trivial,
      ⟨by decide +kernel, by decide +kernel, by decide +kernel⟩, ?miss, trivial,
      ⟨by decide +kernel, by decide +kernel, by decide +kernel⟩, trivial, trivial⟩
    case hit =>
      intro _ missed
      have hits :
          ((((executor.step (.keep "k" "old" (.ofInt 5))).2.step
            (.advance (.ofInt 4))).2.cache.get "k").1 = some "old") := by
        decide +kernel
      cases hits.symm.trans missed
    case miss =>
      intro _ _ _ _
      refine ⟨.ofInt 1, Failure.eq_ok_of_toOption_eq_some ?_, ?_, ?_, ?_⟩ <;> decide +kernel
  have obeys := obeys_latest_writes_after_run (by decide +kernel) .standard exact
  exact ⟨by decide +kernel, by decide +kernel, obeys.2⟩

end Executor

namespace Session

/-- A prepared query is answered by an executor over the cache and the options of the session. -/
theorem answerQuery_eq_execute
    {session : Session}
    {call : QueryCall}
    {plan : Plan}
    (planned : session.plan call.modulePath call.query = .ok plan)
    (requestId : String) :
    let executor : Executor Envelope := ⟨session.cache, session.options, 0⟩
    let executed := executor.execute plan.cacheKey call.noCache (session.produce plan).1
    (session.answerQuery requestId call).1 = conclude requestId executed.1 ∧
      (session.answerQuery requestId call).2.cache = executed.2.cache := by
  intro executor executed
  have outcomeSame :
      (session.produce plan).1 =
        ((fun _ => ((session.produce plan).1, executor.runs + 1) : Unit → _) ()).1 :=
    rfl
  rw [answerQuery, planned]
  exact ⟨congrArg (conclude requestId) (ResponseCache.execute_fst_congr rfl outcomeSame _ _),
    ResponseCache.cache_execute_eq_of_produce_eq _ _ _ _ _ _ outcomeSame _⟩

end Session

end TypeCatalog
