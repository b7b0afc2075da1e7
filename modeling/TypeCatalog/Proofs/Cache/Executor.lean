import TypeCatalog.Proofs.Number.Rounding
import TypeCatalog.Session.Query

namespace TypeCatalog

/-!
# Executors and what they should do

An executor answers from a cache, or produces a payload and keeps it for as long as the options of
that moment say.  What it should do is said without entries that expire: by the log of all writes
and the time of now.
-/

/-- A cache with the options in force, and how often a payload was produced. -/
structure Executor (α : Type) where
  cache : ResponseCache α
  options : RuntimeOptions
  runs : Nat
deriving Repr

/-- A step of an executor.  The outcome of executing is the one that producing would have. -/
inductive ExecutorStep (α : Type) where
  | read (key : String)
  | keep (key : String) (payload : α) (lifetime : Binary64)
  | clear
  | execute (key : String) (noCache : Bool) (outcome : Except Failure α)
  | advance (seconds : Binary64)
  | changeLifetime (seconds : Int)
deriving Repr

/-- What a caller learns from a step: the payload that was read, or the answer and how often a
payload was produced so far. -/
inductive ExecutorReply (α : Type) where
  | done
  | found (payload? : Option α)
  | answered (answer : Except Failure α) (runs : Nat)
deriving Repr

/-- The payload that a caller is given, if any. -/
def ExecutorReply.payload?
    {α : Type} : ExecutorReply α → Option α
  | .done => none
  | .found payload? => payload?
  | .answered answer _ => answer.toOption

namespace Executor

variable {α : Type}

/-- An executor with an empty cache. -/
def start
    (options : RuntimeOptions)
    (clock : Binary64) : Executor α :=
  ⟨.empty clock, options, 0⟩

/-- How long a payload is kept that is produced now. -/
def lifetime (executor : Executor α) : Except Failure Binary64 :=
  (Quantity.whole executor.options.effectiveLifetime).toDouble.mapError .crashed

/-- Answers from the cache, or produces a payload with an outcome and keeps it. -/
def execute
    (executor : Executor α)
    (key : String)
    (noCache : Bool)
    (outcome : Except Failure α) : Except Failure α × Executor α :=
  let executed :=
    executor.cache.execute key executor.lifetime noCache
      (fun _ => (outcome, executor.runs + 1)) executor.runs
  (executed.1, { executor with cache := executed.2.1, runs := executed.2.2 })

/-- The reply to a step and the executor after it. -/
def step
    (executor : Executor α) : ExecutorStep α → ExecutorReply α × Executor α
  | .read key =>
    (.found (executor.cache.get key).1, { executor with cache := (executor.cache.get key).2 })
  | .keep key payload lifetime =>
    (.done, { executor with cache := executor.cache.set key payload lifetime })
  | .clear => (.done, { executor with cache := executor.cache.clear })
  | .execute key noCache outcome =>
    let executed := executor.execute key noCache outcome
    (.answered executed.1 executed.2.runs, executed.2)
  | .advance seconds => (.done, { executor with cache := executor.cache.advance seconds })
  | .changeLifetime seconds =>
    (.done, { executor with options := { executor.options with cacheLifetime := seconds } })

/-- The executor after several steps. -/
def run
    (executor : Executor α)
    (steps : List (ExecutorStep α)) : Executor α :=
  steps.foldl (fun before next => (before.step next).2) executor

/-- The replies to several steps. -/
def replies
    (executor : Executor α) : List (ExecutorStep α) → List (ExecutorReply α)
  | [] => []
  | next :: rest => (executor.step next).1 :: (executor.step next).2.replies rest

/-- Whether a payload that is produced now is kept until an exact time. -/
def KeepsExactly (executor : Executor α) : Prop :=
  ∃ seconds,
    executor.lifetime = .ok seconds ∧
      seconds.value = executor.options.effectiveLifetime ∧
      executor.cache.clock.AddsExactly seconds

/-- Whether a step does not turn the clock back and rounds no time that it computes. -/
def Exact
    (executor : Executor α) : ExecutorStep α → Prop
  | .keep _ _ lifetime => executor.cache.clock.AddsExactly lifetime
  | .execute key noCache outcome =>
    noCache = false → (executor.cache.get key).1 = none →
      ∀ payload, outcome = .ok payload → executor.KeepsExactly
  | .advance seconds => 0 ≤ seconds.value ∧ executor.cache.clock.AddsExactly seconds
  | .read _ | .clear | .changeLifetime _ => True

/-- Whether all steps of a run are exact. -/
def ExactRun
    (executor : Executor α) : List (ExecutorStep α) → Prop
  | [] => True
  | next :: rest => executor.Exact next ∧ (executor.step next).2.ExactRun rest

end Executor

/-- A payload that was kept: since when, and for how many seconds. -/
structure KeptPayload (α : Type) where
  payload : α
  since : ℚ
  lifetime : ℚ

/-- The first moment at which a kept payload is no longer given out. -/
def KeptPayload.expiry
    {α : Type}
    (kept : KeptPayload α) : ℚ :=
  kept.since + kept.lifetime

/-- A write: a payload was kept under a key, or everything was dropped. -/
inductive CacheWrite (α : Type) where
  | kept (key : String) (payload : KeptPayload α)
  | cleared

/-- All writes, the latest first, and the time of now.  The other fields say for how many seconds
payloads are to be kept from now on, and how often one was produced. -/
structure WriteLog (α : Type) where
  writes : List (CacheWrite α)
  now : ℚ
  keptSeconds : Int
  runs : Nat

namespace WriteLog

variable {α : Type}

/-- A log without writes. -/
def start
    (options : RuntimeOptions)
    (clock : Binary64) : WriteLog α :=
  ⟨[], clock.value, options.cacheLifetime, 0⟩

/-- What the latest write that affects a key kept under it, if it kept anything. -/
def latest?
    (key : String) : List (CacheWrite α) → Option (KeptPayload α)
  | [] | .cleared :: _ => none
  | .kept other payload :: earlier => if other = key then some payload else latest? key earlier

/-- What the latest write that affects a key kept under it, if it kept anything. -/
def kept?
    (log : WriteLog α)
    (key : String) : Option (KeptPayload α) :=
  latest? key log.writes

/-- The payload that was kept under a key last, unless its time is over. -/
def lookup
    (log : WriteLog α)
    (key : String) : Option α :=
  match log.kept? key with
  | some kept => if log.now < kept.expiry then some kept.payload else none
  | none => none

/-- The log after a payload was kept under a key. -/
def keep
    (log : WriteLog α)
    (key : String)
    (payload : α)
    (lifetime : ℚ) : WriteLog α :=
  { log with writes := .kept key ⟨payload, log.now, lifetime⟩ :: log.writes }

/-- The log after a payload was asked for and produced, or could not be produced. -/
def produce
    (log : WriteLog α)
    (key : String) : Except Failure α → WriteLog α
  | .ok payload =>
    { (log.keep key payload (max 1 log.keptSeconds)) with runs := log.runs + 1 }
  | .error _ => { log with runs := log.runs + 1 }

/-- The reply to a step and the log after it. -/
def step
    (log : WriteLog α) : ExecutorStep α → ExecutorReply α × WriteLog α
  | .read key => (.found (log.lookup key), log)
  | .keep key payload lifetime => (.done, log.keep key payload lifetime.value)
  | .clear => (.done, { log with writes := .cleared :: log.writes })
  | .execute _ true outcome =>
    (.answered outcome (log.runs + 1), { log with runs := log.runs + 1 })
  | .execute key false outcome =>
    match log.lookup key with
    | some payload => (.answered (.ok payload) log.runs, log)
    | none => (.answered outcome (log.runs + 1), log.produce key outcome)
  | .advance seconds => (.done, { log with now := log.now + seconds.value })
  | .changeLifetime seconds => (.done, { log with keptSeconds := seconds })

/-- The log after several steps. -/
def run
    (log : WriteLog α)
    (steps : List (ExecutorStep α)) : WriteLog α :=
  steps.foldl (fun before next => (before.step next).2) log

/-- The replies to several steps. -/
def replies
    (log : WriteLog α) : List (ExecutorStep α) → List (ExecutorReply α)
  | [] => []
  | next :: rest => (log.step next).1 :: (log.step next).2.replies rest

@[simp]
theorem kept?_keep_self
    (log : WriteLog α)
    (key : String)
    (payload : α)
    (lifetime : ℚ) :
    (log.keep key payload lifetime).kept? key = some ⟨payload, log.now, lifetime⟩ := by
  simp [kept?, keep, latest?]

theorem kept?_keep_of_ne
    {key other : String}
    (different : other ≠ key)
    (log : WriteLog α)
    (payload : α)
    (lifetime : ℚ) :
    (log.keep key payload lifetime).kept? other = log.kept? other := by
  simp [kept?, keep, latest?, different.symm]

/-- A payload is found exactly when it was kept last and its time is not over. -/
theorem lookup_eq_some_iff
    (log : WriteLog α)
    (key : String)
    (payload : α) :
    log.lookup key = some payload ↔
      ∃ kept, log.kept? key = some kept ∧ kept.payload = payload ∧ log.now < kept.expiry := by
  unfold lookup
  cases log.kept? key with
  | none =>
      simp
  | some kept =>
      by_cases alive : log.now < kept.expiry <;> simp [alive]

end WriteLog

end TypeCatalog
