import Mathlib.Data.List.Dedup
import TypeCatalog.Proofs.Session.KeyExactness
import TypeCatalog.Proofs.Settings.RuntimeOptions
import TypeCatalog.Proofs.Source.Registry
import TypeCatalog.Session.Operation

namespace TypeCatalog

/-!
# Runs

Sessions that can be reached, and the steps that lead to them.
-/

/-!
## Sessions that can be reached

A session starts with an empty cache and goes on by calls.  Between them everything around it may
change in any way: the modules and how they are read, the files, and the time.
-/

namespace Session

/-- The session when what is around it has changed. -/
def amid
    (session : Session)
    (source : ModuleSource)
    (files : FileTree)
    (clock : Binary64) : Session :=
  { session with
    source := source
    files := files
    cache := { session.cache with clock := clock } }

/-- The sessions that can be reached. -/
inductive Reachable : Session → Prop where
  | start
      (source : ModuleSource)
      (files : FileTree)
      {options : RuntimeOptions}
      (clock : Binary64) :
      options.OneSizeEach →
      Reachable (start source files options clock)
  | answer {session : Session} (requestId : String) (call : Call) :
      Reachable session →
      Reachable (session.answer requestId call).2
  | amid
      {session : Session}
      (source : ModuleSource)
      (files : FileTree)
      (clock : Binary64) :
      Reachable session →
      Reachable (session.amid source files clock)

end Session

/-!
## Runs of a session

A session over a registry goes on by calls, by changes of the registry and by time that passes.
-/

/-- One step of a session. -/
inductive SessionStep where
  | ask (requestId : String) (call : Call)
  | replace (path : String) (definition : ModuleDefinition)
  | remove (path : String)
  | advance (seconds : Binary64)
deriving Repr

/-- Whether the arguments of a step have the types that its operation declares. -/
def SessionStep.WellTyped : SessionStep → Prop
  | .ask _ (.query call) => call.query.WellTyped
  | .ask .. | .replace .. | .remove _ | .advance _ => True

namespace Session

/-- The session after a step. -/
def step
    (session : Session) : SessionStep → Session
  | .ask requestId call => (session.answer requestId call).2
  | .replace path definition =>
    { session with source := session.source.having path definition }
  | .remove path => { session with source := session.source.without path }
  | .advance seconds => { session with cache := session.cache.advance seconds }

/-- The session after several steps. -/
def run
    (session : Session)
    (steps : List SessionStep) : Session :=
  steps.foldl step session

/-- The text that a step hashes for a key, if it is a query that can be prepared. -/
def textsOfStep
    (session : Session) : SessionStep → List String
  | .ask _ (.query call) => (session.keyText call.modulePath call.query).toOption.toList
  | .ask .. | .replace .. | .remove _ | .advance _ => []

/-- The texts that a run hashes for keys. -/
def hashedTexts
    (session : Session) : List SessionStep → List String
  | [] => []
  | step :: rest => session.textsOfStep step ++ (session.step step).hashedTexts rest

theorem hashedTexts_append
    (session : Session)
    (first second : List SessionStep) :
    session.hashedTexts (first ++ second) =
      session.hashedTexts first ++ (session.run first).hashedTexts second := by
  induction first generalizing session with
  | nil =>
      rfl
  | cons step rest inductionHypothesis =>
      simp only [List.cons_append, hashedTexts, inductionHypothesis, List.append_assoc]
      rfl

/-- A query hashes the key text of its subject, if it has one. -/
theorem textsOfStep_query
    (session : Session)
    {call : QueryCall}
    (wellTyped : call.query.WellTyped)
    (requestId : String) :
    session.textsOfStep (.ask requestId (.query call)) =
      ((session.subject call.modulePath call.query).map
        QuerySubject.keyText).toOption.toList := by
  rw [textsOfStep, session.keyText_eq call.modulePath wellTyped]

/-- A query that can be prepared hashes its key text. -/
theorem keyText_mem_textsOfStep
    {session : Session}
    {call : QueryCall}
    {subject : QuerySubject}
    (wellTyped : call.query.WellTyped)
    (found : session.subject call.modulePath call.query = .ok subject)
    (requestId : String) :
    subject.keyText ∈ session.textsOfStep (.ask requestId (.query call)) := by
  rw [session.textsOfStep_query wellTyped, found]
  exact List.mem_singleton.mpr rfl

private theorem valid_updateOptions
    {session : Session}
    (valid : session.options.Valid)
    (requestId : String)
    (changes : OptionChanges) :
    (session.updateOptions requestId changes).2.options.Valid := by
  unfold updateOptions
  split
  · exact valid
  · next options changed updated =>
      obtain ⟨_, _, updated⟩ := Failure.exists_of_bind_eq_ok updated
      obtain ⟨_, _, updated⟩ := Failure.exists_of_bind_eq_ok updated
      obtain ⟨entries, _, updated⟩ := Failure.exists_of_bind_eq_ok updated
      obtain ⟨read, passed, updated⟩ := Failure.exists_of_bind_eq_ok updated
      cases updated
      exact RuntimeOptions.valid_update valid (Schema.Checked.eq_ok_of_toExcept passed)

theorem options_answerQuery
    (session : Session)
    (requestId : String)
    (call : QueryCall) :
    (session.answerQuery requestId call).2.options = session.options := by
  unfold answerQuery
  split <;> rfl

/-- Valid runtime options stay valid through a run. -/
theorem valid_run
    {session : Session}
    (valid : session.options.Valid)
    (steps : List SessionStep) :
    (session.run steps).options.Valid := by
  induction steps generalizing session with
  | nil =>
      exact valid
  | cons step rest inductionHypothesis =>
      refine inductionHypothesis ?_
      cases step with
      | ask requestId call =>
          cases call with
          | query call =>
              change (session.answerQuery requestId call).2.options.Valid
              rw [options_answerQuery]
              exact valid
          | updateOptions changes =>
              exact valid_updateOptions valid requestId changes
          | showOptions | describeErrors =>
              exact valid
      | replace | remove | advance =>
          exact valid

end Session

/-- Whether the digest tells texts apart. -/
def DigestsApart (texts : List String) : Prop :=
  ∀ first ∈ texts, ∀ second ∈ texts,
    Digest.sha256Text first = Digest.sha256Text second → first = second

/-- Texts are told apart if the different ones have different digests. -/
theorem digestsApart_of_nodup
    {texts : List String}
    (distinct : (texts.dedup.map Digest.sha256Text).Nodup) :
    DigestsApart texts := by
  intro first firstHashed second secondHashed same
  exact List.inj_on_of_nodup_map distinct (List.mem_dedup.mpr firstHashed)
    (List.mem_dedup.mpr secondHashed) same

end TypeCatalog
