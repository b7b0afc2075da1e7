import TypeCatalog.Proofs.Session.KeyExactness
import TypeCatalog.Proofs.Session.Preparation
import TypeCatalog.Proofs.Session.SizeCeiling

namespace TypeCatalog

/-!
# What kept answers are

The cache keeps an answer under the key of the query that it was made for.  The key starts with the
word for the kind of the query, so whatever is found under the key of a query was made for a query
of the same kind, even if the digests of two different queries should be the same.
-/

namespace CacheKey

private theorem length_word_lt (kind : OperationKind) :
    kind.word.toList.length < Limits.readableKeyLength :=
  (by decide :
    ∀ kind ∈ OperationKind.all, kind.word.toList.length < Limits.readableKeyLength) kind
      (List.mem_of_find?_eq_some kind.ofWord?_word)

/-- Up to its first bar a key is the word for the kind. -/
theorem beforeFirst_build
    (kind : OperationKind)
    (parts : List Value) :
    Text.beforeFirst '|' (build kind.word Limits.contractVersion parts) = kind.word := by
  obtain ⟨rest, wholeIs⟩ :
      ∃ rest,
        (fullText kind.word Limits.contractVersion parts).toList =
          kind.word.toList ++ '|' :: rest := by
    refine ⟨("|".intercalate (Limits.contractVersion :: partTexts parts)).toList, ?_⟩
    simp [fullText, String.intercalate_cons_cons]
  obtain ⟨more, enough⟩ := Nat.exists_eq_add_of_lt (length_word_lt kind)
  have noBar : ∀ c ∈ kind.word.toList, (c != '|') = true := by
    intro c member
    rw [bne_iff_ne]
    intro isBar
    exact kind.bar_not_mem_word (isBar ▸ member)
  have keyIs :
      (build kind.word Limits.contractVersion parts).toList =
        kind.word.toList ++ ('|' :: rest.take more ++
          (":" ++ Digest.sha256Text
            (fullText kind.word Limits.contractVersion parts)).toList) := by
    simp only [build, Text.take, String.toList_append, String.toList_ofList, wholeIs, enough,
      List.append_assoc]
    rw [Nat.add_assoc, List.take_length_add_append]
    simp
  rw [Text.beforeFirst, keyIs, List.takeWhile_append_of_pos noBar]
  simp

/-- Equal keys are keys of queries of the same kind. -/
theorem kind_eq_of_build_eq
    {firstKind secondKind : OperationKind}
    {firstParts secondParts : List Value}
    (same :
      build firstKind.word Limits.contractVersion firstParts =
        build secondKind.word Limits.contractVersion secondParts) :
    firstKind = secondKind := by
  apply OperationKind.word_injective
  rw [← beforeFirst_build firstKind firstParts, same, beforeFirst_build]

end CacheKey

namespace Session

/-- What a prepared query is: a query of its kind, under a key that starts with the kind. -/
structure PreparedAs
    (plan : Plan)
    (kind : OperationKind) : Prop where
  kind_eq : plan.kind = kind
  key_built : ∃ parts, plan.cacheKey = CacheKey.build kind.word Limits.contractVersion parts

private theorem exists_parts_of_make
    {kind : OperationKind}
    {stamp : ModuleStamp}
    {parts : List Value}
    {skip? : Option Nat}
    {token? : Option String}
    {keys : QueryKeys}
    (made : QueryKeys.make kind stamp parts skip? token? = .ok keys) :
    ∃ parts, keys.cacheKey = CacheKey.build kind.word Limits.contractVersion parts := by
  obtain ⟨offset, _, made⟩ := Failure.exists_of_bind_eq_ok made
  exact ⟨_, congrArg QueryKeys.cacheKey (Except.ok.inj made).symm⟩

/-- A query is prepared as a query of its kind. -/
theorem preparedAs_of_plan
    {session : Session}
    {modulePath : Value}
    {query : Query}
    {plan : Plan}
    (planned : session.plan modulePath query = .ok plan) :
    PreparedAs plan query.kind := by
  cases prepares_of_plan planned with
  | types _ _ keyed | members _ _ _ keyed | named _ _ _ _ keyed =>
      exact ⟨rfl, exists_parts_of_make keyed⟩
  | type =>
      exact ⟨rfl, _, rfl⟩

/-- An answer that is made anew carries the data that are computed from an open module. -/
theorem exists_data_of_produce
    {session : Session}
    {plan : Plan}
    {answer : Envelope}
    (produced : (session.produce plan).1 = .ok answer) :
    ∃ opened data,
      plan.compute opened = .ok data ∧ answer = .success plan.kind.word (Json.settled data) := by
  obtain ⟨opened, computed⟩ := ModuleSource.exists_opened_of_withModule produced
  obtain ⟨data, dataComputed, enveloped⟩ := Failure.exists_of_bind_eq_ok computed
  exact ⟨opened, data, dataComputed, eq_success_of_envelopeOf enveloped⟩

/-! ## What holds of kept answers -/

section Holding

variable {holds : OperationKind → Envelope → Prop} {session : Session}

/-- Whether something holds of every kept answer and the kind of every query under whose key it is
kept. -/
def KeepsHolding
    (holds : OperationKind → Envelope → Prop)
    (session : Session) : Prop :=
  ∀ entry ∈ session.cache.entries, ∀ kind parts,
    entry.key = CacheKey.build (OperationKind.word kind) Limits.contractVersion parts →
      holds kind entry.payload

/-- Whether something holds of every answer that a session makes anew and the kind of its query. -/
def MakesHolding
    (holds : OperationKind → Envelope → Prop)
    (session : Session) : Prop :=
  ∀ modulePath query plan answer,
    session.plan modulePath query = .ok plan →
      (session.produce plan).1 = .ok answer → holds query.kind answer

/-- Answering a call keeps every kept answer under the key of a query that it holds for. -/
theorem KeepsHolding.answer
    (keeps : session.KeepsHolding holds)
    (makes : session.MakesHolding holds)
    (requestId : String)
    (call : Call) :
    (session.answer requestId call).2.KeepsHolding holds := by
  cases call with
  | query call =>
      change (session.answerQuery requestId call).2.KeepsHolding holds
      unfold answerQuery
      split
      · exact keeps
      · next plan planned =>
          intro entry member kind parts keyIs
          rcases ResponseCache.mem_of_mem_execute member with earlier | ⟨keySame, produced⟩
          · exact keeps entry earlier kind parts keyIs
          · -- The new entry may be found under the key of another query, but only of the same kind.
            obtain ⟨ownParts, ownKey⟩ := (preparedAs_of_plan planned).key_built
            have kindSame :=
              CacheKey.kind_eq_of_build_eq (ownKey.symm.trans (keySame.symm.trans keyIs))
            rw [← kindSame]
            exact makes _ _ plan _ planned produced
  | updateOptions changes =>
      change (session.updateOptions requestId changes).2.KeepsHolding holds
      unfold updateOptions
      split <;> exact keeps
  | showOptions | describeErrors =>
      exact keeps

/-- What holds of kept and of new answers holds of every answer without an error. -/
theorem KeepsHolding.holds_answerQuery
    {requestId : String}
    {call : QueryCall}
    (keeps : session.KeepsHolding holds)
    (makes : session.MakesHolding holds)
    (noError : (session.answerQuery requestId call).1.isError = false) :
    holds call.query.kind (session.answerQuery requestId call).1 := by
  unfold answerQuery at noError ⊢
  split at noError
  · cases noError
  · next plan planned =>
      dsimp only at noError ⊢
      cases answered :
          (session.cache.execute plan.cacheKey session.lifetime call.noCache
            (fun _ => session.produce plan) session.source).1 with
      | error failure =>
          rw [answered] at noError
          cases noError
      | ok envelope =>
          obtain ⟨parts, keyIs⟩ := (preparedAs_of_plan planned).key_built
          rcases ResponseCache.exists_entry_under_key_of_execute answered with
            ⟨entry, member, keySame, rfl⟩ | produced
          · exact keeps entry member _ parts (keySame.trans keyIs)
          · exact makes _ _ plan envelope planned produced

end Holding

/-! ## What kept answers were made for -/

/-- An answer that some session made anew for a query of a kind. -/
def MadeFor
    (kind : OperationKind)
    (answer : Envelope) : Prop :=
  ∃ (session : Session) (modulePath : Value) (query : Query) (plan : Plan),
    session.plan modulePath query = .ok plan ∧
      query.kind = kind ∧
      (session.produce plan).1 = .ok answer

theorem makesHolding_madeFor (session : Session) : session.MakesHolding MadeFor :=
  fun modulePath query plan _ planned produced =>
    ⟨session, modulePath, query, plan, planned, rfl, produced⟩

/-- Every kept answer was made for a query under whose key it is kept. -/
def KeepsMade (session : Session) : Prop :=
  ∀ entry ∈ session.cache.entries, ∀ kind parts,
    entry.key = CacheKey.build (OperationKind.word kind) Limits.contractVersion parts →
      MadeFor kind entry.payload

/-- Answering a call keeps every kept answer under the key of a query that it was made for. -/
theorem KeepsMade.answer
    {session : Session}
    (keepsMade : session.KeepsMade)
    (requestId : String)
    (call : Call) :
    (session.answer requestId call).2.KeepsMade :=
  KeepsHolding.answer (keepsMade : session.KeepsHolding MadeFor)
    session.makesHolding_madeFor requestId call

theorem Reachable.keepsMade
    {session : Session}
    (reachable : session.Reachable) :
    session.KeepsMade := by
  induction reachable with
  | start =>
      exact fun _ member => absurd member List.not_mem_nil
  | answer requestId call _ inductionHypothesis =>
      exact inductionHypothesis.answer requestId call
  | amid _ _ _ _ inductionHypothesis =>
      exact inductionHypothesis

/-- Where kept answers were made for queries under their keys, every answer without an error was
made for a query of the kind that is asked, now or earlier. -/
theorem KeepsMade.madeFor_answerQuery
    {session : Session}
    {requestId : String}
    {call : QueryCall}
    (keepsMade : session.KeepsMade)
    (noError : (session.answerQuery requestId call).1.isError = false) :
    MadeFor call.query.kind (session.answerQuery requestId call).1 :=
  KeepsHolding.holds_answerQuery (keepsMade : session.KeepsHolding MadeFor)
    session.makesHolding_madeFor noError

/-- An answer that was made for a query carries data under the word for its kind. -/
theorem MadeFor.exists_data
    {kind : OperationKind}
    {answer : Envelope}
    (made : MadeFor kind answer) :
    ∃ data, answer = .success kind.word data := by
  obtain ⟨session, modulePath, query, plan, planned, rfl, produced⟩ := made
  obtain ⟨_, data, _, isSuccess⟩ := exists_data_of_produce produced
  rw [← (preparedAs_of_plan planned).kind_eq]
  exact ⟨Json.settled data, isSuccess⟩

end Session

end TypeCatalog
