import TypeCatalog.Proofs.Cache.Entries
import TypeCatalog.Proofs.Json.Length
import TypeCatalog.Proofs.Session.Steps
import TypeCatalog.Proofs.Session.Subject
import TypeCatalog.Proofs.Text.Words
import TypeCatalog.Session.Basic

namespace TypeCatalog

/-!
# Data under the ceiling

Data become an answer only if they can be written and their text is not above the ceiling.  Such an
answer fits, and what is refused is refused for one of these two reasons.
-/

/-- An answer without an error that is not above the ceiling. -/
structure Envelope.Fits (envelope : Envelope) : Prop where
  noError : envelope.isError = false
  size_le : envelope.size ≤ Limits.maximumResponse

/-- The size of an answer with settled data is at most its size with the data themselves. -/
theorem Envelope.size_success_settled_le
    (kind : String)
    (data : Value) :
    (success kind (Json.settled data)).size ≤ (success kind data).size := by
  have dataBound := Json.length_settled_le 1 data
  simp only [size, toValue, successFields, Value.record, Json.measure,
    Json.length_map (List.cons_ne_nil _ _), Json.entriesLength, Json.entryLength, List.map_cons,
    List.map_nil, List.sum_cons, List.sum_nil, Nat.zero_add]
  omega

/-- The size of an answer is the length of its text. -/
theorem Envelope.length_render (envelope : Envelope) : envelope.render.length = envelope.size :=
  String.length_ofList

/-- A failure to write an answer, and not to find it. -/
def Failure.OfWriting : Failure → Prop
  | .reported error => error.code = .responseTooLarge
  | .invalid _ => False
  | .crashed _ => True

/-- A failure to write an answer is reported as one of two errors. -/
theorem Failure.OfWriting.code_toError
    {failure : Failure}
    (ofWriting : failure.OfWriting)
    (requestId : String) :
    (failure.toError requestId).code = .responseTooLarge ∨
      (failure.toError requestId).code = .internalError := by
  cases failure with
  | reported error =>
      exact .inl ofWriting
  | invalid issues =>
      exact ofWriting.elim
  | crashed crash =>
      exact .inr rfl

namespace Session

/-- What is made of data carries them as they are read back. -/
theorem eq_success_of_envelopeOf
    {kind : String}
    {data : Value}
    {envelope : Envelope}
    (made : envelopeOf kind data = .ok envelope) :
    envelope = .success kind (Json.settled data) := by
  unfold envelopeOf at made
  split at made
  · cases made
  · split at made <;> cases made
    rfl

/-- What is made of data fits. -/
theorem fits_of_envelopeOf
    {kind : String}
    {data : Value}
    {envelope : Envelope}
    (made : envelopeOf kind data = .ok envelope) :
    envelope.Fits := by
  unfold envelopeOf enforceCeiling at made
  split at made
  · cases made
  · split at made
    · cases made
    · next allowed =>
        cases made
        split at allowed
        · cases allowed
        · next notAbove =>
            have settledBound := Envelope.size_success_settled_le kind data
            exact ⟨rfl, by omega⟩

theorem ofWriting_of_envelopeOf
    {kind : String}
    {data : Value}
    {failure : Failure}
    (failed : envelopeOf kind data = .error failure) :
    failure.OfWriting := by
  unfold envelopeOf at failed
  split at failed
  · cases failed
    trivial
  · unfold enforceCeiling at failed
    split at failed
    · next tooLarge =>
        split at tooLarge
        · cases tooLarge
          cases failed
          exact (rfl : ErrorCode.responseTooLarge = .responseTooLarge)
        · cases tooLarge
    · cases failed

theorem exists_failure_of_large
    {kind : String}
    {data : Value}
    (large : Limits.maximumResponse < (Json.characters .compact 1 data).length) :
    ∃ failure, envelopeOf kind data = .error failure := by
  cases outcome : envelopeOf kind data with
  | error failure =>
      exact ⟨failure, rfl⟩
  | ok envelope =>
      exfalso
      have dataWritten :
          (Json.characters .compact 1 data).length ≤ (Envelope.success kind data).size :=
        Json.length_le_of_mem_record
          (show ("data", data) ∈ Envelope.successFields (.text kind) data by
            simp [Envelope.successFields])
      have aboveCeiling :
          ((Envelope.success kind data).size : Int) > (Limits.maximumResponse : Int) := by
        omega
      unfold envelopeOf at outcome
      rw [enforceCeiling, if_pos aboveCeiling] at outcome
      split at outcome <;> cases outcome

end Session

/-!
## The size of answers

Data are measured before they become an answer, and only such answers are kept, so no answer with
data is above the ceiling, be it made anew or taken from the cache.  Errors are not measured: an
error repeats texts of the call, however long they are.
-/

/-- What is computed from an open module is computed from some open module. -/
theorem ModuleSource.exists_opened_of_withModule
    {α : Type}
    {source : ModuleSource}
    {files : FileTree}
    {stamp : ModuleStamp}
    {compute : OpenModule → Except Failure α}
    {result : α}
    (computed : (source.withModule files stamp compute).1 = .ok result) :
    ∃ opened, compute opened = .ok result := by
  rw [withModule_fst] at computed
  rcases opening : (source.openModule files stamp.path).1 with _ | _ | opened <;>
    rw [opening] at computed
  · cases computed
  · cases computed
  · exact ⟨opened, computed⟩

namespace Session

/-- What a query is answered with anew fits. -/
theorem fits_of_produce
    {session : Session}
    {plan : Plan}
    {envelope : Envelope}
    (produced : (session.produce plan).1 = .ok envelope) :
    envelope.Fits := by
  obtain ⟨opened, computed⟩ := ModuleSource.exists_opened_of_withModule produced
  obtain ⟨data, _, made⟩ := Failure.exists_of_bind_eq_ok computed
  exact fits_of_envelopeOf made

/-- Every kept answer fits. -/
def KeepsFitting (session : Session) : Prop :=
  ∀ entry ∈ session.cache.entries, entry.payload.Fits

/-- Answering a call keeps every kept answer fitting. -/
theorem KeepsFitting.answer
    {session : Session}
    (keepsFitting : session.KeepsFitting)
    (requestId : String)
    (call : Call) :
    (session.answer requestId call).2.KeepsFitting := by
  cases call with
  | query call =>
      change (session.answerQuery requestId call).2.KeepsFitting
      unfold answerQuery
      split
      · exact keepsFitting
      · intro entry member
        rcases ResponseCache.mem_of_mem_execute member with earlier | ⟨_, produced⟩
        · exact keepsFitting entry earlier
        · exact fits_of_produce produced
  | updateOptions changes =>
      change (session.updateOptions requestId changes).2.KeepsFitting
      unfold updateOptions
      split <;> exact keepsFitting
  | showOptions | describeErrors =>
      exact keepsFitting

theorem Reachable.keepsFitting
    {session : Session}
    (reachable : session.Reachable) :
    session.KeepsFitting := by
  induction reachable with
  | start =>
      exact fun _ member => absurd member List.not_mem_nil
  | answer requestId call _ inductionHypothesis =>
      exact inductionHypothesis.answer requestId call
  | amid _ _ _ _ inductionHypothesis =>
      exact inductionHypothesis

/-- A call whose data fit is answered with what fits, unless it is answered with an error. -/
theorem fits_of_conclude
    {requestId : String}
    {outcome : Except Failure Envelope}
    (outcomeFits : ∀ envelope, outcome = .ok envelope → envelope.Fits)
    (noError : (conclude requestId outcome).isError = false) :
    (conclude requestId outcome).Fits := by
  cases outcome with
  | error failure =>
      cases noError
  | ok envelope =>
      exact outcomeFits envelope rfl

/-- Where every kept answer fits, every answer without an error does. -/
theorem KeepsFitting.fits_answer
    {session : Session}
    {requestId : String}
    {call : Call}
    (keepsFitting : session.KeepsFitting)
    (noError : (session.answer requestId call).1.isError = false) :
    (session.answer requestId call).1.Fits := by
  cases call with
  | query call =>
      change (session.answerQuery requestId call).1.isError = false at noError
      change (session.answerQuery requestId call).1.Fits
      unfold answerQuery at noError ⊢
      split at noError
      · cases noError
      · -- A kept answer was measured when it was made, and a new one is measured here.
        refine fits_of_conclude (fun envelope answered => ?_) noError
        rcases ResponseCache.exists_entry_or_produced_of_execute answered with
          ⟨entry, member, rfl⟩ | produced
        · exact keepsFitting entry member
        · exact fits_of_produce produced
  | showOptions =>
      exact fits_of_conclude (fun _ => fits_of_envelopeOf) noError
  | updateOptions changes =>
      change (session.updateOptions requestId changes).1.isError = false at noError
      change (session.updateOptions requestId changes).1.Fits
      unfold updateOptions at noError ⊢
      split at noError
      · cases noError
      · exact fits_of_conclude (fun _ => fits_of_envelopeOf) noError
  | describeErrors code =>
      refine fits_of_conclude (fun envelope answered => ?_) noError
      obtain ⟨data, _, made⟩ := Failure.exists_of_bind_eq_ok answered
      exact fits_of_envelopeOf made

/-- In every session that can be reached, the text of every answer without an error has at most as
many characters as the ceiling says, be the answer made anew or kept. -/
theorem length_render_le_of_reachable
    {session : Session}
    {requestId : String}
    {call : Call}
    (reachable : session.Reachable)
    (noError : (session.answer requestId call).1.isError = false) :
    (session.answer requestId call).1.render.length ≤ Limits.maximumResponse := by
  rw [Envelope.length_render]
  exact (reachable.keepsFitting.fits_answer noError).size_le

/-- An answer that is taken from the cache fits. -/
theorem length_render_le_of_kept_answer :
    let call : Call :=
      .query ⟨.text "lib", .type .documentation (.text "A") (.bool true), false⟩
    let session := ((overModule "lib" ⟨"Lib", "", [.bare "A"]⟩).answer "1" call).2
    session.cache.size = 1 ∧
      (session.answer "2" call).1.render.length ≤ Limits.maximumResponse := by
  intro call session
  have keptOne : session.cache.size = 1 := by
    decide +kernel
  have noError : (session.answer "2" call).1.isError = false := by
    decide +kernel
  have reachable : session.Reachable :=
    .answer "1" call (.start _ _ _ RuntimeOptions.oneSizeEach_standard)
  exact ⟨keptOne, length_render_le_of_reachable reachable noError⟩

/-! ### Errors repeat the call -/

/-- A session without modules. -/
def overNoModules : Session :=
  start (.ofStore (.registry .empty)) (.empty (.ofText "/work") (.ofText "/home")) .standard
    (.zero false)

theorem reachable_overNoModules : overNoModules.Reachable :=
  .start _ _ _ RuntimeOptions.oneSizeEach_standard

private theorem firstStamp?_of_no_modules
    {source : ModuleSource}
    (files : FileTree)
    (noModules : source.store = .registry .empty)
    (paths : List String) :
    source.firstStamp? files paths = .ok none := by
  induction paths with
  | nil =>
      rfl
  | cons path rest inductionHypothesis =>
      simp only [ModuleSource.firstStamp?, ModuleSource.stamp?, noModules]
      exact inductionHypothesis

/-- A text without blanks around it is taken as it is. -/
theorem requireText_of_trimmed
    {content : String}
    (argument : String)
    (trimmed : Text.Trimmed content.toList) :
    requireText argument (.text content) = .ok content := by
  simp only [requireText, trimmed.isBlankText_eq_false, trimmed.trim_eq]
  rfl

/-- Where there are no modules, every path is repeated in the error. -/
theorem answer_of_no_modules
    {session : Session}
    {path : String}
    (noModules : session.source.store = .registry .empty)
    (trimmed : Text.Trimmed path.toList)
    (requestId : String)
    (noCache : Bool) :
    (session.answer requestId (.query ⟨.text path, .types .null, noCache⟩)).1 =
      .failure (.moduleNotFound path) := by
  have refused :
      session.plan (.text path) (.types .null) = .error (.reported (.moduleNotFound path)) := by
    change session.resolveModule (.text path) >>= _ = _
    simp only [resolveModule, requireText_of_trimmed _ trimmed, bind, Except.bind,
      firstStamp?_of_no_modules _ noModules]
    rfl
  simp only [answer, answerQuery, refused]
  rfl

/-- An error about a path is longer than the path. -/
theorem length_le_size_moduleNotFound (path : String) :
    path.toList.length ≤ (Envelope.failure (.moduleNotFound path)).size := by
  have inDetails :
      (Json.characters .compact 2 (.text path)).length ≤
        (Json.characters .compact 1 (.record [("module_path", .text path)])).length :=
    Json.length_le_of_mem_record
      (show ("module_path", Value.text path) ∈ [("module_path", Value.text path)] from
        List.mem_singleton.mpr rfl)
  have inEnvelope :
      (Json.characters .compact 1 (.record [("module_path", .text path)])).length ≤
        (Envelope.failure (.moduleNotFound path)).size :=
    Json.length_le_of_mem_record
      (show ("details", .record [("module_path", .text path)]) ∈
          Envelope.failureFields (ReportedError.moduleNotFound path).toFields by
        simp [Envelope.failureFields, ReportedError.toFields, ReportedError.moduleNotFound])
  exact Nat.le_trans (Json.length_le_length_stringCharacters path)
    (Nat.le_trans inDetails inEnvelope)

/-- A path above the ceiling that no module has is answered with an error above the ceiling. -/
theorem maximumResponse_lt_length_render_of_long_path :
    let path := String.ofList (List.replicate (Limits.maximumResponse + 1) 'm')
    overNoModules.Reachable ∧
      Limits.maximumResponse <
        (overNoModules.answer "1" (.query ⟨.text path, .types .null, false⟩)).1.render.length := by
  intro path
  have written : path.toList = List.replicate (Limits.maximumResponse + 1) 'm' :=
    String.toList_ofList
  have noBlank : Text.isBlank 'm' = false := by
    decide
  have trimmed : Text.Trimmed path.toList := by
    rw [written]
    exact ⟨⟨'m', _, List.replicate_succ, noBlank⟩, ⟨_, 'm', List.replicate_succ', noBlank⟩⟩
  refine ⟨reachable_overNoModules, ?_⟩
  rw [answer_of_no_modules rfl trimmed, Envelope.length_render]
  have longer := length_le_size_moduleNotFound path
  rw [written, List.length_replicate] at longer
  exact longer

end Session

end TypeCatalog
