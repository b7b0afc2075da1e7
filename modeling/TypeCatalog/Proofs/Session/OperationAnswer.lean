import TypeCatalog.Proofs.Session.KeptAnswers
import TypeCatalog.Session.Operation

namespace TypeCatalog

/-!
# Every operation answers once

Whatever the values of its arguments are, an operation makes a call, and the call is answered with
data under the word for the kind of the operation or with an error that has one of the codes.  The
one exception is the kind of the members to list: it is looked at before there is a call, so a word
for no kind has no answer at all.
-/

/-- What a caller sees of an answer: the word for a kind, or the mark of an error and a code. -/
def Envelope.Answers
    (answer : Envelope)
    (kind : OperationKind) : Prop :=
  (answer.isError = false ∧ answer.toValue.field? "kind" = some (.text kind.word)) ∨
    (answer.isError = true ∧
      answer.toValue.field? "kind" = some (.text Envelope.errorKind) ∧
        ∃ code ∈ ErrorCode.all, answer.toValue.field? "code" = some (.text code.word))

namespace Envelope

theorem answers_success
    (kind : OperationKind)
    (data : Value) :
    (success kind.word data).Answers kind := by
  refine .inl ⟨rfl, ?_⟩
  rw [toValue, Value.field?_record]
  rfl

theorem answers_failure
    (error : ReportedError)
    (kind : OperationKind) :
    (failure error).Answers kind := by
  have isCode : error.code ∈ ErrorCode.all := by
    cases error.code <;> decide
  refine .inr ⟨rfl, ?_, error.code, isCode, ?_⟩
  · rw [toValue, Value.field?_record]
    rfl
  · rw [toValue, Value.field?_record]
    rfl

/-- An answer without an error answers as its data do, an error always. -/
theorem answers_of_exists_data
    {answer : Envelope}
    {kind : OperationKind}
    (carriesKind : answer.isError = false → ∃ data, answer = .success kind.word data) :
    answer.Answers kind := by
  cases answer with
  | failure error =>
      exact answers_failure error kind
  | success word data =>
      obtain ⟨_, isData⟩ := carriesKind rfl
      rw [isData]
      exact answers_success kind _

end Envelope

namespace Call

/-- The kind of a call. -/
def kind : Call → OperationKind
  | .query call => call.query.kind
  | .showOptions | .updateOptions _ => .runtimeOptions
  | .describeErrors _ => .errorCatalog

end Call

namespace Session

private theorem exists_data_of_conclude
    {requestId word : String}
    {outcome : Except Failure Envelope}
    (carries : ∀ answer, outcome = .ok answer → ∃ data, answer = .success word data)
    (noError : (conclude requestId outcome).isError = false) :
    ∃ data, conclude requestId outcome = .success word data := by
  cases outcome with
  | error failure =>
      cases noError
  | ok answer =>
      exact carries answer rfl

/-- In every session that can be reached, a call is answered with its kind or with an error. -/
theorem Reachable.answers
    {session : Session}
    (reachable : session.Reachable)
    (requestId : String)
    (call : Call) :
    (session.answer requestId call).1.Answers call.kind := by
  apply Envelope.answers_of_exists_data
  intro noError
  cases call with
  | query call =>
      exact (reachable.keepsMade.madeFor_answerQuery noError).exists_data
  | showOptions =>
      exact exists_data_of_conclude (fun _ made => ⟨_, eq_success_of_envelopeOf made⟩) noError
  | updateOptions changes =>
      change (session.updateOptions requestId changes).1.isError = false at noError
      change ∃ data, (session.updateOptions requestId changes).1 = _
      unfold updateOptions at noError ⊢
      split at noError
      · cases noError
      · exact exists_data_of_conclude (fun _ made => ⟨_, eq_success_of_envelopeOf made⟩) noError
  | describeErrors code =>
      refine exists_data_of_conclude (fun _ made => ?_) noError
      obtain ⟨data, _, made⟩ := Failure.exists_of_bind_eq_ok made
      exact ⟨_, eq_success_of_envelopeOf made⟩

end Session

/-- A value that is refused as a kind of members is the word for none. -/
theorem MemberKind.ne_word_of_ofValue_error
    {value : Value}
    {crash : Crash}
    (refused : ofValue value = .error crash)
    (kind : MemberKind) :
    value ≠ .text kind.word := by
  rintro rfl
  cases kind <;> cases refused

namespace Operation

/-- The kind of an operation.  Listing members of one kind has a kind for each kind of members. -/
def kind?
    (given : List (Key × Value)) : Operation → Option OperationKind
  | .listTypes => some .typeList
  | .listMembers =>
    (MemberKind.ofValue (argument given "member_kind")).toOption.map fun kind =>
      .members (.ofKind kind)
  | .listAllMembers => some (.members .all)
  | .findMember view => some (.named view)
  | .describeType view => some (.type view)
  | .showOptions | .updateOptions => some .runtimeOptions
  | .describeErrors => some .errorCatalog

theorem ofName?_name (operation : Operation) : ofName? operation.name = some operation := by
  cases operation with
  | findMember view | describeType view =>
      cases view <;> decide
  | listTypes | listMembers | listAllMembers | showOptions | updateOptions | describeErrors =>
      decide

theorem callOfName_name
    {operation : Operation}
    {given : List (Key × Value)}
    (accepted : operation.accepts given = true) :
    callOfName operation.name given = operation.callOf given := by
  simp only [callOfName, ofName?_name, accepted, if_true]

/-- An operation makes a call of its kind, unless the kind of the members to list is refused. -/
theorem exists_call_or_refused_kind
    (operation : Operation)
    (given : List (Key × Value)) :
    (∃ call, operation.callOf given = .ok call ∧ operation.kind? given = some call.kind) ∨
      (operation = .listMembers ∧
        ∃ crash,
          MemberKind.ofValue (argument given "member_kind") = .error crash ∧
            operation.callOf given = .error crash) := by
  cases operation with
  | listMembers =>
      cases read : MemberKind.ofValue (argument given "member_kind") with
      | error crash =>
          refine .inr ⟨rfl, crash, rfl, ?_⟩
          rw [callOf, read]
          rfl
      | ok kind =>
          simp only [callOf, kind?, read]
          exact .inl ⟨_, rfl, rfl⟩
  | listTypes | listAllMembers | findMember | describeType | showOptions | updateOptions
  | describeErrors =>
      exact .inl ⟨_, rfl, rfl⟩

end Operation

namespace Session

/-- In every session that can be reached, an operation with accepted arguments, whatever their
values, makes one call, which is answered with the kind of the operation or with an error; only
listing members of what is the word for no kind makes no call. -/
theorem operation_answers_or_refused_kind
    {session : Session}
    {operation : Operation}
    {given : List (Key × Value)}
    (reachable : session.Reachable)
    (accepted : operation.accepts given = true)
    (requestId : String) :
    (∃ call kind,
      Operation.callOfName operation.name given = .ok call ∧
        operation.kind? given = some kind ∧
          (session.answer requestId call).1.Answers kind) ∨
      (operation = .listMembers ∧
        (∀ kind : MemberKind, Operation.argument given "member_kind" ≠ .text kind.word) ∧
          ∃ crash, Operation.callOfName operation.name given = .error crash) := by
  rw [Operation.callOfName_name accepted]
  rcases operation.exists_call_or_refused_kind given with
    ⟨call, made, kindIs⟩ | ⟨isListing, crash, refused, noCall⟩
  · exact .inl ⟨call, call.kind, made, kindIs, reachable.answers requestId call⟩
  · exact .inr ⟨isListing, MemberKind.ne_word_of_ofValue_error refused, crash, noCall⟩

/-- The arguments to list members of the type `T` in the module at `m`. -/
def listingArguments (memberKind : String) : List (Key × Value) :=
  [(.text "member_kind", .text memberKind), (.text "module_path", .text "m"),
    (.text "type_name", .text "T")]

/-- Without modules, listing methods is answered. -/
theorem operation_answers_listing_of_methods :
    ∃ call,
      Operation.callOfName "list_members" (listingArguments "method") = .ok call ∧
        (overNoModules.answer "1" call).1.Answers (.members (.ofKind .method)) := by
  rcases @operation_answers_or_refused_kind overNoModules .listMembers (listingArguments "method")
      reachable_overNoModules (by decide) "1" with
    ⟨call, kind, made, kindIs, answers⟩ | ⟨_, noKind, _⟩
  · cases kindIs
    exact ⟨call, made, answers⟩
  · exact absurd rfl (noKind .method)

/-- A word for no kind of members makes no call, though the arguments are accepted. -/
theorem no_answer_to_unknown_member_kind :
    Operation.listMembers.accepts (listingArguments "bogus") = true ∧
      Operation.callOfName "list_members" (listingArguments "bogus") =
        .error ⟨.invalidValue, "'bogus' is not a valid MemberKind"⟩ := by
  constructor
  · decide
  · rfl

end Session

end TypeCatalog
