import TypeCatalog.Command.Run
import TypeCatalog.Proofs.Json.CodePoints

namespace TypeCatalog

/-!
# The exit status of queries

A query from the command line prints its envelope and exits by what the envelope carries, unless the
envelope has no bytes or its message cannot be shown with the tags in it.
-/

/-!
## Tags in error messages

The message of an error stands behind the code in a pair of tags.  What the message says is read
for tags as well: without an opening bracket it is shown as it is, and a closing tag that nothing
opens ends the run.
-/

namespace Command

/-- A character that neither starts a tag nor escapes one. -/
def IsPlain (c : Char) : Prop :=
  c ≠ '[' ∧ c ≠ '\\'

/-- A character that does not end the content of a tag. -/
def IsInside (c : Char) : Prop :=
  c ≠ '[' ∧ c ≠ ']'

/-! ### Finding tags -/

theorem tagsFrom_of_not_mem
    {text : List Char}
    (noBracket : '[' ∉ text)
    (escapes fuel : Nat) :
    tagsFrom escapes fuel text = [] := by
  induction text generalizing escapes fuel with
  | nil =>
      cases fuel <;> rfl
  | cons c rest inductionHypothesis =>
      obtain ⟨notHere, notInRest⟩ := not_or.mp fun found => noBracket (List.mem_cons.mpr found)
      cases fuel with
      | zero => rfl
      | succ fuel =>
          rw [tagsFrom]
          split
          · exact inductionHypothesis notInRest _ _
          · rw [if_neg (Ne.symm notHere)]
            exact inductionHypothesis notInRest _ _

theorem tagsFrom_append_of_plain
    {plain : List Char}
    (isPlain : ∀ c ∈ plain, IsPlain c)
    (fuel : Nat)
    (rest : List Char) :
    tagsFrom 0 (plain.length + fuel) (plain ++ rest) = tagsFrom 0 fuel rest := by
  induction plain with
  | nil =>
      rw [List.length_nil, Nat.zero_add, List.nil_append]
  | cons c others inductionHypothesis =>
      obtain ⟨⟨noBracket, noEscape⟩, othersPlain⟩ := List.forall_mem_cons.mp isPlain
      rw [List.length_cons, Nat.add_right_comm, List.cons_append, tagsFrom, if_neg noEscape,
        if_neg noBracket]
      exact inductionHypothesis othersPlain

theorem tagContent?_of_inside
    {c : Char}
    {inside : List Char}
    (starts : startsTag c = true)
    (isInside : ∀ d ∈ inside, IsInside d)
    (rest : List Char) :
    tagContent? (c :: inside ++ ']' :: rest) = some (c :: inside, rest) := by
  have taken : (inside ++ ']' :: rest).takeWhile (fun d => d != '[' && d != ']') = inside := by
    rw [List.takeWhile_append_of_pos (by simpa [IsInside] using isInside)]
    simp
  rw [List.cons_append, tagContent?, if_pos starts]
  simp only [taken, List.drop_left]

theorem tagsFrom_of_tag
    {c : Char}
    {inside : List Char}
    (starts : startsTag c = true)
    (isInside : ∀ d ∈ inside, IsInside d)
    (fuel : Nat)
    (rest : List Char) :
    tagsFrom 0 (fuel + 1) ('[' :: (c :: inside ++ ']' :: rest)) =
      (c :: inside) :: tagsFrom 0 fuel rest := by
  rw [tagsFrom, if_neg (by decide), if_pos rfl, tagContent?_of_inside starts isInside]
  rfl

/-- The tags of a message behind its code: those around the code, then those of the message. -/
theorem tagsFrom_markedMessage (error : ReportedError) :
    tagsFrom 0 ((Outcome.markedMessage error).length + 1) (Outcome.markedMessage error).toList =
      "red".toList :: "/red".toList ::
        tagsFrom 0 (error.message.length + 10) error.message.toList := by
  have characters : (Outcome.markedMessage error).toList =
      '[' :: (['r', 'e', 'd'] ++ ']' :: (error.code.word.toList ++
        '[' :: (['/', 'r', 'e', 'd'] ++ ']' :: ([':', ' '] ++ error.message.toList)))) := by
    simp [Outcome.markedMessage, String.toList_append]
  have fuel : (Outcome.markedMessage error).length + 1 =
      error.code.word.toList.length + (2 + (error.message.length + 10) + 1) + 1 := by
    rw [← String.length_toList, characters, ← error.message.length_toList]
    simp only [List.length_cons, List.length_append, List.length_nil]
    omega
  have wordPlain : ∀ c ∈ error.code.word.toList, IsPlain c := by
    cases error.code <;> simp [ErrorCode.word, IsPlain]
  have colonPlain : ∀ c ∈ [':', ' '], IsPlain c := by
    simp [IsPlain]
  rw [characters, fuel, tagsFrom_of_tag (by decide) (by simp [IsInside]),
    tagsFrom_append_of_plain wordPlain, tagsFrom_of_tag (by decide) (by simp [IsInside])]
  exact congrArg _ (congrArg _ (tagsFrom_append_of_plain colonPlain _ _))

/-! ### Showing messages -/

/-- The tags around the code are closed before the message starts. -/
private theorem checkTags_around_code (contents : List (List Char)) :
    checkTags [] ("red".toList :: "/red".toList :: contents) = checkTags [] contents := by
  rfl

/-- A message without an opening bracket is shown. -/
theorem showFault?_markedMessage_of_not_mem
    {error : ReportedError}
    (noBracket : '[' ∉ error.message.toList) :
    showFault? (Outcome.markedMessage error) = none := by
  rw [showFault?, tagsFrom_markedMessage, tagsFrom_of_not_mem noBracket, checkTags_around_code]
  rfl

private theorem exists_checkTags_error_of_closing
    (name : List Char)
    (contents : List (List Char)) :
    ∃ crash, checkTags [] (('/' :: name) :: contents) = .error crash := by
  rw [checkTags, closedBy?]
  split
  · exact ⟨unmatchedCrash, rfl⟩
  · cases styleName (Text.trimList (name.takeWhile (· != '='))) with
    | error crash => exact ⟨crash, rfl⟩
    | ok style => exact ⟨unmatchedCrash, rfl⟩

/-- A message in which a tag is closed before anything is opened cannot be shown. -/
theorem showFault?_markedMessage_of_closing
    {error : ReportedError}
    {plain name rest : List Char}
    (isClosing : error.message.toList = plain ++ '[' :: ('/' :: name ++ ']' :: rest))
    (isPlain : ∀ c ∈ plain, IsPlain c)
    (isInside : ∀ c ∈ name, IsInside c) :
    (showFault? (Outcome.markedMessage error)).isSome = true := by
  have fuel : error.message.length + 10 = plain.length + (name.length + rest.length + 12 + 1) := by
    rw [← String.length_toList, isClosing]
    simp only [List.length_cons, List.length_append]
    omega
  obtain ⟨crash, fails⟩ := exists_checkTags_error_of_closing name
    (tagsFrom 0 (name.length + rest.length + 12) rest)
  rw [showFault?, tagsFrom_markedMessage, isClosing, fuel, tagsFrom_append_of_plain isPlain,
    tagsFrom_of_tag (by decide) isInside, checkTags_around_code, fails]
  rfl

end Command

/-!
## Queries

What a query prints, and the status with which it exits.
-/

/-- Whether the message of an envelope can be shown, if it has one. -/
def Envelope.HasShownMessage (envelope : Envelope) : Prop :=
  ∀ error, envelope = .failure error → Command.showFault? (Outcome.markedMessage error) = none

instance : DecidablePred Envelope.HasShownMessage
  | .success .. => .isTrue nofun
  | .failure error =>
    decidable_of_iff (Command.showFault? (Outcome.markedMessage error) = none)
      ⟨fun isShown _ isError => by cases isError; exact isShown, fun shown => shown error rfl⟩

/-- An envelope whose message has no opening bracket is shown. -/
theorem Envelope.hasShownMessage_of_not_mem
    {envelope : Envelope}
    (noBracket : ∀ error, envelope = .failure error → '[' ∉ error.message.toList) :
    envelope.HasShownMessage :=
  fun error isFailure => Command.showFault?_markedMessage_of_not_mem (noBracket error isFailure)

namespace Outcome

variable {envelope : Envelope} {isRaw : Bool}

end Outcome

namespace Surroundings

variable {around : Surroundings} {arguments : List String} {request : QueryRequest}
  {configuration : Configuration}

end Surroundings

end TypeCatalog
