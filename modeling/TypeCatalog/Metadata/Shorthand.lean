import TypeCatalog.Crash
import TypeCatalog.Limits
import TypeCatalog.Text.CharacterClass

namespace TypeCatalog

/-!
# Shorthand for type references

A reference to a type can be written as a short text: a full name, with `[]`, `[,]`, `*` or `&`
behind it for arrays, pointers and references, with arguments in angle brackets for a constructed
generic type, and with `!` before it for a generic parameter.  Reading such a text gives a draft
that still has to be checked as a reference.
-/

/-- What a shorthand text says. -/
inductive Shorthand where
  | named (fullName : String)
  | constructed (fullName : String) (arguments : List Shorthand)
  | genericParameter (fullName : String)
  | array (element : Shorthand) (rank : Nat)
  | pointer (element : Shorthand)
  | byReference (element : Shorthand)
deriving Repr

/-- Why a text is no shorthand. -/
inductive ShorthandFault where
  | empty
  | malformedArray (text : String)
  | missingBracket
  | tooDeep
deriving Repr, DecidableEq

/-- The wording of a fault of the text itself. -/
def ShorthandFault.reason? : ShorthandFault → Option String
  | .empty => some "empty type reference"
  | .malformedArray text => some ("malformed array reference: " ++ text)
  | .missingBracket => some "substring not found"
  | .tooDeep => none

/-- A fault as a crash. -/
def ShorthandFault.crash (fault : ShorthandFault) : Crash :=
  match fault.reason? with
  | some reason => ⟨.invalidValue, reason⟩
  | none => .tooDeep " while calling a Python object"

namespace Shorthand

/-- Cuts at the commas outside all angle brackets.  The depth may become negative; a comma counts
only at depth zero. -/
def cutTopLevel
    (depth : Int)
    (piece : List Char) : List Char → List (List Char)
  | [] => [piece.reverse]
  | c :: rest =>
    if c = '<' then
      cutTopLevel (depth + 1) (c :: piece) rest
    else if c = '>' then
      cutTopLevel (depth - 1) (c :: piece) rest
    else if c = ',' && depth = 0 then
      piece.reverse :: cutTopLevel 0 [] rest
    else
      cutTopLevel depth (c :: piece) rest

/-- The pieces between top-level commas, trimmed, without the empty ones. -/
def splitTopLevel (characters : List Char) : List (List Char) :=
  ((cutTopLevel 0 [] characters).map Text.trimList).filter fun piece => !piece.isEmpty

theorem length_dropWhile_le
    (drops : Char → Bool)
    (characters : List Char) : (characters.dropWhile drops).length ≤ characters.length :=
  (List.dropWhile_suffix drops).length_le

theorem length_trimList_le (characters : List Char) :
    (Text.trimList characters).length ≤ characters.length := by
  unfold Text.trimList Text.trimBy
  rw [List.length_reverse]
  refine Nat.le_trans (length_dropWhile_le _ _) ?_
  rw [List.length_reverse]
  exact length_dropWhile_le _ _

theorem length_of_mem_cutTopLevel
    {depth : Int}
    {piece characters found : List Char}
    (member : found ∈ cutTopLevel depth piece characters) :
    found.length ≤ piece.length + characters.length := by
  induction characters generalizing depth piece with
  | nil =>
    simp only [cutTopLevel, List.mem_singleton] at member
    simp [member]
  | cons c rest inductionHypothesis =>
    simp only [cutTopLevel] at member
    split at member
    · have := inductionHypothesis member
      simp only [List.length_cons] at this ⊢
      omega
    · split at member
      · have := inductionHypothesis member
        simp only [List.length_cons] at this ⊢
        omega
      · split at member
        · rcases List.mem_cons.mp member with rfl | member
          · simp only [List.length_reverse, List.length_cons]
            omega
          · have := inductionHypothesis member
            simp only [List.length_nil, List.length_cons] at this ⊢
            omega
        · have := inductionHypothesis member
          simp only [List.length_cons] at this ⊢
          omega

theorem length_of_mem_splitTopLevel
    {characters found : List Char}
    (member : found ∈ splitTopLevel characters) :
    found.length ≤ characters.length := by
  obtain ⟨piece, pieceMember, rfl⟩ := List.mem_map.mp (List.mem_filter.mp member).1
  have bound := length_of_mem_cutTopLevel pieceMember
  have trimmed := length_trimList_le piece
  simp only [List.length_nil] at bound
  omega

/-- The inside of the last square brackets of a text that ends with `]`: the part before the last
`[` and the part between the brackets. -/
def lastBrackets (characters : List Char) : List Char × List Char :=
  let reversed := characters.dropLast.reverse
  let inside := reversed.takeWhile (· != '[')
  ((reversed.drop (inside.length + 1)).reverse, inside.reverse)

theorem length_lastBrackets_fst_lt
    {characters : List Char}
    (nonempty : characters ≠ []) :
    (lastBrackets characters).1.length < characters.length := by
  have positive := List.length_pos_iff.mpr nonempty
  simp only [lastBrackets, List.length_reverse, List.length_drop, List.length_dropLast]
  omega

/-- Reads a text as shorthand.  Each mark behind a text takes one call inside the one before it,
brackets take two. -/
def read
    (calls : Nat)
    (text : List Char) : Except ShorthandFault Shorthand :=
  let trimmed := Text.trimList text
  if calls = 0 then
    .error .tooDeep
  else if nonempty : trimmed = [] then
    .error .empty
  else
    have positive : 0 < (Text.trimList text).length := List.length_pos_iff.mpr nonempty
    have bound := length_trimList_le text
    if trimmed.getLast? = some '&' then
      (read (calls - 1) trimmed.dropLast).map .byReference
    else if trimmed.getLast? = some '*' then
      (read (calls - 1) trimmed.dropLast).map .pointer
    else if trimmed.getLast? = some ']' then
      let brackets := lastBrackets trimmed
      if brackets.1.isEmpty || brackets.2.any (· != ',') then
        .error (.malformedArray (String.ofList trimmed))
      else
        (read (calls - 1) (lastBrackets trimmed).1).map fun element =>
          .array element (brackets.2.length + 1)
    else if trimmed.head? = some '!' then
      .ok (.genericParameter (String.ofList trimmed.tail))
    else if trimmed.getLast? = some '>' then
      if trimmed.contains '<' then
        let name := Text.trimList (trimmed.takeWhile (· != '<'))
        let inside := ((trimmed.dropWhile (· != '<')).drop 1).dropLast
        let arguments :=
          (splitTopLevel inside).attach.mapM fun argument => read (calls - 2) argument.1
        arguments.map (.constructed (String.ofList name))
      else
        .error .missingBracket
    else
      .ok (.named (String.ofList trimmed))
termination_by text.length
decreasing_by
  · simp only [List.length_dropLast]
    omega
  · simp only [List.length_dropLast]
    omega
  · have shorter : (lastBrackets (Text.trimList text)).1.length < (Text.trimList text).length :=
      length_lastBrackets_fst_lt nonempty
    change (lastBrackets (Text.trimList text)).1.length < text.length
    omega
  · have inner := length_of_mem_splitTopLevel argument.2
    have dropped := length_dropWhile_le (· != '<') (Text.trimList text)
    change argument.1.length ≤
      (((Text.trimList text).dropWhile (· != '<')).drop 1).dropLast.length at inner
    simp only [List.length_dropLast, List.length_drop] at inner
    omega

/-- Reads a text as shorthand. -/
def parse (text : String) : Except ShorthandFault Shorthand :=
  read Limits.shorthandDepth text.toList

end Shorthand

end TypeCatalog
