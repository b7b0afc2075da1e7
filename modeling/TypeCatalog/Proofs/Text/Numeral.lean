import Mathlib.Data.List.Basic
import TypeCatalog.Text.Numeral
import TypeCatalog.Text.Split

namespace TypeCatalog.Text

/-!
# Numerals and pieces of text

Two ways of writing that lose nothing: a natural number is read back from its digits, and texts
joined with a mark that none of them holds are cut apart again at that mark.
-/

/-- The digits of a number write that number. -/
theorem numberOfDigits_toDigits (number : Nat) :
    numberOfDigits (Nat.toDigits 10 number) = number := by
  have stepSame :
      (fun (sofar : Nat) (c : Char) => 10 * sofar + (c.toNat - '0'.toNat)) =
        fun sofar c => sofar * 10 + (c.toNat - 48) := by
    funext sofar c
    rw [Nat.mul_comm]
    rfl
  have readBack : Nat.ofDigitChars 10 (Nat.toDigits 10 number) 0 = number :=
    Nat.ofDigitChars_ten_toDigits
  rw [Nat.ofDigitChars_eq_foldl, stepSame] at readBack
  exact readBack

theorem decimal_injective {first second : Nat}
    (same : decimal first = decimal second) :
    first = second := by
  have digitsSame : Nat.toDigits 10 first = Nat.toDigits 10 second :=
    String.ofList_injective same
  rw [← numberOfDigits_toDigits first, digitsSame, numberOfDigits_toDigits]

@[simp] theorem signedDecimal_natCast (number : Nat) :
    signedDecimal (number : Int) = decimal number :=
  rfl

/-- A numeral holds decimal digits only. -/
theorem isDecimalDigit_of_mem_toDigits
    {number : Nat}
    {c : Char}
    (member : c ∈ Nat.toDigits 10 number) :
    isDecimalDigit c = true := by
  have digit : c.isDigit = true :=
    Nat.isDigit_of_mem_toDigits (by decide) (by decide) member
  simpa [Char.isDigit, isDecimalDigit, Char.le_def] using digit

/-- The least number with too many digits. -/
def leastTooLong : Nat :=
  Nat.pow 10 digitLimit

theorem one_lt_leastTooLong : 1 < leastTooLong := by
  have positive : digitLimit ≠ 0 := by
    decide
  unfold leastTooLong
  generalize digitLimit = limit at positive ⊢
  exact Nat.one_lt_pow positive (by decide)

/-- A numeral has no more digits than are allowed exactly when its number is below the least one
with too many. -/
theorem length_toDigits_le_digitLimit_iff (number : Nat) :
    (Nat.toDigits 10 number).length ≤ digitLimit ↔ number < leastTooLong := by
  have positive : 0 < digitLimit := by
    decide
  unfold leastTooLong
  generalize digitLimit = limit at positive ⊢
  exact Nat.length_toDigits_le_iff (by decide) positive

/-- A natural number below the limit can be written. -/
theorem lt_of_isTooLong_eq_false
    {number : Nat}
    (short : isTooLong (number : Int) = false) :
    number < leastTooLong := by
  unfold isTooLong at short
  unfold leastTooLong
  generalize digitLimit = limit at short ⊢
  by_contra atLeast
  have large : 10 ^ limit ≤ number := Nat.le_of_not_lt atLeast
  have binary : 2 ^ (3 * limit) ≤ 10 ^ limit := by
    rw [Nat.pow_mul]
    exact Nat.pow_le_pow_left (by decide) limit
  have positive : number ≠ 0 := by
    intro isZero
    subst isZero
    exact absurd large (Nat.not_le_of_lt (Nat.pow_pos (by decide)))
  have logarithm : 3 * limit ≤ number.log2 :=
    (Nat.le_log2 positive).mpr (Nat.le_trans binary large)
  rw [Int.natAbs_natCast, Bool.and_eq_false_iff, decide_eq_false_iff_not,
    decide_eq_false_iff_not] at short
  rcases short with fewBits | below
  · exact fewBits logarithm
  · exact below large

theorem isTooLong_leastTooLong : isTooLong leastTooLong = true := by
  by_contra notTooLong
  exact Nat.lt_irrefl _ (lt_of_isTooLong_eq_false (Bool.eq_false_iff.mpr notTooLong))

theorem isTooLong_eq_false_of_lt
    {number : Nat}
    (short : number < leastTooLong) :
    isTooLong (number : Int) = false := by
  unfold leastTooLong at short
  unfold isTooLong
  generalize digitLimit = limit at short ⊢
  rw [Int.natAbs_natCast, Bool.and_eq_false_iff, decide_eq_false_iff_not,
    decide_eq_false_iff_not]
  exact .inr (Nat.not_le_of_lt short)

/-- A hexadecimal numeral that fits its width has exactly that width. -/
theorem length_hexadecimal
    {width number : Nat}
    (widthPositive : 0 < width)
    (fits : number < Nat.pow 16 width) :
    (hexadecimal width number).toList.length = width := by
  have short : (Nat.toDigits 16 number).length ≤ width :=
    (Nat.length_toDigits_le_iff (by decide) widthPositive).mpr fits
  simp only [hexadecimal, padLeft, String.toList_ofList, String.length_ofList,
    List.length_append, List.length_replicate]
  omega

/-- Cutting one text at a mark is splitting its characters there. -/
theorem pieces_eq_splitOn
    (mark : Char)
    (characters : List Char) :
    pieces mark characters = characters.splitOn mark := by
  induction characters with
  | nil =>
      rfl
  | cons c rest inductionHypothesis =>
      rw [pieces] at inductionHypothesis ⊢
      rw [List.foldr_cons, inductionHypothesis, List.splitOn_cons_eq_if_modifyHead]
      by_cases isMark : c = mark
      · simp [isMark]
      · have someRest : rest.splitOn mark ≠ [] :=
          List.splitOn_ne_nil mark rest
        cases pieceList : rest.splitOn mark with
        | nil =>
            exact absurd pieceList someRest
        | cons piece others =>
            simp [isMark]

/-- Cutting at a mark undoes joining with it, if no part holds the mark. -/
theorem pieces_intercalate
    {mark : Char}
    {parts : List (List Char)}
    (someParts : parts ≠ [])
    (free : ∀ part ∈ parts, mark ∉ part) :
    pieces mark ([mark].intercalate parts) = parts := by
  rw [pieces_eq_splitOn, List.splitOn_intercalate mark free someParts]

/-- Joining the pieces with the mark undoes cutting at it. -/
theorem intercalate_pieces
    (mark : Char)
    (characters : List Char) :
    [mark].intercalate (pieces mark characters) = characters := by
  rw [pieces_eq_splitOn, List.intercalate_splitOn]

/-- No piece holds the mark. -/
theorem mark_not_mem_of_mem_pieces
    {mark : Char}
    {characters piece : List Char}
    (member : piece ∈ pieces mark characters) :
    mark ∉ piece := by
  induction characters generalizing piece with
  | nil =>
      rw [List.mem_singleton.mp member]
      exact List.not_mem_nil
  | cons c rest inductionHypothesis =>
      rw [pieces_eq_splitOn, List.splitOn_cons_eq_if_modifyHead, ← pieces_eq_splitOn] at member
      by_cases isMark : c = mark
      · rw [if_pos (beq_iff_eq.mpr isMark)] at member
        rcases List.mem_cons.mp member with rfl | inRest
        · exact List.not_mem_nil
        · exact inductionHypothesis inRest
      · rw [if_neg (mt beq_iff_eq.mp isMark)] at member
        cases restPieces : pieces mark rest with
        | nil =>
            rw [restPieces] at member
            cases member
        | cons first others =>
            rw [restPieces, List.modifyHead_cons] at member
            rw [restPieces] at inductionHypothesis
            rcases List.mem_cons.mp member with rfl | inOthers
            · intro inPiece
              rcases List.mem_cons.mp inPiece with rfl | inFirst
              · exact isMark rfl
              · exact inductionHypothesis List.mem_cons_self inFirst
            · exact inductionHypothesis (List.mem_cons_of_mem first inOthers)

/-- Lists of texts without a mark are equal when they are equal joined with the mark. -/
theorem intercalate_injective
    {mark : Char}
    {first second : List String}
    (someFirst : first ≠ [])
    (someSecond : second ≠ [])
    (firstFree : ∀ part ∈ first, mark ∉ part.toList)
    (secondFree : ∀ part ∈ second, mark ∉ part.toList)
    (same :
      (String.singleton mark).intercalate first =
        (String.singleton mark).intercalate second) :
    first = second := by
  have charactersSame := congrArg String.toList same
  rw [String.toList_intercalate, String.toList_intercalate,
    String.toList_singleton] at charactersSame
  have piecesSame := congrArg (pieces mark) charactersSame
  rw [pieces_intercalate (by simpa using someFirst) (by simpa using firstFree),
    pieces_intercalate (by simpa using someSecond) (by simpa using secondFree)] at piecesSame
  exact List.map_injective_iff.mpr (fun _ _ => String.toList_injective) piecesSame

end TypeCatalog.Text
