import Mathlib.Data.List.Basic
import Mathlib.Data.List.TakeWhile
import TypeCatalog.Json.Reader
import TypeCatalog.Value.Basic

namespace TypeCatalog

/-!
# The grammar of JSON documents

The grammar of RFC 8259 over code points.  A rule relates a text to what is left of it behind a
phrase.  Readers often take three more words for numbers that are not finite; the grammar comes with
and without them.
-/

/-!
## Numbers in JSON documents

The grammar of numbers in RFC 8259, section 6, with what they stand for: a whole number, or the
double nearest to what a number with a fraction or an exponent says.
-/

namespace Json

section

open Text

/-! ### The grammar of numbers -/

/-- One digit or more. -/
def IsDigits (digits : List Char) : Prop :=
  digits ≠ [] ∧ ∀ c ∈ digits, isDecimalDigit c = true

/-- The digits before the point, which start with zero only if that is all. -/
structure IsWholePart (digits : List Char) : Prop where
  areDigits : IsDigits digits
  noLeadingZero : digits.head? = some '0' → digits = ['0']

/-- A point with digits behind it, or nothing. -/
inductive IsFraction : List Char → List Char → Prop
  | none : IsFraction [] []
  | some {digits : List Char} (areDigits : IsDigits digits) : IsFraction ('.' :: digits) digits

/-- The sign of an exponent. -/
inductive IsSign : List Char → Bool → Prop
  | none : IsSign [] false
  | plus : IsSign ['+'] false
  | minus : IsSign ['-'] true

/-- A number with or without a minus. -/
def withSign (negative : Bool) (size : Nat) : Int :=
  if negative then -size else size

/-- A mark with a sign and digits behind it, or nothing. -/
inductive IsExponent : List Char → Int → Prop
  | none : IsExponent [] 0
  | some {mark : Char} {sign digits : List Char} {negative : Bool}
      (isMark : mark = 'e' ∨ mark = 'E') (isSign : IsSign sign negative)
      (areDigits : IsDigits digits) :
      IsExponent (mark :: (sign ++ digits)) (withSign negative (numberOfDigits digits))

/-- The minus in front of a number. -/
def minus (negative : Bool) : List Char :=
  if negative then ['-'] else []

/-- A number and the value that it stands for. -/
inductive IsNumber : List Char → Value → Prop
  | whole (negative : Bool) {digits : List Char} (isWhole : IsWholePart digits) :
      IsNumber (minus negative ++ digits) (.int (withSign negative (numberOfDigits digits)))
  | decimal (negative : Bool) {whole fraction digits exponent : List Char} {power : Int}
      (isWhole : IsWholePart whole) (isFraction : IsFraction fraction digits)
      (isExponent : IsExponent exponent power) (notWhole : fraction ++ exponent ≠ []) :
      IsNumber (minus negative ++ (whole ++ (fraction ++ exponent)))
        (.float (Binary64.ofDecimal negative (numberOfDigits (whole ++ digits))
          (power - digits.length)))

/-! ### Numbers are read in one way -/

/-- What passes a test up to the first that does not. -/
theorem takeWhile_append_of_stops
    {α : Type}
    {test : α → Bool}
    {passing rest : List α}
    (passes : ∀ x ∈ passing, test x = true)
    (stops : ∀ x ∈ rest.head?, test x = false) :
    (passing ++ rest).takeWhile test = passing := by
  rw [List.takeWhile_append_of_pos passes]
  cases rest with
  | nil => rw [List.takeWhile_nil, List.append_nil]
  | cons x rest => rw [List.takeWhile_cons_of_neg (by simp [stops x rfl]), List.append_nil]

/-- Texts that start with what passes a test and then with what does not are split in one way. -/
theorem append_inj_of_stops
    {α : Type}
    {test : α → Bool}
    {first second firstRest secondRest : List α}
    (firstPasses : ∀ x ∈ first, test x = true)
    (firstStops : ∀ x ∈ firstRest.head?, test x = false)
    (secondPasses : ∀ x ∈ second, test x = true)
    (secondStops : ∀ x ∈ secondRest.head?, test x = false)
    (same : first ++ firstRest = second ++ secondRest) :
    first = second ∧ firstRest = secondRest := by
  have samePassing : first = second := by
    rw [← takeWhile_append_of_stops firstPasses firstStops, same,
      takeWhile_append_of_stops secondPasses secondStops]
  exact ⟨samePassing, List.append_cancel_left (samePassing ▸ same)⟩

private theorem isDecimalDigit_head
    {digits : List Char}
    (areDigits : IsDigits digits)
    (rest : List Char) :
    ∀ c ∈ (digits ++ rest).head?, isDecimalDigit c = true := by
  intro c isHead
  rw [List.head?_append_of_ne_nil _ areDigits.1] at isHead
  exact areDigits.2 c (List.mem_of_mem_head? isHead)

/-- No digit stands where an exponent starts. -/
theorem IsExponent.stops
    {exponent : List Char}
    {power : Int}
    (isExponent : IsExponent exponent power) :
    ∀ c ∈ exponent.head?, isDecimalDigit c = false := by
  intro c isHead
  cases isExponent with
  | none => cases isHead
  | some isMark =>
      cases isHead
      rcases isMark with rfl | rfl <;> rfl

/-- No digit stands where a fraction starts, nor behind it. -/
theorem IsFraction.stops
    {fraction digits exponent : List Char}
    {power : Int}
    (isFraction : IsFraction fraction digits)
    (isExponent : IsExponent exponent power) :
    ∀ c ∈ (fraction ++ exponent).head?, isDecimalDigit c = false := by
  cases isFraction with
  | none => exact isExponent.stops
  | some areDigits =>
      intro c isHead
      cases isHead
      rfl

private theorem IsSign.unique
    {first second firstDigits secondDigits : List Char}
    {negative other : Bool}
    (isSign : IsSign first negative)
    (isOther : IsSign second other)
    (areDigits : IsDigits firstDigits)
    (areOthers : IsDigits secondDigits)
    (same : first ++ firstDigits = second ++ secondDigits) :
    negative = other ∧ firstDigits = secondDigits := by
  have noSign : ∀ {digits : List Char} {c : Char}, IsDigits (c :: digits) →
      c ≠ '+' ∧ c ≠ '-' := by
    intro digits c isDigits
    have isDigit := isDigits.2 c List.mem_cons_self
    constructor <;> rintro rfl <;> cases isDigit
  cases isSign <;> cases isOther
  case none.none => exact ⟨rfl, same⟩
  case plus.plus | minus.minus => exact ⟨rfl, (List.cons.inj same).2⟩
  case plus.minus | minus.plus => cases (List.cons.inj same).1
  case none.plus | none.minus =>
    subst same
    simpa using noSign areDigits
  case plus.none | minus.none =>
    subst same
    simpa using noSign areOthers

private theorem IsExponent.unique
    {exponent : List Char}
    {power other : Int}
    (isExponent : IsExponent exponent power)
    (isOther : IsExponent exponent other) :
    power = other := by
  cases isExponent with
  | none =>
      cases isOther
      rfl
  | some _ isSign areDigits =>
      generalize isText : _ :: _ = text at isOther
      cases isOther with
      | none => cases isText
      | some _ isOtherSign areOthers =>
          obtain ⟨rfl, rfl⟩ :=
            isSign.unique isOtherSign areDigits areOthers (List.cons.inj isText).2
          rfl

/-- A fraction ends where no more digits stand. -/
private theorem IsFraction.unique
    {fraction digits exponent otherFraction otherDigits otherExponent : List Char}
    {power other : Int}
    (isFraction : IsFraction fraction digits)
    (isExponent : IsExponent exponent power)
    (isOther : IsFraction otherFraction otherDigits)
    (isOtherExponent : IsExponent otherExponent other)
    (same : fraction ++ exponent = otherFraction ++ otherExponent) :
    digits = otherDigits ∧ exponent = otherExponent := by
  have noPoint : ∀ {exponent : List Char} {power : Int} {rest : List Char},
      IsExponent exponent power → exponent ≠ '.' :: rest := by
    rintro _ _ rest isExponent rfl
    cases isExponent with
    | some isMark => exact absurd isMark (by decide)
  cases isFraction with
  | none =>
      cases isOther with
      | none => exact ⟨rfl, same⟩
      | some => exact absurd same (noPoint isExponent)
  | some areDigits =>
      cases isOther with
      | none => exact absurd same.symm (noPoint isOtherExponent)
      | some areOthers =>
          exact append_inj_of_stops areDigits.2 isExponent.stops areOthers.2
            isOtherExponent.stops (List.cons.inj same).2

private theorem minus_unique
    {negative other : Bool}
    {first second : List Char}
    (startsWithDigit : ∀ c ∈ first.head?, isDecimalDigit c = true)
    (otherStartsWithDigit : ∀ c ∈ second.head?, isDecimalDigit c = true)
    (same : minus negative ++ first = minus other ++ second) :
    negative = other ∧ first = second := by
  cases negative <;> cases other
  case false.false => exact ⟨rfl, same⟩
  case true.true => exact ⟨rfl, (List.cons.inj same).2⟩
  case false.true =>
    subst same
    cases startsWithDigit '-' rfl
  case true.false =>
    subst same
    cases otherStartsWithDigit '-' rfl

/-- The value of a number that is given by its parts. -/
private def partsValue
    (negative : Bool)
    (whole digits : List Char)
    (power : Int) : (beyond : List Char) → Value
  | [] => .int (withSign negative (numberOfDigits whole))
  | _ =>
    .float (Binary64.ofDecimal negative (numberOfDigits (whole ++ digits)) (power - digits.length))

private theorem IsNumber.parts
    {text : List Char}
    {value : Value}
    (isNumber : IsNumber text value) :
    ∃ negative whole fraction digits exponent power,
      text = minus negative ++ (whole ++ (fraction ++ exponent)) ∧ IsWholePart whole ∧
        IsFraction fraction digits ∧ IsExponent exponent power ∧
        value = partsValue negative whole digits power (fraction ++ exponent) := by
  cases isNumber with
  | whole negative isWhole =>
      exact ⟨negative, _, [], [], [], 0, by rw [List.append_nil, List.append_nil], isWhole, .none,
        .none, rfl⟩
  | decimal negative isWhole isFraction isExponent notWhole =>
      refine ⟨negative, _, _, _, _, _, rfl, isWhole, isFraction, isExponent, ?_⟩
      rw [partsValue]
      exact notWhole

/-- A text stands for at most one number. -/
theorem IsNumber.unique
    {text : List Char}
    {value other : Value}
    (isNumber : IsNumber text value)
    (isOther : IsNumber text other) :
    value = other := by
  obtain ⟨negative, whole, fraction, digits, exponent, power, rfl, isWhole, isFraction,
    isExponent, rfl⟩ := isNumber.parts
  obtain ⟨otherNegative, otherWhole, otherFraction, otherDigits, otherExponent, otherPower, same,
    isOtherWhole, isOtherFraction, isOtherExponent, rfl⟩ := isOther.parts
  obtain ⟨rfl, sameUnsigned⟩ := minus_unique (isDecimalDigit_head isWhole.areDigits _)
    (isDecimalDigit_head isOtherWhole.areDigits _) same
  obtain ⟨rfl, sameBeyond⟩ := append_inj_of_stops isWhole.areDigits.2
    (isFraction.stops isExponent) isOtherWhole.areDigits.2
    (isOtherFraction.stops isOtherExponent) sameUnsigned
  obtain ⟨rfl, rfl⟩ := isFraction.unique isExponent isOtherFraction isOtherExponent sameBeyond
  obtain rfl := isExponent.unique isOtherExponent
  rw [sameBeyond]

end

/-! ## Phrases -/

/-- What a JSON text says.  An object has its members as they stand in the text. -/
inductive Document where
  | null
  | bool (truth : Bool)
  | number (value : Value)
  | word (number : Binary64)
  | string (content : List Nat)
  | array (items : List Document)
  | object (members : List (List Nat × Document))

/-! ### Blanks -/

/-- Whether a code point is a blank: a space, a tab, a line feed or a carriage return. -/
def isBlankPoint (point : Nat) : Bool :=
  point = 0x20 || point = 0x09 || point = 0x0A || point = 0x0D

/-- A text and what is left behind blanks. -/
inductive SkipsBlanks : List Nat → List Nat → Prop
  | stop (text : List Nat) : SkipsBlanks text text
  | skip {point : Nat} {text rest : List Nat} (isBlank : isBlankPoint point = true)
      (skips : SkipsBlanks text rest) : SkipsBlanks (point :: text) rest

/-- Whether a text starts with no code point of a sort. -/
def StartsWithout
    (sort : Nat → Bool)
    (text : List Nat) : Prop :=
  ∀ point ∈ text.head?, sort point = false

/-! ### Strings -/

/-- A part of a string: a code point, or a unit of 16 bits that is written with digits. -/
inductive StringPart where
  | plain (point : Nat)
  | unit (value : Nat)

/-- The code points that the parts of a string write: two units may write one together. -/
def codePoints : List StringPart → List Nat
  | [] => []
  | .plain point :: rest => point :: codePoints rest
  | .unit high :: .unit low :: rest =>
    if isHighHalf high && isLowHalf low then
      (0x10000 + (high - 0xD800) * 1024 + (low - 0xDC00)) :: codePoints rest
    else
      high :: codePoints (.unit low :: rest)
  | .unit value :: rest => value :: codePoints rest

/-- Whether a code point stands for itself in a string. -/
def IsUnescaped (point : Nat) : Prop :=
  (0x20 ≤ point ∧ point ≤ 0x21) ∨ (0x23 ≤ point ∧ point ≤ 0x5B) ∨
    (0x5D ≤ point ∧ point ≤ 0x10FFFF)

/-- A text behind the quote that opens a string, the parts of the string, and what is left behind
the quote that closes it. -/
inductive ReadsString : List Nat → List StringPart → List Nat → Prop
  | close (rest : List Nat) : ReadsString (0x22 :: rest) [] rest
  | plain {point : Nat} {text rest : List Nat} {parts : List StringPart}
      (isUnescaped : IsUnescaped point) (reads : ReadsString text parts rest) :
      ReadsString (point :: text) (.plain point :: parts) rest
  | escape {letter : Nat} {character : Char} {text rest : List Nat} {parts : List StringPart}
      (isEscape : simpleEscape? (Char.ofNat letter) = some character)
      (reads : ReadsString text parts rest) :
      ReadsString (0x5C :: letter :: text) (.plain character.toNat :: parts) rest
  | digits {a b c d value : Nat} {text rest : List Nat} {parts : List StringPart}
      (areDigits :
        fourDigits? (Char.ofNat a) (Char.ofNat b) (Char.ofNat c) (Char.ofNat d) = some value)
      (reads : ReadsString text parts rest) :
      ReadsString (0x5C :: 0x75 :: a :: b :: c :: d :: text) (.unit value :: parts) rest

/-! ### Words and numbers -/

/-- The code points of characters. -/
def codes (characters : List Char) : List Nat :=
  characters.map Char.toNat

/-- The words that stand for documents, with or without those for numbers that are not finite. -/
def documentWords (extended : Bool) : List (List Char × Document) :=
  [("null".toList, .null), ("true".toList, .bool true), ("false".toList, .bool false)] ++
    if extended then
      [("NaN".toList, .word .nan), ("Infinity".toList, .word (.infinite false)),
        ("-Infinity".toList, .word (.infinite true))]
    else []

/-- A word or a number. -/
inductive IsToken (extended : Bool) : List Char → Document → Prop
  | word {text : List Char} {document : Document}
      (isWord : (text, document) ∈ documentWords extended) : IsToken extended text document
  | number {text : List Char} {value : Value} (isNumber : IsNumber text value) :
      IsToken extended text (.number value)

/-- Whether a character can stand in a word or in a number. -/
def isTokenCharacter (c : Char) : Bool :=
  Text.isDecimalDigit c || ('a' ≤ c && c ≤ 'z') || ('A' ≤ c && c ≤ 'Z') || c = '.' || c = '+' ||
    c = '-'

/-- Whether a code point can stand in a word or in a number. -/
def isTokenPoint (point : Nat) : Bool :=
  isTokenCharacter (Char.ofNat point)

/-! ### Documents -/

/-- A document, a document between blanks, or documents that stand next to one another. -/
inductive Phrase where
  | value (document : Document)
  | padded (document : Document)
  | items (documents : List Document)
  | member (name : List Nat) (document : Document)
  | members (members : List (List Nat × Document))

/-- A text, a phrase at its front, and what is left behind it. -/
inductive Reads (extended : Bool) : List Nat → Phrase → List Nat → Prop
  | token {characters : List Char} {document : Document} (rest : List Nat)
      (isToken : IsToken extended characters document) :
      Reads extended (codes characters ++ rest) (.value document) rest
  | string {text rest : List Nat} {parts : List StringPart} (reads : ReadsString text parts rest) :
      Reads extended (0x22 :: text) (.value (.string (codePoints parts))) rest
  | emptyArray {text rest : List Nat} (skips : SkipsBlanks text (0x5D :: rest)) :
      Reads extended (0x5B :: text) (.value (.array [])) rest
  | array {text rest : List Nat} {documents : List Document}
      (reads : Reads extended text (.items documents) (0x5D :: rest)) :
      Reads extended (0x5B :: text) (.value (.array documents)) rest
  | emptyObject {text rest : List Nat} (skips : SkipsBlanks text (0x7D :: rest)) :
      Reads extended (0x7B :: text) (.value (.object [])) rest
  | object {text rest : List Nat} {members : List (List Nat × Document)}
      (reads : Reads extended text (.members members) (0x7D :: rest)) :
      Reads extended (0x7B :: text) (.value (.object members)) rest
  | padded {text start stop rest : List Nat} {document : Document}
      (before : SkipsBlanks text start) (reads : Reads extended start (.value document) stop)
      (after : SkipsBlanks stop rest) : Reads extended text (.padded document) rest
  | lastItem {text rest : List Nat} {document : Document}
      (reads : Reads extended text (.padded document) rest) :
      Reads extended text (.items [document]) rest
  | item {text next rest : List Nat} {document : Document} {documents : List Document}
      (reads : Reads extended text (.padded document) (0x2C :: next))
      (others : Reads extended next (.items documents) rest) :
      Reads extended text (.items (document :: documents)) rest
  | member {text inside afterName next rest : List Nat} {parts : List StringPart}
      {document : Document} (before : SkipsBlanks text (0x22 :: inside))
      (readsName : ReadsString inside parts afterName) (after : SkipsBlanks afterName (0x3A :: next))
      (reads : Reads extended next (.padded document) rest) :
      Reads extended text (.member (codePoints parts) document) rest
  | lastMember {text rest : List Nat} {name : List Nat} {document : Document}
      (reads : Reads extended text (.member name document) rest) :
      Reads extended text (.members [(name, document)]) rest
  | memberAndOthers {text next rest : List Nat} {name : List Nat} {document : Document}
      {members : List (List Nat × Document)}
      (reads : Reads extended text (.member name document) (0x2C :: next))
      (others : Reads extended next (.members members) rest) :
      Reads extended text (.members ((name, document) :: members)) rest

/-- Whether a text is a document. -/
def IsText
    (extended : Bool)
    (text : List Nat)
    (document : Document) : Prop :=
  Reads extended text (.padded document) []

end Json

end TypeCatalog
