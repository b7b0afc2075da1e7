import TypeCatalog.Number.FromText
import TypeCatalog.Schema.Checked
import TypeCatalog.Text.CharacterClass
import TypeCatalog.Text.Utf8

namespace TypeCatalog.Schema

/-!
# Checks of single values

Texts are taken as texts or as bytes in UTF-8.  Truth values and whole numbers are also taken in
other forms that mean the same: `1`, `1.0` and `"yes"` for true, `"42"`, `" +42.0 "` and `4.2e1` for
forty-two.
-/

/-- The message for a text that holds something that is no character. -/
def notCharactersMessage : String :=
  "Input should be a valid string, unable to parse raw data as a unicode string"

/-- The text that bytes write, if they write one. -/
def decoded? (octets : List Nat) : Option String :=
  (Text.decodeUtf8 octets).toOption

/-- A text. -/
def text : Check String
  | .text content => .ok content
  | .unpaired points => .reject notCharactersMessage (.unpaired points)
  | .bytes octets =>
    match decoded? octets with
    | some content => .ok content
    | none => .reject notCharactersMessage (.bytes octets)
  | value => .reject "Input should be a valid string" value

/-- The words for true, in lower case. -/
def wordsForTrue : List String :=
  ["1", "true", "t", "yes", "y", "on"]

/-- The words for false, in lower case. -/
def wordsForFalse : List String :=
  ["0", "false", "f", "no", "n", "off"]

/-- The message for a value that might be a truth value but is none. -/
def notTruthMessage : String :=
  "Input should be a valid boolean, unable to interpret input"

/-- The bound on whole numbers that are taken from doubles. -/
def doubleBound : Int := Int.pow 2 63

/-- The message for a value that is nothing like a truth value. -/
def notTruthFormMessage : String :=
  "Input should be a valid boolean"

/-- The truth value that a word stands for, of either case. -/
def truthOfWord? (content : String) : Option Bool :=
  let word := String.ofList (content.toList.map Char.toLower)
  if wordsForTrue.contains word then some true
  else if wordsForFalse.contains word then some false
  else none

/-- The truth value that a text stands for. -/
def truthOfText
    (input : Value)
    (content? : Option String) : Checked Bool :=
  match content?.bind truthOfWord? with
  | some truth => .ok truth
  | none => .reject notTruthMessage input

/-- A truth value. -/
def truth : Check Bool
  | .bool truth => .ok truth
  | .int number =>
    if number = 0 then .ok false
    else if number = 1 then .ok true
    else if -doubleBound ≤ number && number < doubleBound then
      .reject notTruthMessage (.int number)
    else
      .reject notTruthFormMessage (.int number)
  | .float number =>
    match number.toInt? with
    | some whole =>
      if whole = 0 then .ok false
      else if whole = 1 then .ok true
      else if -doubleBound < whole && whole < doubleBound then
        .reject notTruthMessage (.float number)
      else
        .reject notTruthFormMessage (.float number)
    | none => .reject notTruthFormMessage (.float number)
  | .text content => truthOfText (.text content) (some content)
  | .bytes octets => truthOfText (.bytes octets) (decoded? octets)
  | .unpaired points => .reject notCharactersMessage (.unpaired points)
  | value => .reject notTruthFormMessage value

/-- Drops a point that one or more zeros and nothing else follow. -/
def dropZeroFraction (characters : List Char) : List Char :=
  let whole := characters.takeWhile (· != '.')
  let fraction := (characters.dropWhile (· != '.')).drop 1
  if !fraction.isEmpty && fraction.all (· == '0') then whole else characters

/-- Drops zeros at the front, with the underscores among them.  Of zeros alone, or before a point,
the last character stays. -/
def dropLeadingZeros : List Char → Option (List Char)
  | '0' :: tail =>
    let skipped := tail.takeWhile fun c => c = '0' || c = '_'
    let last := skipped.getLast?.getD '0'
    match tail.drop skipped.length with
    | [] => some [last]
    | '.' :: fraction => some (last :: '.' :: fraction)
    | c :: rest => if Text.isDecimalDigit c then some (c :: rest) else none
  | c :: rest => if Text.isDecimalDigit c then some (c :: rest) else none
  | [] => none

/-- Why a text is no whole number. -/
inductive NumeralFault where
  | malformed
  | tooLong
deriving Repr, DecidableEq

/-- The whole number of a size and a sign. -/
def signedWhole
    (negative : Bool)
    (size : Nat) : Int :=
  if negative then -(size : Int) else size

/-- The whole number that a text writes in a loose form: with a plus sign, zeros in front,
underscores between digits or a fraction of zeros. -/
def readLooseWhole? (trimmed : List Char) : Option Int :=
  let signed :=
    match trimmed with
    | '+' :: '-' :: _ => trimmed
    | '+' :: rest => rest
    | _ => trimmed
  let negative := signed.head? = some '-'
  let unsigned := if negative then signed.drop 1 else signed
  match (dropLeadingZeros unsigned).bind fun kept =>
      Number.joined Text.isDecimalDigit (dropZeroFraction kept) with
  | none => none
  | some digits =>
    if digits.length > Text.digitLimit then none
    else some (signedWhole negative (Text.numberOfDigits digits))

/-- The whole number that a text writes.  The strict form, a sign and digits without zeros in
front, is tried first; its length is bounded whatever follows it. -/
def readWhole (content : String) : Except NumeralFault Int :=
  let trimmed := Text.trimBy Text.isWhiteSpace content.toList
  let negative := trimmed.head? = some '-'
  let unsigned := if negative then trimmed.drop 1 else trimmed
  let digits := unsigned.takeWhile Text.isDecimalDigit
  let isStrict := !digits.isEmpty && (digits = ['0'] || digits.head? != some '0')
  let loose : Except NumeralFault Int :=
    match readLooseWhole? trimmed with
    | some number => .ok number
    | none => .error .malformed
  if isStrict then
    if (if negative then 1 else 0) + digits.length > Text.digitLimit then
      .error .tooLong
    else if digits.length = unsigned.length then
      .ok (signedWhole negative (Text.numberOfDigits digits))
    else
      loose
  else
    loose

/-- The message for a whole number that is too large to be taken from another form. -/
def tooLongMessage : String :=
  "Unable to parse input string as an integer, exceeded maximum size"

/-- The message for a text that writes no whole number. -/
def notWholeMessage : String :=
  "Input should be a valid integer, unable to parse string as an integer"

/-- The whole number that a text stands for. -/
def wholeOfText
    (input : Value)
    (content? : Option String) : Checked Int :=
  match content?.map readWhole with
  | some (.ok number) => .ok number
  | some (.error .tooLong) => .reject tooLongMessage input
  | _ => .reject notWholeMessage input

/-- A whole number. -/
def whole : Check Int
  | .int number => .ok number
  | .bool truth => .ok (if truth then 1 else 0)
  | .float number =>
    if number.isFinite then
      match number.toInt? with
      | some whole =>
        if -doubleBound < whole && whole < doubleBound then .ok whole
        else .reject tooLongMessage (.float number)
      | none =>
        .reject "Input should be a valid integer, got a number with a fractional part"
          (.float number)
    else
      .reject "Input should be a finite number" (.float number)
  | .text content => wholeOfText (.text content) (some content)
  | .bytes octets => wholeOfText (.bytes octets) (decoded? octets)
  | .unpaired points => .reject notCharactersMessage (.unpaired points)
  | value => .reject "Input should be a valid integer" value

/-- A whole number that is not below a bound. -/
def wholeFrom (least : Int) : Check Int := fun value =>
  (whole value).andThen fun number =>
    if number < least then
      .reject ("Input should be greater than or equal to " ++ Text.signedDecimal least) value
    else
      .ok number

/-- A whole number between two bounds, the bounds included. -/
def wholeBetween (least greatest : Int) : Check Int := fun value =>
  (wholeFrom least value).andThen fun number =>
    if number > greatest then
      .reject ("Input should be less than or equal to " ++ Text.signedDecimal greatest) value
    else
      .ok number

/-- Quoted alternatives, the last one after `or`. -/
def alternatives : List String → String
  | [] => ""
  | [only] => Text.quoted only
  | [first, last] => Text.quoted first ++ " or " ++ Text.quoted last
  | first :: rest => Text.quoted first ++ ", " ++ alternatives rest

/-- One of a few words, each of which stands for a value; the word must be a text. -/
def literal
    {α : Type}
    (options : List (String × α)) : Check α := fun value =>
  let rejected := Checked.reject ("Input should be " ++ alternatives (options.map Prod.fst)) value
  match value with
  | .text content =>
    match options.find? fun option => option.1 == content with
    | some option => .ok option.2
    | none => rejected
  | .unpaired _ => .reject notCharactersMessage value
  | _ => rejected

/-- One of a few words, each of which stands for a value; the word may also be bytes. -/
def choice
    {α : Type}
    (options : List (String × α)) : Check α := fun value =>
  match value with
  | .bytes octets =>
    match decoded? octets with
    | some content =>
      match options.find? fun option => option.1 == content with
      | some option => .ok option.2
      | none => literal options value
    | none => literal options value
  | _ => literal options value

/-- The entries of a mapping whose keys are texts and whose values pass a check. -/
def checkEntries
    {α : Type}
    (check : Check α) : List (Key × Value) → Checked (List (String × α))
  | [] => .ok []
  | (key, value) :: rest =>
    let step := stepOfKey key
    Checked.combine List.cons
      (Checked.combine Prod.mk
        (((text key.toValue).under (.field "[key]")).under step)
        ((check value).under step))
      (checkEntries check rest)

/-- Sets the value under a name: a name that is there keeps its place, a new one goes to the
end. -/
def setUnder
    {α : Type}
    (entries : List (String × α))
    (name : String)
    (value : α) : List (String × α) :=
  if entries.any fun entry => entry.1 == name then
    entries.map fun entry => if entry.1 == name then (name, value) else entry
  else
    entries ++ [(name, value)]

/-- Entries of which a later one takes the place of an earlier one with the same name. -/
def lastOfEach
    {α : Type}
    (entries : List (String × α)) : List (String × α) :=
  entries.foldl (fun kept entry => setUnder kept entry.1 entry.2) []

/-- A mapping from texts to values that pass a check.  Keys that are different can be the same
text. -/
def mappingOf
    {α : Type}
    (check : Check α) : Check (List (String × α))
  | .map entries => (checkEntries check entries).map lastOfEach
  | .again (.map entries) => (checkEntries check entries).map lastOfEach
  | value => .reject "Input should be a valid dictionary" value

end TypeCatalog.Schema
