import TypeCatalog.Text.CharacterClass
import TypeCatalog.Text.Numeral
import TypeCatalog.Text.Split

namespace TypeCatalog.Command

/-!
# Literals in tags

The parameters of a tag that starts with `@` are a literal: a number, a text, bytes, a constant, or
a tuple, a set or a mapping of literals.  Nothing is computed from a literal here; it only has to be
one.
-/

/-- One token of a literal. -/
inductive LiteralToken where
  | number (isImaginary : Bool)
  | text (isBytes : Bool)
  | constant
  | setName
  | mark (c : Char)
  | lineEnd
deriving Repr, DecidableEq

namespace LiteralToken

/-! ## Numbers -/

/-- The digits of a class at the start of a text, which may have an underscore in front of each, and
the rest of the text. -/
def digitRun (isDigit : Char → Bool) : List Char → List Char × List Char
  | '_' :: c :: rest =>
    if isDigit c then
      let run := digitRun isDigit rest
      (c :: run.1, run.2)
    else
      ([], '_' :: c :: rest)
  | c :: rest =>
    if isDigit c then
      let run := digitRun isDigit rest
      (c :: run.1, run.2)
    else
      ([], c :: rest)
  | [] => ([], [])

/-- The decimal digits at the start of a text, of which the first has no underscore in front. -/
def decimalRun (characters : List Char) : List Char × List Char :=
  if characters.head?.any Text.isDecimalDigit then
    digitRun Text.isDecimalDigit characters
  else
    ([], characters)

/-- The base that a letter after a zero names. -/
def baseOfLetter? (letter : Char) : Option Nat :=
  match letter.toLower with
  | 'x' => some 16
  | 'o' => some 8
  | 'b' => some 2
  | _ => none

/-- The rest of a number after its fraction, if there is a fraction. -/
def afterFraction? : List Char → Option (List Char)
  | '.' :: rest => some (decimalRun rest).2
  | _ => none

/-- The rest of a number after its exponent, if there is an exponent. -/
def afterExponent? : List Char → Option (List Char)
  | letter :: rest =>
    if letter = 'e' || letter = 'E' then
      let digits := if rest.head? = some '+' || rest.head? = some '-' then rest.tail else rest
      if digits.head?.any Text.isDecimalDigit then some (decimalRun digits).2 else none
    else
      none
  | [] => none

/-- Whether digits may stand as a whole number: no zeros in front but in zero itself, and not too
many. -/
def isWhole (digits : List Char) : Bool :=
  (digits.head? != some '0' || digits.all (· = '0')) && digits.length ≤ Text.digitLimit

/-- A decimal number at the start of a text, and the rest of the text. -/
def decimalNumber? (characters : List Char) : Option (LiteralToken × List Char) :=
  let whole := decimalRun characters
  let fraction? := afterFraction? whole.2
  let exponent? := afterExponent? (fraction?.getD whole.2)
  let rest := exponent?.getD (fraction?.getD whole.2)
  if rest.head?.any (·.toLower = 'j') then
    some (.number true, rest.tail)
  else if fraction?.isSome || exponent?.isSome || isWhole whole.1 then
    some (.number false, rest)
  else
    none

/-- A number at the start of a text, and the rest of the text. -/
def number? : List Char → Option (LiteralToken × List Char)
  | '0' :: letter :: rest =>
    match baseOfLetter? letter with
    | some base =>
      let run := digitRun (fun c => (Text.hexadecimalDigit? c).any (· < base)) rest
      if run.1.isEmpty then none else some (.number false, run.2)
    | none => decimalNumber? ('0' :: letter :: rest)
  | characters => decimalNumber? characters

/-! ## Texts -/

/-- How a text is written. -/
structure QuoteStyle where
  quote : Char
  isTriple : Bool
  isRaw : Bool
  isBytes : Bool
deriving Repr, DecidableEq

/-- Whether so many hexadecimal digits follow that write a number up to a maximum. -/
def hasDigits
    (count maximum : Nat)
    (characters : List Char) : Bool :=
  let digits := characters.take count
  digits.length = count && digits.all (fun c => (Text.hexadecimalDigit? c).isSome) &&
    Text.numberInBase 16 digits ≤ maximum

/-- Whether the name of a character in curly brackets follows. -/
def hasName (characters : List Char) : Bool :=
  let name := (characters.drop 1).takeWhile fun c => c.isAlphanum || c = ' ' || c = '-'
  characters.head? = some '\x7b' && !name.isEmpty &&
    (characters.drop (name.length + 1)).head? = some '\x7d'

/-- Whether a backslash may stand before a character with what follows it. -/
def QuoteStyle.admits
    (style : QuoteStyle)
    (escaped : Char)
    (rest : List Char) : Bool :=
  if style.isRaw then true
  else if escaped = 'x' then hasDigits 2 0xFF rest
  else if style.isBytes then true
  else if escaped = 'u' then hasDigits 4 0xFFFF rest
  else if escaped = 'U' then hasDigits 8 0x10FFFF rest
  else if escaped = 'N' then hasName rest
  else true

/-- What follows a text whose opening quote is read. -/
def QuoteStyle.after? (style : QuoteStyle) : List Char → Option (List Char)
  | [] => none
  | '\\' :: escaped :: rest =>
    if style.isBytes && escaped.toNat ≥ 0x80 then none
    else if style.admits escaped rest then style.after? rest
    else none
  | c :: rest =>
    if c = style.quote then
      if !style.isTriple then some rest
      else if [c, c].isPrefixOf rest then some (rest.drop 2)
      else style.after? rest
    else if c = '\n' && !style.isTriple then none
    else if style.isBytes && c.toNat ≥ 0x80 then none
    else style.after? rest

/-- The letters that may stand before a text, and what they say. -/
def quoteStyle?
    (letters : String)
    (quote : Char) : Option QuoteStyle :=
  if letters == "" || letters == "u" then some ⟨quote, false, false, false⟩
  else if letters == "r" then some ⟨quote, false, true, false⟩
  else if letters == "b" then some ⟨quote, false, false, true⟩
  else if letters == "br" || letters == "rb" then some ⟨quote, false, true, true⟩
  else none

/-- Whether a character is a quote. -/
def isQuote (c : Char) : Bool :=
  c = '\'' || c = '"'

/-- A text at the start of a text, with letters read before it, and the rest of the text. -/
def quoted?
    (letters : List Char) : List Char → Option (LiteralToken × List Char)
  | [] => none
  | quote :: rest => do
    let style ← quoteStyle? (String.ofList (letters.map Char.toLower)) quote
    let isTriple := [quote, quote].isPrefixOf rest
    let after ←
      { style with isTriple := isTriple }.after? (if isTriple then rest.drop 2 else rest)
    return (.text style.isBytes, after)

/-! ## All tokens -/

/-- The token for a word. -/
def ofWord? (word : String) : Option LiteralToken :=
  if ["True", "False", "None"].contains word then some .constant
  else if word == "set" then some .setName
  else none

/-- A word at the start of a text, or a text that starts with letters. -/
def word? (characters : List Char) : Option (LiteralToken × List Char) :=
  let word := characters.takeWhile Text.isWordCharacter
  let rest := characters.drop word.length
  if rest.head?.any isQuote then
    quoted? word rest
  else
    (ofWord? (String.ofList word)).map fun token => (token, rest)

/-- A token that starts with a character which is no blank. -/
def next?
    (c : Char)
    (rest : List Char) : Option (LiteralToken × List Char) :=
  if Text.isDecimalDigit c || (c = '.' && rest.head?.any Text.isDecimalDigit) then
    number? (c :: rest)
  else if ['.', '.', '.'].isPrefixOf (c :: rest) then
    some (.constant, rest.drop 2)
  else if isQuote c || Text.isWordCharacter c then
    word? (c :: rest)
  else if ['+', '-', '(', ')', ',', ':', '\x7b', '\x7d'].contains c then
    some (.mark c, rest)
  else
    none

/-- The greatest number of brackets that are open at once. -/
def depthLimit : Nat := 200

/-- The number of brackets that are open after a token. -/
def depthAfter
    (depth : Nat) : LiteralToken → Nat
  | .mark c =>
    if c = '(' || c = '\x7b' then depth + 1
    else if c = ')' || c = '\x7d' then depth - 1
    else depth
  | _ => depth

/-- The tokens of a text.  Within brackets a line may end anywhere. -/
def readAll
    (depth : Nat) : Nat → List Char → Option (List LiteralToken)
  | 0, _ => none
  | _, [] => some []
  | fuel + 1, c :: rest =>
    if c = ' ' || c = '\t' || c = '\x0c' then
      readAll depth fuel rest
    else if c = '#' then
      readAll depth fuel (rest.dropWhile (· != '\n'))
    else if c = '\\' && rest.head? = some '\n' then
      readAll depth fuel rest.tail
    else if c = '\n' then
      if depth = 0 then (readAll depth fuel rest).map (.lineEnd :: ·) else readAll depth fuel rest
    else
      match next? c rest with
      | none => none
      | some (token, after) =>
        let depth := depthAfter depth token
        if depth > depthLimit then none else (readAll depth fuel after).map (token :: ·)

end LiteralToken

/-- What a literal is, as far as the literal around it cares: numbers can get a sign, a number with
a sign or without can be the real part of another, and only fixed values can be in sets. -/
inductive LiteralForm where
  | number (isImaginary : Bool)
  | signed (isImaginary : Bool)
  | fixed
  | changing
deriving Repr, DecidableEq

namespace LiteralForm

/-- Whether a literal can be an element of a set. -/
def isFixed (form : LiteralForm) : Bool :=
  form != .changing

/-- A tuple of literals. -/
def tuple (items : List LiteralForm) : LiteralForm :=
  if items.all isFixed then .fixed else .changing

/-- A number behind a sign. -/
def negated? : LiteralForm → Option LiteralForm
  | .number isImaginary => some (.signed isImaginary)
  | _ => none

/-- The sum of two literals: of a real and an imaginary number. -/
def sum? : LiteralForm → LiteralForm → Option LiteralForm
  | .number false, .number true | .signed false, .number true => some .fixed
  | _, _ => none

/-- What follows texts that are all written as bytes, or all not. -/
def afterTexts?
    (isBytes : Bool) : List LiteralToken → Option (List LiteralToken)
  | .text other :: rest => if other = isBytes then afterTexts? isBytes rest else none
  | rest => some rest

/-- Whether a token is a sign. -/
def isSign (token : LiteralToken) : Bool :=
  token = .mark '+' || token = .mark '-'

mutual

/-- A literal without a sum at the start of tokens, and the rest of the tokens. -/
def operand? : Nat → List LiteralToken → Option (LiteralForm × List LiteralToken)
  | 0, _ => none
  | _, [] => none
  | fuel + 1, token :: rest =>
    match token with
    | .number isImaginary => some (.number isImaginary, rest)
    | .text isBytes => (afterTexts? isBytes rest).map fun rest => (.fixed, rest)
    | .constant => some (.fixed, rest)
    | .setName =>
      if [.mark '(', .mark ')'].isPrefixOf rest then some (.changing, rest.drop 2) else none
    | .mark '(' =>
      match rest with
      | .mark ')' :: rest => some (.fixed, rest)
      | rest => do
        let (first, rest) ← sumOf? fuel rest
        let (others, hasComma, rest) ← others? ')' fuel rest
        return (if hasComma then tuple (first :: others) else first, rest)
    | .mark '\x7b' =>
      match rest with
      | .mark '\x7d' :: rest => some (.changing, rest)
      | rest => do
        let (first, rest) ← sumOf? fuel rest
        match rest with
        | .mark ':' :: rest =>
          let (_, rest) ← sumOf? fuel rest
          let rest ← entries? fuel rest
          if first.isFixed then return (.changing, rest) else none
        | rest =>
          let (others, _, rest) ← others? '\x7d' fuel rest
          if (first :: others).all isFixed then return (.changing, rest) else none
    | token =>
      if isSign token then do
        let (form, rest) ← operand? fuel rest
        return (← form.negated?, rest)
      else
        none
termination_by structural fuel => fuel

/-- A literal at the start of tokens, and the rest of the tokens. -/
def sumOf? : Nat → List LiteralToken → Option (LiteralForm × List LiteralToken)
  | 0, _ => none
  | fuel + 1, tokens => do
    let (first, rest) ← operand? fuel tokens
    if rest.head?.any isSign then
      let (second, rest) ← operand? fuel rest.tail
      return (← first.sum? second, rest)
    else
      return (first, rest)
termination_by structural fuel => fuel

/-- The further literals up to a closing bracket, whether there was a comma, and the rest of the
tokens. -/
def others?
    (closing : Char) : Nat → List LiteralToken →
      Option (List LiteralForm × Bool × List LiteralToken)
  | 0, _ => none
  | fuel + 1, tokens =>
    match tokens with
    | .mark c :: rest =>
      if c = closing then
        some ([], false, rest)
      else if c != ',' then
        none
      else if rest.head? = some (.mark closing) then
        some ([], true, rest.tail)
      else do
        let (next, rest) ← sumOf? fuel rest
        let (others, _, rest) ← others? closing fuel rest
        return (next :: others, true, rest)
    | _ => none
termination_by structural fuel => fuel

/-- What follows the further entries of a mapping. -/
def entries? : Nat → List LiteralToken → Option (List LiteralToken)
  | 0, _ => none
  | fuel + 1, tokens =>
    match tokens with
    | .mark '\x7d' :: rest => some rest
    | .mark ',' :: .mark '\x7d' :: rest => some rest
    | .mark ',' :: rest => do
      let (key, rest) ← sumOf? fuel rest
      match rest with
      | .mark ':' :: rest =>
        let (_, rest) ← sumOf? fuel rest
        if key.isFixed then entries? fuel rest else none
      | _ => none
    | _ => none
termination_by structural fuel => fuel

end

end LiteralForm

/-- Whether a text is a literal; it may be a tuple without brackets. -/
def isLiteral (characters : List Char) : Bool :=
  let unified := Text.unifyLineEnds [] characters
  match LiteralToken.readAll 0 (unified.length + 1) unified with
  | none => false
  | some tokens =>
    let tokens := (tokens.reverse.dropWhile (· = .lineEnd)).reverse
    let enclosed := .mark '(' :: tokens ++ [.mark ')']
    !tokens.isEmpty &&
      (LiteralForm.operand? (4 * enclosed.length) enclosed).any fun found => found.2.isEmpty

/-- The literal among the parameters of a tag: a name of words and dots may stand before a literal
in round brackets, or alone. -/
def literalPart (parameters : List Char) : List Char :=
  let rest := parameters.dropWhile fun c => Text.isWordCharacter c || c = '.'
  if rest.isEmpty then
    ['(', ')']
  else if rest.head? = some '(' && rest.getLast? = some ')' && !rest.contains '\n' then
    rest
  else
    parameters

/-- Whether the parameters of a tag can be read. -/
def areParametersReadable (parameters : List Char) : Bool :=
  isLiteral (literalPart (Text.trimList parameters))

end TypeCatalog.Command
