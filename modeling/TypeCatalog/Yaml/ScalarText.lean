import TypeCatalog.Yaml.Token

namespace TypeCatalog.Yaml.Read

/-!
# Text of scalars

A scalar is written plain, in single or double quotes, or as a block of lines that are kept or
folded.  Each style has its own rules for blanks, line ends and escapes.
-/

/-! ## Quoted scalars -/

/-- The character that a one-letter escape stands for. -/
def simpleEscape? (c : Char) : Option Char :=
  if c = '0' then some '\x00'
  else if c = 'a' then some '\x07'
  else if c = 'b' then some '\x08'
  else if c = 't' || c = '\t' then some '\t'
  else if c = 'n' then some '\n'
  else if c = 'v' then some '\x0b'
  else if c = 'f' then some '\x0c'
  else if c = 'r' then some '\r'
  else if c = 'e' then some '\x1b'
  else if c = ' ' then some ' '
  else if c = '"' then some '"'
  else if c = '\\' then some '\\'
  else if c = '/' then some '/'
  else if c = 'N' then some '\x85'
  else if c = '_' then some '\xa0'
  else if c = 'L' then some '\u2028'
  else if c = 'P' then some '\u2029'
  else none

/-- The number of digits after an escape that gives a code point. -/
def escapeWidth? (c : Char) : Option Nat :=
  if c = 'x' then some 2
  else if c = 'u' then some 4
  else if c = 'U' then some 8
  else none

/-- A number as a code point, which it is only up to the last one. -/
def pointOf (number : Nat) : Read Nat :=
  if number < 0x110000 then
    return number
  else if number < 0x80000000 then
    throw (.crashed ⟨.invalidValue, "chr() arg not in range(0x110000)"⟩)
  else
    throw (.crashed ⟨.overflow, "int too large to convert"⟩)

/-- The empty lines inside a quoted scalar. -/
def quotedBreaks
    (done : List Char) : Nat → Read (List Char)
  | 0 => malformed
  | fuel + 1 => do
    if ← atMarker then
      malformed
    else
      skipWhile fun c => c = ' ' || c = '\t'
      if isBreak (← peek 0) then
        let line ← lineBreak
        quotedBreaks (done ++ line) fuel
      else
        return done

/-- The blanks inside a quoted scalar: a line end becomes a space, further ones are kept. -/
def quotedBlanks : Read (List Char) := do
  let blanks ← takeWhile fun c => c = ' ' || c = '\t'
  let c ← peek 0
  if c = '\x00' then
    malformed
  else if isBreak c then
    let line ← lineBreak
    let breaks ← quotedBreaks [] (← bound)
    if line != ['\n'] then
      return line ++ breaks
    else if breaks.isEmpty then
      return [' ']
    else
      return breaks
  else
    return blanks

/-- The code points of characters. -/
def pointsOf (characters : List Char) : List Nat :=
  characters.map Char.toNat

/-- What an escape in a double-quoted scalar stands for; the backslash is already read. -/
def escaped : Read (List Nat) := do
  let c ← peek 0
  match simpleEscape? c, escapeWidth? c with
  | some character, _ =>
    forward 1
    return [character.toNat]
  | none, some width =>
    forward 1
    let digits := (← get).rest.take width
    if digits.length = width && digits.all fun d => (Text.hexadecimalDigit? d).isSome then
      let point ← pointOf (Text.numberInBase 16 digits)
      forward width
      return [point]
    else
      malformed
  | none, none =>
    if isBreak c then
      let _ ← lineBreak
      return pointsOf (← quotedBreaks [] (← bound))
    else
      malformed

/-- The code points of a quoted scalar up to a blank or the closing quote; pieces read are kept in
reverse. -/
def quotedWord
    (isDouble : Bool)
    (done : List (List Nat)) : Nat → Read (List Nat)
  | 0 => malformed
  | fuel + 1 => do
    let word ← takeWhile fun c => !(c = '\'' || c = '"' || c = '\\' || isGap c)
    let done := pointsOf word :: done
    let c ← peek 0
    if !isDouble && c = '\'' && (← peek 1) = '\'' then
      forward 2
      quotedWord isDouble (pointsOf ['\''] :: done) fuel
    else if (isDouble && c = '\'') || (!isDouble && (c = '"' || c = '\\')) then
      forward 1
      quotedWord isDouble (pointsOf [c] :: done) fuel
    else if isDouble && c = '\\' then
      forward 1
      let piece ← escaped
      quotedWord isDouble (piece :: done) fuel
    else
      return done.reverse.flatten

/-- The rest of a quoted scalar up to its closing quote; pieces read are kept in reverse. -/
def quotedRest
    (quote : Char)
    (done : List (List Nat)) : Nat → Read (List Nat)
  | 0 => malformed
  | fuel + 1 => do
    if (← peek 0) = quote then
      forward 1
      return done.reverse.flatten
    else
      let blanks ← quotedBlanks
      let word ← quotedWord (quote = '"') [] (← bound)
      quotedRest quote (word :: pointsOf blanks :: done) fuel

/-- A quoted scalar. -/
def quotedScalar (quote : Char) : Read Token := do
  forward 1
  let first ← quotedWord (quote = '"') [] (← bound)
  let content ← quotedRest quote [first] (← bound)
  return .scalar (.ofPoints content) false

/-! ## Block scalars -/

/-- How the line ends at the end of a block scalar are treated. -/
inductive Chomping where
  | clip
  | strip
  | keep
deriving Repr, DecidableEq

/-- The treatment that a sign asks for. -/
def chompingOf (c : Char) : Chomping :=
  if c = '+' then .keep else .strip

/-- Whether a character is one of the two signs. -/
def isSign (c : Char) : Bool :=
  c = '+' || c = '-'

/-- The indentation given by a digit; zero is none. -/
def indentDigit : Read Nat := do
  let c ← peek 0
  if c = '0' then
    malformed
  else
    forward 1
    return c.toNat - 48

/-- What follows the mark of a block scalar: a sign and an indentation in either order. -/
def blockHeader : Read (Chomping × Option Nat) := do
  let c ← peek 0
  let header ←
    if isSign c then do
      forward 1
      if Text.isDecimalDigit (← peek 0) then
        let increment ← indentDigit
        pure (chompingOf c, some increment)
      else
        pure (chompingOf c, none)
    else if Text.isDecimalDigit c then do
      let increment ← indentDigit
      let sign ← peek 0
      if isSign sign then
        forward 1
        pure (chompingOf sign, some increment)
      else
        pure (.clip, some increment)
    else
      pure (.clip, none)
  if endsWord (← peek 0) then return header else malformed

/-- The empty lines before the first line of a block scalar, and the deepest column on them. -/
def leadingLines
    (done : List Char)
    (deepest : Nat) : Nat → Read (List Char × Nat)
  | 0 => return (done, deepest)
  | fuel + 1 => do
    let c ← peek 0
    if c = ' ' then
      forward 1
      leadingLines done (max deepest (← get).column) fuel
    else if isBreak c then
      let line ← lineBreak
      leadingLines (done ++ line) deepest fuel
    else
      return (done, deepest)

/-- Skips spaces up to a column. -/
def skipIndent
    (column : Nat) : Nat → Read Unit
  | 0 => return ()
  | fuel + 1 => do
    if (← get).column < column && (← peek 0) = ' ' then
      forward 1
      skipIndent column fuel

/-- The empty lines inside a block scalar that is indented to a column. -/
def blockBreaks
    (column : Nat)
    (done : List Char) : Nat → Read (List Char)
  | 0 => return done
  | fuel + 1 => do
    skipIndent column (← bound)
    if isBreak (← peek 0) then
      let line ← lineBreak
      blockBreaks column (done ++ line) fuel
    else
      return done

/-- The lines of a block scalar; pieces read are kept in reverse.  Gives the pieces, the last line
end and the empty lines after it. -/
def blockLines
    (isFolded : Bool)
    (column : Nat)
    (breaks : List Char)
    (done : List (List Char)) : Nat → Read (List (List Char) × List Char × List Char)
  | 0 => return (done, [], breaks)
  | fuel + 1 => do
    let startsBlank := (← peek 0) = ' ' || (← peek 0) = '\t'
    let content ← takeWhile fun c => !endsLine c
    let done := content :: breaks :: done
    let line ← lineBreak
    let following ← blockBreaks column [] (← bound)
    let next ← peek 0
    if (← get).column = column && next != '\x00' then
      if isFolded && line = ['\n'] && !startsBlank && !(next = ' ' || next = '\t') then
        blockLines isFolded column following
          (if following.isEmpty then [' '] :: done else done) fuel
      else
        blockLines isFolded column following (line :: done) fuel
    else
      return (done, line, following)

/-- A block scalar. -/
def blockScalar (isFolded : Bool) : Read Token := do
  forward 1
  let (chomping, increment?) ← blockHeader
  restOfLine
  let least := max 1 ((← get).indent + 1).toNat
  let (breaks, column) ←
    match increment? with
    | none => do
      let (breaks, deepest) ← leadingLines [] 0 (← bound)
      pure (breaks, max least deepest)
    | some increment => do
      let column := least + increment - 1
      pure (← blockBreaks column [] (← bound), column)
  let (pieces, line, following) ←
    if (← get).column = column && (← peek 0) != '\x00' then
      blockLines isFolded column breaks [] (← bound)
    else
      pure ([], [], breaks)
  let body := pieces.reverse.flatten
  let content :=
    match chomping with
    | .strip => body
    | .clip => body ++ line
    | .keep => body ++ line ++ following
  return .scalar (.whole (String.ofList content)) false

/-! ## Plain scalars -/

/-- Whether a plain scalar ends before a character and its successor. -/
def endsPlain
    (inFlow : Bool)
    (c next : Char) : Bool :=
  isGap c ||
    (c = ':' && (isGap next || (inFlow && (",[]\x7b\x7d".toList.contains next)))) ||
    (inFlow && (",?[]\x7b\x7d".toList.contains c))

/-- The characters of a plain scalar up to its end or a blank. -/
def plainWord
    (inFlow : Bool)
    (done : List Char) : List Char → List Char
  | [] => done.reverse
  | c :: rest =>
    if endsPlain inFlow c (rest.headD '\x00') then done.reverse
    else plainWord inFlow (c :: done) rest

/-- The empty lines inside a plain scalar, or nothing when a document marker ends it. -/
def plainBreaks
    (done : List Char) : Nat → Read (Option (List Char))
  | 0 => return some done
  | fuel + 1 => do
    let c ← peek 0
    if c = ' ' then
      forward 1
      plainBreaks done fuel
    else if isBreak c then
      let line ← lineBreak
      if ← atMarker then
        return none
      else
        plainBreaks (done ++ line) fuel
    else
      return some done

/-- The blanks after a word of a plain scalar: a line end becomes a space, further ones are kept. -/
def plainBlanks : Read (List Char) := do
  let blanks ← takeWhile (· = ' ')
  if isBreak (← peek 0) then
    let line ← lineBreak
    setMayStartKey true
    if ← atMarker then
      return []
    else
      match ← plainBreaks [] (← bound) with
      | none => return []
      | some breaks =>
        if line != ['\n'] then
          return line ++ breaks
        else if breaks.isEmpty then
          return [' ']
        else
          return breaks
  else
    return blanks

/-- The words of a plain scalar and the blanks between them; pieces read are kept in reverse. -/
def plainWords
    (column : Int)
    (blanks : List Char)
    (done : List (List Char)) : Nat → Read (List Char)
  | 0 => return done.reverse.flatten
  | fuel + 1 => do
    let reader ← get
    let inFlow := reader.flowLevel != 0
    if (← peek 0) = '#' then
      return done.reverse.flatten
    else
      let word := plainWord inFlow [] reader.rest
      if word.isEmpty then
        return done.reverse.flatten
      else
        setMayStartKey false
        forward word.length
        let done := word :: blanks :: done
        let following ← plainBlanks
        if following.isEmpty || (← peek 0) = '#' ||
            (!inFlow && ((← get).column : Int) < column) then
          return done.reverse.flatten
        else
          plainWords column following done fuel

/-- A plain scalar. -/
def plainScalar : Read Token := do
  let content ← plainWords ((← get).indent + 1) [] [] (← bound)
  return .scalar (.whole (String.ofList content)) true

end TypeCatalog.Yaml.Read
