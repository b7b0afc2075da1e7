import TypeCatalog.Yaml.ScalarText

namespace TypeCatalog.Yaml

/-!
# Reading tokens

Each step skips blanks and comments, closes the block collections that have ended, and reads the
token that starts with the next character.
-/

namespace Read

/-! ## Directives, anchors and tags -/

/-- A number in a version. -/
def versionNumber : Read Nat := do
  let digits ← takeWhile Text.isDecimalDigit
  if digits.isEmpty then
    malformed
  else if digits.length > Text.digitLimit then
    throw (.crashed ⟨.invalidValue, Text.tooManyDigitsMessage digits.length⟩)
  else
    return Text.numberOfDigits digits

/-- The version that a document claims to follow. -/
def versionDirective : Read Token := do
  skipWhile (· = ' ')
  let major ← versionNumber
  if (← peek 0) = '.' then
    forward 1
    let _ ← versionNumber
    if endsWord (← peek 0) then return .version major else malformed
  else
    malformed

/-- A handle: `!`, or a name between two exclamation marks. -/
def handle : Read String := do
  if (← peek 0) != '!' then
    malformed
  else
    let rest := (← get).rest
    if (← peek 1) = ' ' then
      forward 1
      return "!"
    else
      let name := (rest.drop 1).takeWhile isNameCharacter
      if (← peek (name.length + 1)) = '!' then
        return String.ofList (← take (name.length + 2))
      else
        malformed

/-- Characters of a tag besides letters and digits. -/
def tagPunctuation : List Char :=
  "-;/?:@&=+$,_.!~*'()[]".toList

/-- Whether a character may stand in a tag as it is. -/
def isTagCharacter (c : Char) : Bool :=
  isNameCharacter c || tagPunctuation.contains c

/-- Bytes written as percent signs and two digits each; bytes read are kept in reverse. -/
def percentBytes
    (done : List Nat) : Nat → Read (List Nat)
  | 0 => malformed
  | fuel + 1 => do
    if (← peek 0) = '%' then
      forward 1
      let digits ← take 2
      if digits.length = 2 && digits.all fun d => (Text.hexadecimalDigit? d).isSome then
        percentBytes (Text.numberInBase 16 digits :: done) fuel
      else
        malformed
    else
      return done.reverse

/-- The text of a tag; pieces read are kept in reverse. -/
def tagPieces
    (done : List String) : Nat → Read (List String)
  | 0 => malformed
  | fuel + 1 => do
    let c ← peek 0
    if c = '%' then
      let bytes ← percentBytes [] (← bound)
      match Text.decodeUtf8 bytes with
      | .ok piece => tagPieces (piece :: done) fuel
      | .error _ => malformed
    else if isTagCharacter c then
      let piece ← takeWhile isTagCharacter
      tagPieces (String.ofList piece :: done) fuel
    else
      return done.reverse

/-- The text of a tag, which is not empty. -/
def tagText : Read String := do
  let pieces ← tagPieces [] (← bound)
  if pieces.isEmpty then malformed else return String.join pieces

/-- A handle and what it stands for. -/
def handleDirective : Read Token := do
  skipWhile (· = ' ')
  let name ← handle
  if (← peek 0) != ' ' then
    malformed
  else
    skipWhile (· = ' ')
    let replacement ← tagText
    if endsWord (← peek 0) then return .tagHandle name replacement else malformed

/-- A directive. -/
def directive : Read Token := do
  forward 1
  let name ← takeWhile isNameCharacter
  if name.isEmpty || !endsWord (← peek 0) then
    malformed
  else
    let token ←
      if name = "YAML".toList then
        versionDirective
      else if name = "TAG".toList then
        handleDirective
      else do
        skipWhile fun c => !endsLine c
        pure .otherDirective
    restOfLine
    return token

/-- The name of an anchor or an alias. -/
def anchorName : Read String := do
  forward 1
  let name ← takeWhile isNameCharacter
  let next ← peek 0
  if name.isEmpty || !(isGap next || "?:,]\x7d%@`".toList.contains next) then
    malformed
  else
    return String.ofList name

/-- A tag. -/
def tagToken : Read Token := do
  let next ← peek 1
  let token ←
    if next = '<' then do
      forward 2
      let suffix ← tagText
      if (← peek 0) = '>' then
        forward 1
        pure (Token.tag none suffix)
      else
        malformed
    else if isGap next then do
      forward 1
      pure (.tag none "!")
    else do
      let word := ((← get).rest.drop 1).takeWhile fun c => !endsWord c
      if word.contains '!' then
        let name ← handle
        pure (.tag (some name) (← tagText))
      else
        forward 1
        pure (.tag (some "!") (← tagText))
  if endsWord (← peek 0) then return token else malformed

/-! ## One token -/

/-- Skips blanks, comments and line ends up to the next token. -/
def toNextToken : Nat → Read Unit
  | 0 => return ()
  | fuel + 1 => do
    skipWhile (· = ' ')
    if (← peek 0) = '#' then
      skipWhile fun c => !endsLine c
    let line ← lineBreak
    if !line.isEmpty then
      if (← get).flowLevel = 0 then
        setMayStartKey true
      toNextToken fuel

/-- Before a directive or a document marker everything open ends. -/
def closeDocument : Read Unit := do
  unwind (-1)
  dropCandidate
  setMayStartKey false

/-- A document marker. -/
def marker (token : Token) : Read Unit := do
  closeDocument
  forward 3
  emit token

/-- The start of a collection in brackets. -/
def openFlow (token : Token) : Read Unit := do
  saveCandidate
  modify fun reader => { reader with flowLevel := reader.flowLevel + 1, mayStartKey := true }
  forward 1
  emit token

/-- The end of a collection in brackets. -/
def closeFlow (token : Token) : Read Unit := do
  dropCandidate
  modify fun reader => { reader with flowLevel := reader.flowLevel - 1, mayStartKey := false }
  forward 1
  emit token

/-- The comma between items in brackets. -/
def separator : Read Unit := do
  setMayStartKey true
  dropCandidate
  forward 1
  emit .separator

/-- In block context a mark may stand only where a key may start; it starts a collection when it is
indented deeper. -/
def openBlock (token : Token) : Read Unit := do
  let reader ← get
  if reader.flowLevel = 0 then
    if !reader.mayStartKey then
      malformed
    else if ← addIndent reader.column then
      emit token

/-- The mark of an entry of a block sequence. -/
def entryMark : Read Unit := do
  openBlock .blockSequenceStart
  setMayStartKey true
  dropCandidate
  forward 1
  emit .entry

/-- The mark of a key. -/
def keyMark : Read Unit := do
  openBlock .blockMappingStart
  setMayStartKey ((← get).flowLevel = 0)
  dropCandidate
  forward 1
  emit .key

/-- The mark of a value.  If a key may have started earlier, it did. -/
def valueMark : Read Unit := do
  let reader ← get
  match reader.candidates.find? fun candidate => candidate.1 = reader.flowLevel with
  | some (_, candidate) =>
    set
      { reader with
        candidates := reader.candidates.filter fun other => other.1 != reader.flowLevel
        tokens := reader.tokens.insertIdxIfInBounds candidate.tokenNumber .key }
    if reader.flowLevel = 0 then
      if ← addIndent candidate.column then
        modify fun reader =>
          { reader with
            tokens :=
              reader.tokens.insertIdxIfInBounds candidate.tokenNumber .blockMappingStart }
    setMayStartKey false
  | none =>
    openBlock .blockMappingStart
    setMayStartKey ((← get).flowLevel = 0)
    dropCandidate
  forward 1
  emit .value

/-- A token that may be a key. -/
def possibleKey (read : Read Token) : Read Unit := do
  saveCandidate
  setMayStartKey false
  let token ← read
  emit token

/-- A block scalar, which is no key. -/
def blockScalarToken (isFolded : Bool) : Read Unit := do
  setMayStartKey true
  dropCandidate
  let token ← blockScalar isFolded
  emit token

/-- Whether a plain scalar may start with a character. -/
def startsPlain
    (inFlow : Bool)
    (c next : Char) : Bool :=
  !(isGap c || "-?:,[]\x7b\x7d#&*!|>'\"%@`".toList.contains c) ||
    (!isGap next && (c = '-' || (!inFlow && (c = '?' || c = ':'))))

/-- Reads the next token; says whether the text goes on. -/
def next : Read Bool := do
  toNextToken (← bound)
  dropStaleCandidates
  let reader ← get
  unwind reader.column
  let c ← peek 0
  let following ← peek 1
  let inFlow := reader.flowLevel != 0
  let three ← nextThree
  let marked := reader.column = 0 && isGap (← peek 3)
  if reader.rest.isEmpty then
    closeDocument
    return false
  else
    if c = '%' && reader.column = 0 then
      closeDocument
      emit (← directive)
    else if marked && three = ['-', '-', '-'] then marker .documentStart
    else if marked && three = ['.', '.', '.'] then marker .documentEnd
    else if c = '[' then openFlow .sequenceStart
    else if c = '\x7b' then openFlow .mappingStart
    else if c = ']' then closeFlow .sequenceEnd
    else if c = '\x7d' then closeFlow .mappingEnd
    else if c = ',' then separator
    else if c = '-' && isGap following then entryMark
    else if c = '?' && (inFlow || isGap following) then keyMark
    else if c = ':' && (inFlow || isGap following) then valueMark
    else if c = '*' then possibleKey (do return .alias (← anchorName))
    else if c = '&' then possibleKey (do return .anchor (← anchorName))
    else if c = '!' then possibleKey tagToken
    else if c = '|' && !inFlow then blockScalarToken false
    else if c = '>' && !inFlow then blockScalarToken true
    else if c = '\'' || c = '"' then possibleKey (quotedScalar c)
    else if startsPlain inFlow c following then possibleKey plainScalar
    else malformed
    return true

end Read

/-- Skips the mark that some writers put at the start of a text. -/
def Reader.afterMark (reader : Reader) : Reader :=
  if reader.rest.head? = some '\uFEFF' then reader.step else reader

/-- How many tokens are settled: all before the first one in front of which a key may still have to
be announced. -/
def Reader.settledTokens (reader : Reader) : Nat :=
  reader.candidates.foldl
    (fun least candidate =>
      if reader.isStale candidate.2 then least else min least candidate.2.tokenNumber)
    reader.tokens.size

/-- The tokens of a text, and the fault that stands after them, if there is one. -/
structure TokenStream where
  tokens : List Token
  fault? : Option Fault

namespace TokenStream

/-- Reads tokens to the end of the text or to a fault. -/
def readFrom : Nat → Reader → TokenStream
  | 0, reader => ⟨reader.tokens.toList, some .malformed⟩
  | fuel + 1, reader =>
    let settled := reader.settledTokens
    match Read.next.run.run reader with
    | (.ok true, reader) => readFrom fuel reader
    | (.ok false, reader) => ⟨reader.tokens.toList, none⟩
    | (.error fault, reader) => ⟨reader.tokens.toList.take settled, some fault⟩

/-- The tokens of a text. -/
def ofText (text : String) : TokenStream :=
  if text.toList.all isAllowed then
    readFrom (text.length + 2) (Reader.start text).afterMark
  else
    ⟨[], some .malformed⟩

end TokenStream

end TypeCatalog.Yaml
