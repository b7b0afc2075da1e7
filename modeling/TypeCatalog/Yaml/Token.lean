import TypeCatalog.Crash
import TypeCatalog.Text.Utf8
import TypeCatalog.Text.Written

namespace TypeCatalog.Yaml

/-!
# Tokens of a document

A document is cut into tokens while columns are compared: block collections start and end where the
indentation changes, and a mapping key is recognized only when its colon is met, so the token that
announces it is put in front of tokens already read.
-/

/-- Why a document cannot be read: it breaks a rule of the format, or a scalar in it stands for no
value. -/
inductive Fault where
  | malformed
  | crashed (crash : Crash)
deriving Repr, DecidableEq

/-- A token. -/
inductive Token where
  | version (major : Nat)
  | tagHandle (handle replacement : String)
  | otherDirective
  | documentStart
  | documentEnd
  | sequenceStart
  | sequenceEnd
  | mappingStart
  | mappingEnd
  | separator
  | blockSequenceStart
  | blockMappingStart
  | blockEnd
  | entry
  | key
  | value
  | alias (name : String)
  | anchor (name : String)
  | tag (handle? : Option String) (suffix : String)
  | scalar (content : Text.Written) (isPlain : Bool)
deriving Repr, DecidableEq

/-- A place where a mapping key may have started. -/
structure KeyCandidate where
  tokenNumber : Nat
  isRequired : Bool
  index : Nat
  line : Nat
  column : Nat
deriving Repr

/-- Where reading stands: the characters that are left, how many the text has and how many of them
are read, and what is open there. -/
structure Reader where
  rest : List Char
  length : Nat
  index : Nat
  line : Nat
  column : Nat
  flowLevel : Nat
  indent : Int
  indents : List Int
  mayStartKey : Bool
  candidates : List (Nat × KeyCandidate)
  tokens : Array Token

/-- Reading steps, which may find a fault; the tokens read before it are kept. -/
abbrev Read (α : Type) : Type :=
  ExceptT Fault (StateM Reader) α

/-- Characters that end a line. -/
def isBreak (c : Char) : Bool :=
  c = '\n' || c = '\r' || c = '\x85' || c = '\u2028' || c = '\u2029'

/-- The end of the text or of a line. -/
def endsLine (c : Char) : Bool :=
  c = '\x00' || isBreak c

/-- The end of the text or of a line, or a space. -/
def endsWord (c : Char) : Bool :=
  c = ' ' || endsLine c

/-- The end of the text or of a line, a space or a tab. -/
def isGap (c : Char) : Bool :=
  c = '\t' || endsWord c

/-- Characters of anchors and tag handles. -/
def isNameCharacter (c : Char) : Bool :=
  Text.isDecimalDigit c || ('A' ≤ c && c ≤ 'Z') || ('a' ≤ c && c ≤ 'z') || c = '-' || c = '_'

/-- Characters that a document may hold. -/
def isAllowed (c : Char) : Bool :=
  c = '\t' || c = '\n' || c = '\r' || (0x20 ≤ c.toNat && c.toNat ≤ 0x7E) || c.toNat = 0x85 ||
    (0xA0 ≤ c.toNat && c.toNat ≤ 0xD7FF) || (0xE000 ≤ c.toNat && c.toNat ≤ 0xFFFD) ||
    0x10000 ≤ c.toNat

/-- Before the first character. -/
def Reader.start (text : String) : Reader :=
  ⟨text.toList, text.length, 0, 0, 0, 0, -1, [], true, [], #[]⟩

/-- Moves over one character. -/
def Reader.step (reader : Reader) : Reader :=
  match reader.rest with
  | [] => { reader with index := reader.index + 1 }
  | c :: rest =>
    if c = '\n' || c = '\x85' || c = '\u2028' || c = '\u2029' ||
        (c = '\r' && rest.head? != some '\n') then
      { reader with rest := rest, index := reader.index + 1, line := reader.line + 1, column := 0 }
    else if c = '\uFEFF' then
      { reader with rest := rest, index := reader.index + 1 }
    else
      { reader with rest := rest, index := reader.index + 1, column := reader.column + 1 }

/-- Moves over several characters. -/
def Reader.steps : Nat → Reader → Reader
  | 0, reader => reader
  | count + 1, reader => steps count reader.step

/-- Whether a candidate lies on an earlier line or too far back. -/
def Reader.isStale
    (reader : Reader)
    (candidate : KeyCandidate) : Bool :=
  candidate.line != reader.line || reader.index - candidate.index > 1024

namespace Read

/-- Fails on a broken rule. -/
def malformed {α : Type} : Read α :=
  throw .malformed

/-- The character so many places ahead; the text ends in a null character. -/
def peek (distance : Nat) : Read Char := do
  return (← get).rest.getD distance '\x00'

/-- The next three characters. -/
def nextThree : Read (List Char) := do
  return (← get).rest.take 3

/-- Moves over so many characters. -/
def forward (count : Nat) : Read Unit :=
  modify (Reader.steps count)

/-- Takes the characters of a class. -/
def takeWhile (accepts : Char → Bool) : Read (List Char) := do
  let taken := (← get).rest.takeWhile accepts
  forward taken.length
  return taken

/-- Skips the characters of a class. -/
def skipWhile (accepts : Char → Bool) : Read Unit := do
  let _ ← takeWhile accepts

/-- Takes so many characters. -/
def take (count : Nat) : Read (List Char) := do
  let taken := (← get).rest.take count
  forward count
  return taken

/-- A bound for loops that move forward with each turn. -/
def bound : Read Nat := do
  let reader ← get
  return reader.length - reader.index + 1

/-- Adds a token. -/
def emit (token : Token) : Read Unit :=
  modify fun reader => { reader with tokens := reader.tokens.push token }

/-- Moves over a line end, if one is next, and says how it reads: line ends of the usual kinds are
line feeds. -/
def lineBreak : Read (List Char) := do
  let c ← peek 0
  if c = '\r' && (← peek 1) = '\n' then
    forward 2
    return ['\n']
  else if c = '\r' || c = '\n' || c = '\x85' then
    forward 1
    return ['\n']
  else if c = '\u2028' || c = '\u2029' then
    forward 1
    return [c]
  else
    return []

/-- Moves to the end of a line on which nothing but blanks and a comment may follow. -/
def restOfLine : Read Unit := do
  skipWhile (· = ' ')
  if (← peek 0) = '#' then
    skipWhile fun c => !endsLine c
  if endsLine (← peek 0) then
    let _ ← lineBreak
  else
    malformed

/-- Whether a document marker stands here. -/
def atMarker : Read Bool := do
  let three ← nextThree
  return (three = ['-', '-', '-'] || three = ['.', '.', '.']) && isGap (← peek 3)

/-! ## Candidates for keys -/

/-- Drops the candidate of the current level; one that had to become a key is a fault. -/
def dropCandidate : Read Unit := do
  let reader ← get
  match reader.candidates.find? fun candidate => candidate.1 = reader.flowLevel with
  | none => return ()
  | some candidate =>
    if candidate.2.isRequired then
      malformed
    else
      set { reader with
        candidates := reader.candidates.filter fun other => other.1 != reader.flowLevel }

/-- Drops candidates that lie on an earlier line or too far back. -/
def dropStaleCandidates : Read Unit := do
  let reader ← get
  if reader.candidates.any fun candidate =>
      reader.isStale candidate.2 && candidate.2.isRequired then
    malformed
  else
    set
      { reader with
        candidates := reader.candidates.filter fun candidate => !reader.isStale candidate.2 }

/-- Notes that a key may start here. -/
def saveCandidate : Read Unit := do
  let reader ← get
  let isRequired := reader.flowLevel = 0 && reader.indent = reader.column
  if reader.mayStartKey then
    dropCandidate
    modify fun reader =>
      { reader with
        candidates :=
          (reader.flowLevel,
            ⟨reader.tokens.size, isRequired, reader.index, reader.line, reader.column⟩) ::
            reader.candidates }

/-- Says whether a key may start next. -/
def setMayStartKey (truth : Bool) : Read Unit :=
  modify fun reader => { reader with mayStartKey := truth }

/-! ## Indentation -/

/-- Ends the block collections that are indented deeper than a column. -/
def closeBlocks
    (column : Int) : Nat → Read Unit
  | 0 => return ()
  | fuel + 1 => do
    let reader ← get
    if reader.flowLevel = 0 && reader.indent > column then
      set
        { reader with
          indent := reader.indents.headD (-1)
          indents := reader.indents.tail
          tokens := reader.tokens.push .blockEnd }
      closeBlocks column fuel

/-- Ends the block collections that are indented deeper than a column. -/
def unwind (column : Int) : Read Unit := do
  closeBlocks column ((← get).indents.length + 1)

/-- Starts a deeper indentation at a column, if it is deeper. -/
def addIndent (column : Nat) : Read Bool := do
  let reader ← get
  if reader.indent < column then
    set { reader with indents := reader.indent :: reader.indents, indent := column }
    return true
  else
    return false

end Read

end TypeCatalog.Yaml
