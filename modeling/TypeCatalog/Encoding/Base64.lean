import TypeCatalog.Text.Utf8

namespace TypeCatalog.Base64

/-!
# Base64

Three bytes are written as four characters.  Writing uses the alphabet with `-` and `_`; reading
takes `+` and `/` as well, and is strict about padding: it accepts no character outside the
alphabet and only the padding that writing would produce.
-/

/-- The character of a value below sixty-four. -/
def digit (value : Nat) : Char :=
  if value < 26 then Char.ofNat (65 + value)
  else if value < 52 then Char.ofNat (97 + (value - 26))
  else if value < 62 then Char.ofNat (48 + (value - 52))
  else if value = 62 then '-'
  else '_'

/-- The value of a character of the alphabet. -/
def digitValue? (c : Char) : Option Nat :=
  if 'A' ≤ c && c ≤ 'Z' then some (c.toNat - 65)
  else if 'a' ≤ c && c ≤ 'z' then some (c.toNat - 97 + 26)
  else if '0' ≤ c && c ≤ '9' then some (c.toNat - 48 + 52)
  else if c = '-' || c = '+' then some 62
  else if c = '_' || c = '/' then some 63
  else none

/-- Writes bytes. -/
def encodeBytes : List Nat → List Char
  | a :: b :: c :: rest =>
    digit (a / 4) :: digit (a % 4 * 16 + b / 16) :: digit (b % 16 * 4 + c / 64) ::
      digit (c % 64) :: encodeBytes rest
  | [a, b] => [digit (a / 4), digit (a % 4 * 16 + b / 16), digit (b % 16 * 4), '=']
  | [a] => [digit (a / 4), digit (a % 4 * 16), '=', '=']
  | [] => []

/-- Writes a text by way of its UTF-8 bytes. -/
def encode (text : String) : String :=
  String.ofList (encodeBytes (Text.utf8Bytes text))

/-- Why a text is not Base64. -/
inductive Fault where
  | leadingPadding
  | excessAfterPadding
  | outsideAlphabet
  | interruptedPadding
  | loneCharacter (characters : Nat)
  | missingPadding
deriving Repr, DecidableEq

/-- The wording of a fault. -/
def Fault.message : Fault → String
  | .leadingPadding => "Leading padding not allowed"
  | .excessAfterPadding => "Excess data after padding"
  | .outsideAlphabet => "Only base64 data is allowed"
  | .interruptedPadding => "Discontinuous padding not allowed"
  | .loneCharacter characters =>
    "Invalid base64-encoded string: number of data characters (" ++ Text.decimal characters ++
      ") cannot be 1 more than a multiple of 4"
  | .missingPadding => "Incorrect padding"

/-- Where reading stands. -/
structure ReaderState where
  /-- Bytes read so far, the last one first. -/
  done : List Nat
  /-- How many characters of the current group of four were read. -/
  quad : Nat
  /-- Bits of the current group that are not yet part of a byte. -/
  carry : Nat
  /-- Padding read since the last character of the alphabet. -/
  pads : Nat
  /-- Whether any padding was read. -/
  padded : Bool
deriving Repr

/-- Takes one character of the alphabet. -/
def ReaderState.push
    (state : ReaderState)
    (value : Nat) : ReaderState :=
  match state.quad with
  | 0 => ⟨state.done, 1, value, 0, state.padded⟩
  | 1 => ⟨(state.carry * 4 + value / 16) :: state.done, 2, value % 16, 0, state.padded⟩
  | 2 => ⟨(state.carry * 16 + value / 4) :: state.done, 3, value % 4, 0, state.padded⟩
  | _ => ⟨(state.carry * 64 + value) :: state.done, 0, 0, 0, state.padded⟩

/-- Reads the characters that remain. -/
def read
    (state : ReaderState) : List Char → Except Fault (List Nat)
  | [] =>
    if state.quad = 0 then
      .ok state.done.reverse
    else if state.quad = 1 then
      .error (.loneCharacter (state.done.length / 3 * 4 + 1))
    else
      .error .missingPadding
  | '=' :: rest =>
    if state.quad ≥ 2 && state.quad + (state.pads + 1) ≥ 4 then
      if rest.isEmpty then .ok state.done.reverse else .error .excessAfterPadding
    else
      read
        ⟨state.done, state.quad, state.carry,
          if state.quad ≥ 2 then state.pads + 1 else state.pads, true⟩
        rest
  | c :: rest =>
    match digitValue? c with
    | none => .error .outsideAlphabet
    | some value =>
      if state.padded then .error .interruptedPadding else read (state.push value) rest

/-- Reads a text as bytes. -/
def decode (characters : List Char) : Except Fault (List Nat) :=
  match characters with
  | '=' :: _ => .error .leadingPadding
  | _ => read ⟨[], 0, 0, 0, false⟩ characters

/-- Reads the characters that remain without looking at those outside the alphabet, which here has
`+` and `/`.  Nothing after full padding counts. -/
def readLoose
    (state : ReaderState) : List Char → Option (List Nat)
  | [] => if state.quad = 0 then some state.done.reverse else none
  | '=' :: rest =>
    if state.quad ≥ 2 && state.quad + (state.pads + 1) ≥ 4 then
      some state.done.reverse
    else
      readLoose
        ⟨state.done, state.quad, state.carry,
          if state.quad ≥ 2 then state.pads + 1 else state.pads, true⟩
        rest
  | c :: rest =>
    match if c = '-' || c = '_' then none else digitValue? c with
    | none => readLoose state rest
    | some value => readLoose (state.push value) rest

/-- Reads a text as bytes without looking at characters outside the alphabet. -/
def decodeLoose (characters : List Char) : Option (List Nat) :=
  readLoose ⟨[], 0, 0, 0, false⟩ characters

end TypeCatalog.Base64
