import TypeCatalog.Text.Numeral

namespace TypeCatalog.Text

/-!
# Bytes and text

UTF-8 and ASCII in both directions.  A failed conversion tells which bytes or characters are at
fault and why.
-/

/-- Why bytes or characters could not be converted. -/
inductive CodingFault where
  /-- Bytes from `first` to `last` are no character in UTF-8. -/
  | undecodable (charset : String) (byte first last : Nat) (reason : String)
  /-- Characters from `first` to `last` have no bytes in a charset. -/
  | unencodable (charset : String) (character first last : Nat) (reason : String)
deriving Repr, DecidableEq

/-- A character as it is named in a fault. -/
def escapedCodePoint (point : Nat) : String :=
  if point < 0x100 then "\\x" ++ hexadecimal 2 point
  else if point < 0x10000 then "\\u" ++ hexadecimal 4 point
  else "\\U" ++ hexadecimal 8 point

/-- The wording of a fault. -/
def CodingFault.message : CodingFault → String
  | .undecodable charset byte first last reason =>
    if first = last then
      "'" ++ charset ++ "' codec can't decode byte 0x" ++ hexadecimal 2 byte ++ " in position " ++
        decimal first ++ ": " ++ reason
    else
      "'" ++ charset ++ "' codec can't decode bytes in position " ++ decimal first ++ "-" ++
        decimal last ++ ": " ++ reason
  | .unencodable charset character first last reason =>
    if first = last then
      "'" ++ charset ++ "' codec can't encode character '" ++ escapedCodePoint character ++
        "' in position " ++ decimal first ++ ": " ++ reason
    else
      "'" ++ charset ++ "' codec can't encode characters in position " ++ decimal first ++ "-" ++
        decimal last ++ ": " ++ reason

/-- Whether the class of a fault is one of decoding. -/
def CodingFault.isDecoding : CodingFault → Bool
  | .undecodable .. => true
  | .unencodable .. => false

/-- The bytes of one code point in UTF-8. -/
def utf8Character (c : Char) : List Nat :=
  let point := c.toNat
  if point < 0x80 then
    [point]
  else if point < 0x800 then
    [0xC0 + point / 64, 0x80 + point % 64]
  else if point < 0x10000 then
    [0xE0 + point / 4096, 0x80 + point / 64 % 64, 0x80 + point % 64]
  else
    [0xF0 + point / 262144, 0x80 + point / 4096 % 64, 0x80 + point / 64 % 64, 0x80 + point % 64]

/-- The bytes of a text in UTF-8. -/
def utf8Bytes (text : String) : List Nat :=
  text.toList.flatMap utf8Character

/-- The lead byte of a character: how many bytes follow it, what it contributes, and the range of
the byte after it. -/
def leadByte? (byte : Nat) : Option (Nat × Nat × Nat × Nat) :=
  if 0xC2 ≤ byte && byte ≤ 0xDF then some (1, byte - 0xC0, 0x80, 0xBF)
  else if byte = 0xE0 then some (2, 0, 0xA0, 0xBF)
  else if byte = 0xED then some (2, 0xD, 0x80, 0x9F)
  else if 0xE1 ≤ byte && byte ≤ 0xEF then some (2, byte - 0xE0, 0x80, 0xBF)
  else if byte = 0xF0 then some (3, 0, 0x90, 0xBF)
  else if byte = 0xF4 then some (3, 4, 0x80, 0x8F)
  else if 0xF1 ≤ byte && byte ≤ 0xF3 then some (3, byte - 0xF0, 0x80, 0xBF)
  else none

/-- Where the decoder stands inside the bytes. -/
structure DecoderState where
  /-- Characters read so far, the last one first. -/
  done : List Char
  /-- Position of the next byte. -/
  position : Nat
  /-- The character that is being read: its lead byte, the bytes of it already read, the bytes
  still missing, its value so far and the range of the next byte. -/
  open? : Option (Nat × Nat × Nat × Nat × Nat × Nat)
deriving Repr

/-- Takes one byte. -/
def DecoderState.step
    (state : DecoderState)
    (byte : Nat) : Except CodingFault DecoderState :=
  match state.open? with
  | none =>
    if byte < 0x80 then
      .ok ⟨Char.ofNat byte :: state.done, state.position + 1, none⟩
    else
      match leadByte? byte with
      | some (missing, value, low, high) =>
        .ok ⟨state.done, state.position + 1, some (byte, 1, missing, value, low, high)⟩
      | none =>
        .error (.undecodable "utf-8" byte state.position state.position "invalid start byte")
  | some (lead, taken, missing, value, low, high) =>
    if low ≤ byte && byte ≤ high then
      if missing = 1 then
        .ok ⟨Char.ofNat (value * 64 + (byte - 0x80)) :: state.done, state.position + 1, none⟩
      else
        .ok
          ⟨state.done,
            state.position + 1,
            some (lead, taken + 1, missing - 1, value * 64 + (byte - 0x80), 0x80, 0xBF)⟩
    else
      .error
        (.undecodable "utf-8" lead (state.position - taken) (state.position - 1)
          "invalid continuation byte")

/-- Decodes bytes as UTF-8. -/
def decodeUtf8 (bytes : List Nat) : Except CodingFault String := do
  let final ← bytes.foldlM DecoderState.step ⟨[], 0, none⟩
  match final.open? with
  | none => .ok (String.ofList final.done.reverse)
  | some (lead, taken, _) =>
    .error
      (.undecodable "utf-8" lead (final.position - taken) (final.position - 1)
        "unexpected end of data")

/-- The bytes of an ASCII text.  The fault names the first stretch of other characters. -/
def encodeAscii (text : String) : Except CodingFault (List Nat) :=
  let characters := text.toList
  match characters.findIdx? (·.toNat ≥ 0x80) with
  | none => .ok (characters.map Char.toNat)
  | some first =>
    let stretch := (characters.drop first).takeWhile (·.toNat ≥ 0x80)
    .error
      (.unencodable "ascii" ((stretch.head?.map Char.toNat).getD 0) first
        (first + stretch.length - 1) "ordinal not in range(128)")

/-- Decodes bytes as ASCII. -/
def decodeAscii (bytes : List Nat) : Except CodingFault String :=
  match bytes.findIdx? (· ≥ 0x80) with
  | none => .ok (String.ofList (bytes.map Char.ofNat))
  | some first =>
    .error (.undecodable "ascii" (bytes.getD first 0) first first "ordinal not in range(128)")

end TypeCatalog.Text
