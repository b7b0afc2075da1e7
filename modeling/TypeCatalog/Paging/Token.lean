import TypeCatalog.Digest.Sha256
import TypeCatalog.Encoding.Base64
import TypeCatalog.Limits
import TypeCatalog.Report.Error
import TypeCatalog.Text.Split

namespace TypeCatalog

/-!
# Continuation tokens

A token holds the offset of the next page and a salt that binds it to its query: the first digits
of the digest of everything about the query but the position.  A token is honoured only under its
own salt; any other token is an error and never the start of a listing.
-/

/-- A token. -/
structure ContinuationToken where
  offset : Int
  salt : String
deriving Repr, DecidableEq

namespace ContinuationToken

/-- The offset and the salt with a colon between them. -/
def plainText (token : ContinuationToken) : String :=
  Text.signedDecimal token.offset ++ ":" ++ token.salt

/-- The text of a token. -/
def text (token : ContinuationToken) : String :=
  Base64.encode token.plainText

/-- The text of a token, unless its offset has too many digits to be written or its salt holds
characters that a token cannot. -/
def encode (token : ContinuationToken) : Except Crash String :=
  if Text.isTooLong token.offset then
    .error ⟨.invalidValue, Text.tooLongToWriteMessage⟩
  else
    match Text.encodeAscii token.plainText with
    | .error fault => .error ⟨.unencodable, fault.message⟩
    | .ok _ => .ok token.text

/-- The salt of a query. -/
def saltOf (queryKey : String) : String :=
  Text.take Limits.saltLength (Digest.sha256Text queryKey)

/-- Why a text is no token. -/
inductive Fault where
  | unencodable (fault : Text.CodingFault)
  | notBase64 (fault : Base64.Fault)
  | undecodable (fault : Text.CodingFault)
  | fieldCount
  | offset
  | missingSalt
deriving Repr, DecidableEq

/-- The wording of a fault. -/
def Fault.message : Fault → String
  | .unencodable fault => "not a token: " ++ fault.message
  | .notBase64 fault => "not a token: " ++ fault.message
  | .undecodable fault => "not a token: " ++ fault.message
  | .fieldCount => "wrong field count"
  | .offset => "offset is not a non-negative integer"
  | .missingSalt => "missing salt"

/-- What reading a text as a token gives: a token, a fault, or an offset with more digits than are
converted. -/
inductive Decoded where
  | token (token : ContinuationToken)
  | invalid (fault : Fault)
  | tooManyDigits (digits : Nat)
deriving Repr

/-- Reads the two fields of a token. -/
def ofFields : List (List Char) → Decoded
  | [offset, salt] =>
    if offset.isEmpty || !offset.all Text.isDecimalDigit then
      .invalid .offset
    else if salt.isEmpty then
      .invalid .missingSalt
    else if offset.length > Text.digitLimit then
      .tooManyDigits offset.length
    else
      .token ⟨Text.numberOfDigits offset, String.ofList salt⟩
  | _ => .invalid .fieldCount

/-- Reads a text as a token. -/
def decode (text : String) : Decoded :=
  match Text.encodeAscii text with
  | .error fault => .invalid (.unencodable fault)
  | .ok _ =>
    match Base64.decode text.toList with
    | .error fault => .invalid (.notBase64 fault)
    | .ok bytes =>
      match Text.decodeAscii bytes with
      | .error fault => .invalid (.undecodable fault)
      | .ok plain => ofFields (Text.pieces ':' plain.toList)

/-- Why a token of another query is refused. -/
def foreignReason : String :=
  "token was issued for a different query; " ++
    "repeat the original parameters or start again without a token"

/-- Where a page starts: where its token says, else after the skipped items.  An empty token counts
as none. -/
def resolveOffset
    (skip? : Option Int)
    (token? : Option String)
    (salt : String) : Except Failure Int :=
  if (token?.getD "").isEmpty then
    .ok (skip?.getD 0)
  else
    match decode (token?.getD "") with
    | .invalid fault => .error (.reported (.invalidToken fault.message))
    | .tooManyDigits digits =>
      .error (.crashed ⟨.invalidValue, Text.tooManyDigitsMessage digits⟩)
    | .token token =>
      if token.salt = salt then
        .ok token.offset
      else
        .error (.reported (.invalidToken foreignReason))

end ContinuationToken

end TypeCatalog
