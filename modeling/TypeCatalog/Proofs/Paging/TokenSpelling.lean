import TypeCatalog.Paging.Token
import TypeCatalog.Proofs.Digest.Sha256
import TypeCatalog.Proofs.Encoding.Base64
import TypeCatalog.Proofs.Text.Numeral

namespace TypeCatalog

/-!
# Which texts are tokens

A text spells a token if it is the Base64 of decimal digits, a colon and a salt.  Every text either
spells a token, and reading it gives the number that the digits write, unless they are too many, or
it is refused for one of six reasons.  The tokens that pages carry are read back as they were.
-/

namespace Base64

private theorem toNat_lt_of_digitValue?
    {c : Char}
    {value : Nat}
    (isLetter : digitValue? c = some value) :
    c.toNat < 0x80 := by
  by_contra notSmall
  have above (last : Char) (small : last.toNat < 0x80) : ¬ c ≤ last := by
    intro below
    exact notSmall (Nat.lt_of_le_of_lt below small)
  have different (other : Char) (small : other.toNat < 0x80) : c ≠ other := by
    rintro rfl
    exact notSmall small
  simp [digitValue?, above, different, Char.toNat] at isLetter

/-- The characters of a text that spells bytes are ASCII characters. -/
theorem Spells.ascii
    {characters : List Char}
    {bytes : List Nat}
    (spells : Spells characters bytes) :
    ∀ c ∈ characters, c.toNat < 0x80 := by
  obtain ⟨letters, values, padding, rfl, areLetters, _, _⟩ := spells
  intro c member
  rcases List.mem_append.mp member with inLetters | inPadding
  · have isLetter : digitValue? c ∈ values.map some :=
      areLetters ▸ List.mem_map_of_mem inLetters
    obtain ⟨value, _, isValue⟩ := List.mem_map.mp isLetter
    exact toNat_lt_of_digitValue? isValue.symm
  · rw [List.eq_of_mem_replicate inPadding]
    decide

end Base64

namespace Text

theorem encodeAscii_of_ascii
    {text : String}
    (ascii : ∀ c ∈ text.toList, c.toNat < 0x80) :
    encodeAscii text = .ok (text.toList.map Char.toNat) := by
  have noneAbove : text.toList.findIdx? (·.toNat ≥ 0x80) = none := by
    rw [List.findIdx?_eq_none_iff]
    intro c member
    simpa using ascii c member
  simp only [encodeAscii, noneAbove]

theorem decodeAscii_map_toNat
    {characters : List Char}
    (ascii : ∀ c ∈ characters, c.toNat < 0x80) :
    decodeAscii (characters.map Char.toNat) = .ok (String.ofList characters) := by
  have noneAbove : (characters.map Char.toNat).findIdx? (· ≥ 0x80) = none := by
    rw [List.findIdx?_eq_none_iff]
    intro byte member
    obtain ⟨c, inCharacters, rfl⟩ := List.mem_map.mp member
    simpa using ascii c inCharacters
  simp only [decodeAscii, noneAbove, List.map_map]
  have readBack : characters.map (Char.ofNat ∘ Char.toNat) = characters := by
    simp [Function.comp_def]
  rw [readBack]

private theorem toNat_ofNat_of_lt : ∀ byte < 0x80, (Char.ofNat byte).toNat = byte := by
  decide

/-- Bytes that are decoded as ASCII are the numbers of ASCII characters. -/
theorem ascii_of_decodeAscii
    {bytes : List Nat}
    {plain : String}
    (decoded : decodeAscii bytes = .ok plain) :
    bytes = plain.toList.map Char.toNat ∧ ∀ c ∈ plain.toList, c.toNat < 0x80 := by
  unfold decodeAscii at decoded
  split at decoded
  · next noneAbove =>
      cases decoded
      have small : ∀ byte ∈ bytes, byte < 0x80 := by
        intro byte member
        simpa using List.findIdx?_eq_none_iff.mp noneAbove byte member
      have readBack : ∀ byte ∈ bytes, (Char.toNat ∘ Char.ofNat) byte = byte := fun byte member =>
        toNat_ofNat_of_lt byte (small byte member)
      rw [String.toList_ofList, List.map_map]
      constructor
      · exact ((List.map_congr_left readBack).trans (List.map_id' bytes)).symm
      · intro c member
        obtain ⟨byte, inBytes, rfl⟩ := List.mem_map.mp member
        rw [toNat_ofNat_of_lt byte (small byte inBytes)]
        exact small byte inBytes
  · cases decoded

end Text

namespace ContinuationToken

/-- A salt that can be read back: some ASCII characters and no colon. -/
structure ReadableSalt (salt : String) : Prop where
  some_characters : salt.toList ≠ []
  ascii : ∀ c ∈ salt.toList, c.toNat < 0x80
  colon_free : ':' ∉ salt.toList

/-- A text that spells a token. -/
structure Spells
    (text : String)
    (digits : List Char)
    (salt : String) : Prop where
  base64 : Base64.Spells text.toList ((digits ++ ':' :: salt.toList).map Char.toNat)
  some_digits : digits ≠ []
  decimal : ∀ c ∈ digits, Text.isDecimalDigit c = true
  readable : ReadableSalt salt

theorem ascii_of_isDecimalDigit
    {c : Char}
    (isDigit : Text.isDecimalDigit c = true) :
    c.toNat < 0x80 ∧ c ≠ ':' := by
  simp only [Text.isDecimalDigit, Bool.and_eq_true, decide_eq_true_eq] at isDigit
  constructor
  · exact Nat.lt_of_le_of_lt isDigit.2 (by decide)
  · rintro rfl
    exact absurd isDigit.2 (by decide)

/-- Digits and a readable salt are the fields of a token, unless there are too many digits. -/
theorem ofFields_of_digits
    {digits : List Char}
    {salt : String}
    (someDigits : digits ≠ [])
    (areDigits : ∀ c ∈ digits, Text.isDecimalDigit c = true)
    (readable : ReadableSalt salt) :
    ofFields [digits, salt.toList] =
      if digits.length ≤ Text.digitLimit then .token ⟨Text.numberOfDigits digits, salt⟩
      else .tooManyDigits digits.length := by
  have someSalt : salt.toList.isEmpty = false :=
    List.isEmpty_eq_false_iff.mpr readable.some_characters
  have allDigits : digits.all Text.isDecimalDigit = true :=
    List.all_eq_true.mpr areDigits
  simp only [ofFields, List.isEmpty_eq_false_iff.mpr someDigits, allDigits, someSalt,
    Bool.not_true, Bool.or_self, Bool.false_eq_true, if_false, gt_iff_lt, ← Nat.not_le, ite_not,
    String.ofList_toList]

/-- A text that spells a token is read as this token, unless its digits are too many. -/
theorem decode_of_spells
    {text salt : String}
    {digits : List Char}
    (spells : Spells text digits salt) :
    decode text =
      if digits.length ≤ Text.digitLimit then .token ⟨Text.numberOfDigits digits, salt⟩
      else .tooManyDigits digits.length := by
  have ascii : ∀ c ∈ digits ++ ':' :: salt.toList, c.toNat < 0x80 := by
    intro c member
    rcases List.mem_append.mp member with inDigits | inRest
    · exact (ascii_of_isDecimalDigit (spells.decimal c inDigits)).1
    · rcases List.mem_cons.mp inRest with rfl | inSalt
      · decide
      · exact spells.readable.ascii c inSalt
  have fields : Text.pieces ':' (digits ++ ':' :: salt.toList) = [digits, salt.toList] := by
    have joined :
        [':'].intercalate [digits, salt.toList] = digits ++ ':' :: salt.toList := by
      simp [List.intercalate]
    rw [← joined]
    refine Text.pieces_intercalate (by simp) ?_
    intro part member
    rcases List.mem_pair.mp member with rfl | rfl
    · exact fun isDigit => (ascii_of_isDecimalDigit (spells.decimal ':' isDigit)).2 rfl
    · exact spells.readable.colon_free
  simp only [decode, Text.encodeAscii_of_ascii spells.base64.ascii,
    Base64.decode_eq_ok_iff.mpr spells.base64, Text.decodeAscii_map_toNat ascii,
    String.toList_ofList, fields,
    ofFields_of_digits spells.some_digits spells.decimal spells.readable]

/-- The two fields of a plain text that is read as a token. -/
private theorem exists_spells_or_fault_of_fields
    {text plain : String}
    (base64 : Base64.Spells text.toList (plain.toList.map Char.toNat))
    (ascii : ∀ c ∈ plain.toList, c.toNat < 0x80) :
    (∃ digits salt, Spells text digits salt) ∨
      ∃ fault, ofFields (Text.pieces ':' plain.toList) = .invalid fault := by
  have joined := Text.intercalate_pieces ':' plain.toList
  have colonFree := @Text.mark_not_mem_of_mem_pieces ':' plain.toList
  generalize Text.pieces ':' plain.toList = fields at joined colonFree ⊢
  unfold ofFields
  split
  · next offset salt =>
      by_cases noNumber : (offset.isEmpty || !offset.all Text.isDecimalDigit) = true
      · exact .inr ⟨_, if_pos noNumber⟩
      · by_cases noSalt : salt.isEmpty = true
        · exact .inr ⟨_, by rw [if_neg noNumber, if_pos noSalt]⟩
        · left
          have plainIs : plain.toList = offset ++ ':' :: salt := by
            rw [← joined]
            simp [List.intercalate]
          simp only [Bool.or_eq_true, List.isEmpty_iff, Bool.not_eq_true', not_or,
            Bool.not_eq_false, List.all_eq_true] at noNumber
          refine ⟨offset, String.ofList salt, ?_, noNumber.1, noNumber.2, ?_, ?_, ?_⟩
          · rw [String.toList_ofList, ← plainIs]
            exact base64
          · rw [String.toList_ofList]
            exact mt List.isEmpty_iff.mpr noSalt
          · intro c member
            rw [String.toList_ofList] at member
            apply ascii
            rw [plainIs]
            exact List.mem_append_right offset (List.mem_cons_of_mem ':' member)
          · rw [String.toList_ofList]
            exact colonFree (List.mem_cons_of_mem offset (List.mem_singleton.mpr rfl))
  · exact .inr ⟨_, rfl⟩

/-- Every text spells a token or is refused. -/
theorem exists_spells_or_fault (text : String) :
    (∃ digits salt, Spells text digits salt) ∨ ∃ fault, decode text = .invalid fault := by
  unfold decode
  split
  · exact .inr ⟨_, rfl⟩
  · split
    · exact .inr ⟨_, rfl⟩
    · next bytes base64 =>
        split
        · exact .inr ⟨_, rfl⟩
        · next plain decoded =>
            obtain ⟨rfl, ascii⟩ := Text.ascii_of_decodeAscii decoded
            exact exists_spells_or_fault_of_fields (Base64.decode_eq_ok_iff.mp base64) ascii

/-! ## Where a query with a token starts -/

/-- The failure of a token with so many digits. -/
def tooManyDigits (digits : Nat) : Failure :=
  .crashed ⟨.invalidValue, Text.tooManyDigitsMessage digits⟩

private theorem decode_empty : decode "" = .invalid .fieldCount := by
  rfl

theorem Spells.ne_empty
    {text salt : String}
    {digits : List Char}
    (spells : Spells text digits salt) :
    text ≠ "" := by
  rintro rfl
  have read := decode_of_spells spells
  rw [decode_empty] at read
  split at read <;> cases read

theorem resolveOffset_of_ne_empty
    (skip? : Option Int)
    {text : String}
    (notEmpty : text ≠ "")
    (salt : String) :
    resolveOffset skip? (some text) salt =
      match decode text with
      | .invalid fault => .error (.reported (.invalidToken fault.message))
      | .tooManyDigits digits => .error (tooManyDigits digits)
      | .token token =>
        if token.salt = salt then .ok token.offset
        else .error (.reported (.invalidToken foreignReason)) := by
  have isText : text.isEmpty = false := by
    rw [← Bool.not_eq_true, String.isEmpty_iff]
    exact notEmpty
  simp only [resolveOffset, Option.getD_some, isText, Bool.false_eq_true, if_false]
  rfl

variable {text salt own : String} {digits : List Char}

/-- A token with the salt of the query starts at its number. -/
theorem resolveOffset_of_own
    (skip? : Option Int)
    (spells : Spells text digits own)
    (convertible : digits.length ≤ Text.digitLimit) :
    resolveOffset skip? (some text) own = .ok (Text.numberOfDigits digits) := by
  rw [resolveOffset_of_ne_empty skip? spells.ne_empty, decode_of_spells spells,
    if_pos convertible]
  exact if_pos rfl

/-- A token with another salt is refused. -/
theorem resolveOffset_of_foreign
    (skip? : Option Int)
    (spells : Spells text digits salt)
    (convertible : digits.length ≤ Text.digitLimit)
    (foreign : salt ≠ own) :
    resolveOffset skip? (some text) own =
      .error (.reported (.invalidToken foreignReason)) := by
  rw [resolveOffset_of_ne_empty skip? spells.ne_empty, decode_of_spells spells,
    if_pos convertible]
  exact if_neg foreign

/-- Too many digits fail before the salts are compared. -/
theorem resolveOffset_of_too_many_digits
    (skip? : Option Int)
    (spells : Spells text digits salt)
    (tooMany : Text.digitLimit < digits.length)
    (own : String) :
    resolveOffset skip? (some text) own = .error (tooManyDigits digits.length) := by
  rw [resolveOffset_of_ne_empty skip? spells.ne_empty, decode_of_spells spells,
    if_neg (Nat.not_le_of_lt tooMany)]

/-- A text that spells no token is refused. -/
theorem resolveOffset_of_no_token
    (skip? : Option Int)
    (notEmpty : text ≠ "")
    (noToken : ∀ digits salt, ¬ Spells text digits salt)
    (own : String) :
    ∃ fault : Fault,
      resolveOffset skip? (some text) own =
        .error (.reported (.invalidToken fault.message)) := by
  rcases exists_spells_or_fault text with ⟨digits, salt, spells⟩ | ⟨fault, read⟩
  · exact absurd spells (noToken digits salt)
  · refine ⟨fault, ?_⟩
    rw [resolveOffset_of_ne_empty skip? notEmpty, read]

end ContinuationToken

/-!
## Reading tokens back

A token whose salt is made of ASCII characters other than a colon is read back from its text as it
was, if its offset has no more digits than are converted.  Salts are digits of a digest, so the
tokens that pages carry are of this shape.
-/

namespace Text

private theorem flatMap_utf8Character
    {characters : List Char}
    (ascii : ∀ c ∈ characters, c.toNat < 0x80) :
    characters.flatMap utf8Character = characters.map Char.toNat := by
  induction characters with
  | nil =>
      rfl
  | cons c rest inductionHypothesis =>
      have small : c.toNat < 0x80 := ascii c (by simp)
      rw [List.flatMap_cons, List.map_cons, utf8Character, if_pos small,
        inductionHypothesis fun other member => ascii other (by simp [member])]
      rfl

private theorem lt_of_mem_map_toNat
    {text : String}
    (ascii : ∀ c ∈ text.toList, c.toNat < 0x80) :
    ∀ byte ∈ text.toList.map Char.toNat, byte < 256 := by
  intro byte member
  obtain ⟨c, inText, rfl⟩ := List.mem_map.mp member
  exact Nat.lt_trans (ascii c inText) (by decide)

private theorem toList_base64_of_ascii
    {text : String}
    (ascii : ∀ c ∈ text.toList, c.toNat < 0x80) :
    (Base64.encode text).toList = Base64.encodeBytes (text.toList.map Char.toNat) := by
  rw [Base64.encode, String.toList_ofList, utf8Bytes, flatMap_utf8Character ascii]

private theorem decode_base64_of_ascii
    {text : String}
    (ascii : ∀ c ∈ text.toList, c.toNat < 0x80) :
    Base64.decode (Base64.encode text).toList = .ok (text.toList.map Char.toNat) := by
  rw [toList_base64_of_ascii ascii]
  exact Base64.decode_encodeBytes (lt_of_mem_map_toNat ascii)

end Text

namespace ContinuationToken

/-- The salt of a query can be read back. -/
theorem readableSalt_saltOf (queryKey : String) : ReadableSalt (saltOf queryKey) := by
  have characters :
      (saltOf queryKey).toList =
        (Digest.sha256Text queryKey).toList.take Limits.saltLength := by
    rw [saltOf, Text.take, String.toList_ofList]
  refine ⟨?_, ?_, ?_⟩
  · intro isEmpty
    have noLength := congrArg List.length (characters.symm.trans isEmpty)
    rw [List.length_take, Digest.length_sha256Text] at noLength
    exact absurd noLength (by decide)
  · intro c member
    rw [characters] at member
    exact (Digest.sha256Text_characters (List.mem_of_mem_take member)).1
  · intro member
    rw [characters] at member
    exact (Digest.sha256Text_characters (List.mem_of_mem_take member)).2 rfl

/-- A single letter can be read back. -/
theorem readableSalt_x : ReadableSalt "x" := by
  have written : "x".toList = ['x'] := by
    rfl
  constructor <;> rw [written]
  · exact List.cons_ne_nil 'x' []
  · intro c member
    rw [List.mem_singleton.mp member]
    decide
  · exact fun member => absurd (List.mem_singleton.mp member) (by decide)

private theorem toList_plainText
    (offset : Nat)
    (salt : String) :
    (plainText ⟨offset, salt⟩).toList = Nat.toDigits 10 offset ++ ':' :: salt.toList := by
  simp [plainText, Text.decimal]

/-- What reading a token with an offset and a salt gives. -/
def readBack
    (offset : Nat)
    (salt : String) : Decoded :=
  if offset < Text.leastTooLong then .token ⟨offset, salt⟩
  else .tooManyDigits (Nat.toDigits 10 offset).length

private theorem ascii_plainText
    (offset : Nat)
    {salt : String}
    (readable : ReadableSalt salt) :
    ∀ c ∈ (plainText ⟨offset, salt⟩).toList, c.toNat < 0x80 := by
  intro c member
  rw [toList_plainText, List.mem_append, List.mem_cons] at member
  rcases member with isDigit | rfl | inSalt
  · exact (ascii_of_isDecimalDigit (Text.isDecimalDigit_of_mem_toDigits isDigit)).1
  · decide
  · exact readable.ascii c inSalt

/-- The text of a token with a readable salt spells this token. -/
theorem spells_text
    (offset : Nat)
    {salt : String}
    (readable : ReadableSalt salt) :
    Spells (text ⟨offset, salt⟩) (Nat.toDigits 10 offset) salt := by
  refine ⟨?_, Nat.toDigits_ne_nil, fun c => Text.isDecimalDigit_of_mem_toDigits, readable⟩
  rw [← toList_plainText, ← Base64.decode_eq_ok_iff]
  exact Text.decode_base64_of_ascii (ascii_plainText offset readable)

/-- A token with a readable salt is read back from its text, if its offset is not too long. -/
theorem decode_text
    (offset : Nat)
    {salt : String}
    (readable : ReadableSalt salt) :
    decode (text ⟨offset, salt⟩) = readBack offset salt := by
  rw [decode_of_spells (spells_text offset readable)]
  simp only [readBack, Text.length_toDigits_le_digitLimit_iff, Text.numberOfDigits_toDigits]

/-- If a token's text still spells a token after it was cut short, then with less of the salt. -/
theorem exists_lost_of_spells
    {offset : Nat}
    {salt part cutSalt : String}
    {digits lost : List Char}
    (readable : ReadableSalt salt)
    (isCut : (text ⟨offset, salt⟩).toList = part.toList ++ lost)
    (someLost : lost ≠ [])
    (spells : Spells part digits cutSalt) :
    digits = Nat.toDigits 10 offset ∧ ∃ rest, rest ≠ [] ∧ salt.toList = cutSalt.toList ++ rest := by
  have ascii := ascii_plainText offset readable
  rw [text, Text.toList_base64_of_ascii ascii] at isCut
  obtain ⟨lostBytes, isPlain, someBytes⟩ :=
    Base64.exists_lost_of_decode (Text.lt_of_mem_map_toNat ascii) isCut someLost
      (Base64.decode_eq_ok_iff.mpr spells.base64)
  obtain ⟨shown, rest, plainIs, sameShown, rfl⟩ := List.map_eq_append_iff.mp isPlain
  have shownIs : shown = digits ++ ':' :: cutSalt.toList :=
    List.map_injective_iff.mpr (fun _ _ => Char.toNat_inj.mp) sameShown
  rw [toList_plainText, shownIs, List.append_assoc, List.cons_append] at plainIs
  have digitsFree : ':' ∉ Nat.toDigits 10 offset := fun member =>
    (ascii_of_isDecimalDigit (Text.isDecimalDigit_of_mem_toDigits member)).2 rfl
  -- The plain text holds a single colon, so both ways of cutting it there agree.
  obtain ⟨digitsAre, _, saltIs⟩ :=
    (List.append_cons_inj_of_notMem digitsFree readable.colon_free).mp plainIs
  exact ⟨digitsAre.symm, rest, mt List.map_eq_nil_iff.mpr someBytes, saltIs⟩

/-- A token with a readable salt is written, if its offset is not too long. -/
theorem encode_eq_text
    {offset : Nat}
    {salt : String}
    (short : offset < Text.leastTooLong)
    (readable : ReadableSalt salt) :
    encode ⟨offset, salt⟩ = .ok (text ⟨offset, salt⟩) := by
  simp only [encode, Text.isTooLong_eq_false_of_lt short, Bool.false_eq_true, if_false,
    Text.encodeAscii_of_ascii (ascii_plainText offset readable)]

/-- A token is read back from what it is written as. -/
theorem exists_encode_eq_ok
    {offset : Nat}
    {salt : String}
    (short : offset < Text.leastTooLong)
    (readable : ReadableSalt salt) :
    ∃ text, encode ⟨offset, salt⟩ = .ok text ∧ decode text = .token ⟨offset, salt⟩ := by
  refine ⟨_, encode_eq_text short readable, ?_⟩
  rw [decode_text offset readable, readBack, if_pos short]

/-- A query with a token of its own salt starts where the token says. -/
theorem resolveOffset_own
    (skip? : Option Int)
    {offset : Nat}
    {salt : String}
    (short : offset < Text.leastTooLong)
    (readable : ReadableSalt salt) :
    resolveOffset skip? (some (text ⟨offset, salt⟩)) salt = .ok offset := by
  have convertible := (Text.length_toDigits_le_digitLimit_iff offset).mpr short
  rw [resolveOffset_of_own skip? (spells_text offset readable) convertible,
    Text.numberOfDigits_toDigits]

/-- A query with a token of another salt is refused. -/
theorem resolveOffset_foreign
    (skip? : Option Int)
    {offset : Nat}
    {salt own : String}
    (short : offset < Text.leastTooLong)
    (readable : ReadableSalt salt)
    (foreign : salt ≠ own) :
    resolveOffset skip? (some (text ⟨offset, salt⟩)) own =
      .error (.reported (.invalidToken foreignReason)) := by
  have convertible := (Text.length_toDigits_le_digitLimit_iff offset).mpr short
  exact resolveOffset_of_foreign skip? (spells_text offset readable) convertible foreign

/-- A query with a token whose offset is too long fails. -/
theorem resolveOffset_long
    (skip? : Option Int)
    {offset : Nat}
    {salt : String}
    (own : String)
    (long : Text.leastTooLong ≤ offset)
    (readable : ReadableSalt salt) :
    resolveOffset skip? (some (text ⟨offset, salt⟩)) own =
      .error
        (.crashed
          ⟨.invalidValue, Text.tooManyDigitsMessage (Nat.toDigits 10 offset).length⟩) := by
  have tooMany : Text.digitLimit < (Nat.toDigits 10 offset).length := by
    rw [← Nat.not_le, Text.length_toDigits_le_digitLimit_iff]
    exact Nat.not_lt_of_le long
  exact resolveOffset_of_too_many_digits skip? (spells_text offset readable) tooMany own

/-!
## The wire form of a token

A token is written as one text, which is read back as this token and as no other.  A text that was
cut short on its way is never honoured in place of the whole one: it is no token, or it has lost
part of its salt.
-/

/-- A text that is refused under a salt, because it is no token or a token with another salt. -/
inductive RefusedUnder
    (salt text : String) : Prop
  | malformed
      (fault : Fault)
      (read : decode text = .invalid fault)
      (refused :
        ∀ skip?,
          resolveOffset skip? (some text) salt = .error (.reported (.invalidToken fault.message)))
  | foreign
      (token : ContinuationToken)
      (read : decode text = .token token)
      (differs : token.salt ≠ salt)
      (refused :
        ∀ skip?,
          resolveOffset skip? (some text) salt = .error (.reported (.invalidToken foreignReason)))

/-- The text that a token is written as. -/
structure IsWireForm
    (token : ContinuationToken)
    (text : String) : Prop where
  encode_eq : token.encode = .ok text
  decode_eq : decode text = .token token
  unique :
    ∀ other : ContinuationToken,
      0 ≤ other.offset → ReadableSalt other.salt → other.encode = .ok text → other = token
  refused_of_cut :
    ∀ part : String,
      part ≠ "" → part.toList <+: text.toList → part ≠ text → RefusedUnder token.salt part

variable {offset : Nat} {salt : String}

/-- Only a token whose offset is not too long is written. -/
private theorem written_of_encode_eq_ok
    {text : String}
    (written : encode ⟨offset, salt⟩ = .ok text) :
    offset < Text.leastTooLong ∧ text = ContinuationToken.text ⟨offset, salt⟩ := by
  unfold encode at written
  split at written
  · cases written
  · next notTooLong =>
      split at written
      · cases written
      · exact
          ⟨Text.lt_of_isTooLong_eq_false (Bool.eq_false_iff.mpr notTooLong),
            (Except.ok.inj written).symm⟩

/-- A proper part of a token's text from its start on is refused under the token's salt. -/
theorem refusedUnder_of_cut
    (short : offset < Text.leastTooLong)
    (readable : ReadableSalt salt)
    {part : String}
    (notEmpty : part ≠ "")
    (isPrefix : part.toList <+: (text ⟨offset, salt⟩).toList)
    (proper : part ≠ text ⟨offset, salt⟩) :
    RefusedUnder salt part := by
  obtain ⟨lost, isCut⟩ := isPrefix
  have someLost : lost ≠ [] := by
    rintro rfl
    rw [List.append_nil] at isCut
    exact proper (String.toList_injective isCut)
  rcases exists_spells_or_fault part with ⟨digits, cutSalt, spells⟩ | ⟨fault, read⟩
  · obtain ⟨rfl, rest, someRest, saltIs⟩ :=
      exists_lost_of_spells readable isCut.symm someLost spells
    have convertible := (Text.length_toDigits_le_digitLimit_iff offset).mpr short
    have differs : cutSalt ≠ salt := by
      rintro rfl
      exact someRest (List.self_eq_append_right.mp saltIs)
    refine .foreign ⟨offset, cutSalt⟩ ?_ differs fun skip? =>
      resolveOffset_of_foreign skip? spells convertible differs
    rw [decode_of_spells spells, if_pos convertible, Text.numberOfDigits_toDigits]
  · refine .malformed fault read fun skip? => ?_
    rw [resolveOffset_of_ne_empty skip? notEmpty, read]

/-- Every token with a readable salt and an offset that is not too long has a wire form. -/
theorem exists_isWireForm
    (short : offset < Text.leastTooLong)
    (readable : ReadableSalt salt) :
    ∃ text, IsWireForm ⟨offset, salt⟩ text := by
  obtain ⟨text, written, read⟩ := exists_encode_eq_ok short readable
  refine ⟨text, written, read, ?_, ?_⟩
  · rintro ⟨otherOffset, otherSalt⟩ notNegative otherReadable otherWritten
    obtain ⟨other, rfl⟩ := Int.eq_ofNat_of_zero_le notNegative
    obtain ⟨otherShort, _⟩ := written_of_encode_eq_ok otherWritten
    obtain ⟨otherText, writtenAgain, otherRead⟩ :=
      exists_encode_eq_ok otherShort otherReadable
    rw [Except.ok.inj (writtenAgain.symm.trans otherWritten), read] at otherRead
    exact (Decoded.token.inj otherRead).symm
  · obtain ⟨_, rfl⟩ := written_of_encode_eq_ok written
    exact fun part notEmpty => refusedUnder_of_cut short readable notEmpty

/-- The token behind the first item of a query has a wire form. -/
theorem exists_isWireForm_of_query :
    1 < Text.leastTooLong ∧ ReadableSalt (saltOf "types") ∧
      ∃ text, IsWireForm ⟨(1 : Nat), saltOf "types"⟩ text := by
  have readable := readableSalt_saltOf "types"
  exact ⟨Text.one_lt_leastTooLong, readable, exists_isWireForm Text.one_lt_leastTooLong readable⟩

/-- The least offset that is too long cannot be written, and what would be its token is not read as
one: a query with another salt fails before it finds that the token is not its own. -/
theorem no_isWireForm_of_least_too_long :
    ReadableSalt "x" ∧
      (¬ ∃ text, IsWireForm ⟨Text.leastTooLong, "x"⟩ text) ∧
      encode ⟨Text.leastTooLong, "x"⟩ = .error ⟨.invalidValue, Text.tooLongToWriteMessage⟩ ∧
      resolveOffset none (some (text ⟨Text.leastTooLong, "x"⟩)) "y" =
        .error (tooManyDigits (Nat.toDigits 10 Text.leastTooLong).length) := by
  have notWritten :
      encode ⟨Text.leastTooLong, "x"⟩ = .error ⟨.invalidValue, Text.tooLongToWriteMessage⟩ := by
    rw [encode, if_pos Text.isTooLong_leastTooLong]
  refine
    ⟨readableSalt_x, ?_, notWritten, resolveOffset_long none "y" (Nat.le_refl _) readableSalt_x⟩
  rintro ⟨text, isWireForm⟩
  have written := isWireForm.encode_eq
  rw [notWritten] at written
  cases written

end ContinuationToken

end TypeCatalog
