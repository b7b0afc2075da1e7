import Mathlib.Data.List.Nodup
import TypeCatalog.Proofs.Json.Grammar

namespace TypeCatalog.Json

/-!
# JSON texts are read in one way

What follows a phrase of the grammar never continues it: a token ends where no letter, digit or mark
of a number stands, and blanks, commas and closing brackets belong to nothing that starts before
them.  So a text is a document in at most one way.
-/

theorem StartsWithout.cons
    {sort : Nat → Bool}
    {point : Nat}
    (isOther : sort point = false)
    (rest : List Nat) :
    StartsWithout sort (point :: rest) := by
  rintro _ ⟨⟩
  exact isOther

theorem StartsWithout.mono
    {sort wider : Nat → Bool}
    {text : List Nat}
    (starts : StartsWithout wider text)
    (isWider : ∀ point, sort point = true → wider point = true) :
    StartsWithout sort text := by
  intro point isFirst
  by_contra isSort
  have isFree := starts point isFirst
  rw [isWider point (by simpa using isSort)] at isFree
  cases isFree

theorem SkipsBlanks.dropWhile_eq
    {text rest : List Nat}
    (skips : SkipsBlanks text rest)
    (stops : StartsWithout isBlankPoint rest) :
    text.dropWhile isBlankPoint = rest := by
  induction skips with
  | stop text =>
      cases text with
      | nil => rfl
      | cons point _ => exact List.dropWhile_cons_of_neg (by simp [stops point rfl])
  | skip isBlank _ inductionHypothesis =>
      rw [List.dropWhile_cons_of_pos isBlank, inductionHypothesis stops]

/-- Blanks are skipped up to the first that is none. -/
theorem SkipsBlanks.unique
    {text rest other : List Nat}
    (skips : SkipsBlanks text rest)
    (stops : StartsWithout isBlankPoint rest)
    (skipsToo : SkipsBlanks text other)
    (stopsToo : StartsWithout isBlankPoint other) :
    rest = other := by
  rw [← skips.dropWhile_eq stops, skipsToo.dropWhile_eq stopsToo]

/-- What does not start in a way behind blanks does not do so before them, unless blanks do. -/
theorem SkipsBlanks.startsWithout
    {sort : Nat → Bool}
    {text rest : List Nat}
    (skips : SkipsBlanks text rest)
    (noBlank : ∀ point, isBlankPoint point = true → sort point = false)
    (starts : StartsWithout sort rest) :
    StartsWithout sort text := by
  cases skips with
  | stop => exact starts
  | skip isBlank =>
      intro point isFirst
      cases isFirst
      exact noBlank _ isBlank

/-- A string ends at the first quote that is not escaped. -/
theorem ReadsString.unique
    {text rest otherRest : List Nat}
    {parts otherParts : List StringPart}
    (reads : ReadsString text parts rest)
    (readsToo : ReadsString text otherParts otherRest) :
    parts = otherParts ∧ rest = otherRest := by
  induction reads generalizing otherParts with
  | close =>
      cases readsToo with
      | close => exact ⟨rfl, rfl⟩
      | plain isUnescaped => simp [IsUnescaped] at isUnescaped
  | plain isUnescaped _ inductionHypothesis =>
      cases readsToo with
      | close => simp [IsUnescaped] at isUnescaped
      | plain _ readsToo =>
          obtain ⟨rfl, rfl⟩ := inductionHypothesis readsToo
          exact ⟨rfl, rfl⟩
      | escape | digits => simp [IsUnescaped] at isUnescaped
  | escape isEscape _ inductionHypothesis =>
      cases readsToo with
      | plain isUnescaped => simp [IsUnescaped] at isUnescaped
      | escape isEscapeToo readsToo =>
          obtain ⟨rfl, rfl⟩ := inductionHypothesis readsToo
          rw [isEscape] at isEscapeToo
          cases isEscapeToo
          exact ⟨rfl, rfl⟩
      | digits => cases isEscape
  | digits areDigits _ inductionHypothesis =>
      cases readsToo with
      | plain isUnescaped => simp [IsUnescaped] at isUnescaped
      | escape isEscape => cases isEscape
      | digits areDigitsToo readsToo =>
          obtain ⟨rfl, rfl⟩ := inductionHypothesis readsToo
          rw [areDigits] at areDigitsToo
          cases areDigitsToo
          exact ⟨rfl, rfl⟩
/-- Whether a text starts with a digit, perhaps behind a minus. -/
private def startsWithDigit : List Char → Bool
  | '-' :: c :: _ => Text.isDecimalDigit c
  | c :: _ => Text.isDecimalDigit c
  | [] => false

private theorem startsWithDigit_of_isNumber
    {text : List Char}
    {value : Value}
    (isNumber : IsNumber text value) :
    startsWithDigit text = true := by
  have ofWhole : ∀ (negative : Bool) {whole : List Char} (beyond : List Char),
      IsWholePart whole → startsWithDigit (minus negative ++ (whole ++ beyond)) = true := by
    intro negative whole beyond isWhole
    obtain ⟨someDigits, areDigits⟩ := isWhole.areDigits
    obtain ⟨digit, others, rfl⟩ := List.exists_cons_of_ne_nil someDigits
    have isDigit := areDigits digit List.mem_cons_self
    cases negative with
    | true => exact isDigit
    | false =>
        have noMinus : digit ≠ '-' := by
          rintro rfl
          cases isDigit
        simpa [minus, startsWithDigit, noMinus] using isDigit
  cases isNumber with
  | whole negative isWhole => simpa using ofWhole negative [] isWhole
  | decimal negative isWhole => exact ofWhole negative _ isWhole

private theorem not_isNumber_of_word
    {extended : Bool}
    {text : List Char}
    {document : Document}
    {value : Value}
    (isWord : (text, document) ∈ documentWords extended) :
    ¬ IsNumber text value := by
  intro isNumber
  have noDigits : ∀ entry ∈ documentWords extended, startsWithDigit entry.1 = false := by
    cases extended <;> simp [documentWords, startsWithDigit, Text.isDecimalDigit]
  have noDigit := noDigits _ isWord
  rw [startsWithDigit_of_isNumber isNumber] at noDigit
  cases noDigit

/-- A token stands for one document. -/
theorem IsToken.unique
    {extended : Bool}
    {text : List Char}
    {document other : Document}
    (isToken : IsToken extended text document)
    (isTokenToo : IsToken extended text other) :
    document = other := by
  cases isToken with
  | word isWord =>
      cases isTokenToo with
      | word isWordToo =>
          have different : ((documentWords extended).map Prod.fst).Nodup := by
            cases extended <;> decide
          exact (Prod.mk.inj (List.inj_on_of_nodup_map different isWord isWordToo rfl)).2
      | number isNumber => exact absurd isNumber (not_isNumber_of_word isWord)
  | number isNumber =>
      cases isTokenToo with
      | word isWord => exact absurd isNumber (not_isNumber_of_word isWord)
      | number isNumberToo => rw [isNumber.unique isNumberToo]

private theorem isTokenCharacter_of_isDigits
    {digits : List Char}
    (areDigits : IsDigits digits) :
    ∀ c ∈ digits, isTokenCharacter c = true := by
  intro c member
  simp [isTokenCharacter, areDigits.2 c member]

private theorem isTokenCharacter_of_isNumber
    {text : List Char}
    {value : Value}
    (isNumber : IsNumber text value) :
    ∀ c ∈ text, isTokenCharacter c = true := by
  have ofMinus : ∀ {negative : Bool}, ∀ c ∈ minus negative, isTokenCharacter c = true := by
    intro negative
    cases negative with
    | false => exact List.forall_mem_nil _
    | true => exact List.forall_mem_singleton.mpr rfl
  have ofExponent : ∀ {exponent : List Char} {power : Int}, IsExponent exponent power →
      ∀ c ∈ exponent, isTokenCharacter c = true := by
    intro exponent power isExponent
    cases isExponent with
    | none => simp
    | some isMark isSign areDigits =>
        have ofSign : ∀ {sign : List Char} {negative : Bool}, IsSign sign negative →
            ∀ c ∈ sign, isTokenCharacter c = true := by
          intro sign negative isSign
          cases isSign with
          | none => exact List.forall_mem_nil _
          | plus | minus => exact List.forall_mem_singleton.mpr rfl
        have ofMark : ∀ c, c = 'e' ∨ c = 'E' → isTokenCharacter c = true := by
          rintro c (rfl | rfl) <;> rfl
        simp only [List.forall_mem_cons, List.forall_mem_append]
        exact ⟨ofMark _ isMark, ofSign isSign, isTokenCharacter_of_isDigits areDigits⟩
  have ofFraction : ∀ {fraction digits : List Char}, IsFraction fraction digits →
      ∀ c ∈ fraction, isTokenCharacter c = true := by
    intro fraction digits isFraction
    cases isFraction with
    | none => simp
    | some areDigits =>
        exact List.forall_mem_cons.mpr ⟨by decide, isTokenCharacter_of_isDigits areDigits⟩
  cases isNumber with
  | whole _ isWhole =>
      exact List.forall_mem_append.mpr ⟨ofMinus, isTokenCharacter_of_isDigits isWhole.areDigits⟩
  | decimal _ isWhole isFraction isExponent =>
      simp only [List.forall_mem_append]
      exact ⟨ofMinus, isTokenCharacter_of_isDigits isWhole.areDigits, ofFraction isFraction,
        ofExponent isExponent⟩

/-- A token is a character or more, all of which can stand in words and numbers. -/
private theorem IsToken.characters
    {extended : Bool}
    {text : List Char}
    {document : Document}
    (isToken : IsToken extended text document) :
    text ≠ [] ∧ ∀ c ∈ text, isTokenCharacter c = true := by
  cases isToken with
  | word isWord =>
      have ofWords : ∀ entry ∈ documentWords extended,
          entry.1 ≠ [] ∧ ∀ c ∈ entry.1, isTokenCharacter c = true := by
        cases extended <;> simp [documentWords] <;> decide
      exact ofWords _ isWord
  | number isNumber =>
      refine ⟨?_, isTokenCharacter_of_isNumber isNumber⟩
      rintro rfl
      cases startsWithDigit_of_isNumber isNumber
section Unique

variable {extended : Bool} {text rest inside : List Nat} {document : Document}

private theorem isTokenPoint_toNat
    {characters : List Char}
    (areTokenCharacters : ∀ c ∈ characters, isTokenCharacter c = true) :
    ∀ point ∈ codes characters, isTokenPoint point = true := by
  intro point member
  obtain ⟨c, isCharacter, rfl⟩ := List.mem_map.mp member
  rw [isTokenPoint, Char.ofNat_toNat]
  exact areTokenCharacters c isCharacter

/-- The code point at which a token starts. -/
private theorem IsToken.exists_first
    {characters : List Char}
    (isToken : IsToken extended characters document)
    (rest : List Nat) :
    ∃ point others, codes characters ++ rest = point :: others ∧ isTokenPoint point = true := by
  obtain ⟨someCharacters, areTokenCharacters⟩ := isToken.characters
  obtain ⟨c, others, rfl⟩ := List.exists_cons_of_ne_nil someCharacters
  exact ⟨c.toNat, codes others ++ rest, rfl,
    isTokenPoint_toNat areTokenCharacters _ List.mem_cons_self⟩

/-- No blank, comma, colon or closing bracket stands where a document starts. -/
private theorem Reads.exists_first
    (reads : Reads extended text (.value document) rest) :
    ∃ point others, text = point :: others ∧
      (isTokenPoint point = true ∨ point = 0x22 ∨ point = 0x5B ∨ point = 0x7B) := by
  cases reads with
  | token rest isToken =>
      obtain ⟨point, others, same, isTokenPoint⟩ := isToken.exists_first rest
      exact ⟨point, others, same, .inl isTokenPoint⟩
  | string | emptyArray | array | emptyObject | object => exact ⟨_, _, rfl, .inr (by decide)⟩

private theorem Reads.startsWithout
    {sort : Nat → Bool}
    (reads : Reads extended text (.value document) rest)
    (noToken : ∀ point, isTokenPoint point = true → sort point = false)
    (noMark : sort 0x22 = false ∧ sort 0x5B = false ∧ sort 0x7B = false) :
    StartsWithout sort text := by
  obtain ⟨point, others, rfl, isTokenPoint | rfl | rfl | rfl⟩ := reads.exists_first <;>
    rintro _ ⟨⟩
  · exact noToken _ isTokenPoint
  · exact noMark.1
  · exact noMark.2.1
  · exact noMark.2.2

private theorem isTokenPoint_of_isBlankPoint
    (point : Nat)
    (isBlank : isBlankPoint point = true) :
    isTokenPoint point = false := by
  simp only [isBlankPoint, Bool.or_eq_true, decide_eq_true_eq] at isBlank
  rcases isBlank with ((rfl | rfl) | rfl) | rfl <;> decide

private theorem isBlankPoint_of_isTokenPoint
    (point : Nat)
    (isToken : isTokenPoint point = true) :
    isBlankPoint point = false := by
  by_contra isBlank
  rw [isTokenPoint_of_isBlankPoint point (by simpa using isBlank)] at isToken
  cases isToken

private theorem Reads.startsWithout_blank
    (reads : Reads extended text (.value document) rest) :
    StartsWithout isBlankPoint text :=
  reads.startsWithout isBlankPoint_of_isTokenPoint (by decide)

/-- Whether a code point may stand right behind a phrase and belong to it. -/
def Phrase.continues : Phrase → Nat → Bool
  | .value _, point => isTokenPoint point
  | .padded _, point | .member .., point => isTokenPoint point || isBlankPoint point
  | .items _, point | .members _, point =>
    isTokenPoint point || isBlankPoint point || point = 0x2C

/-- Whether two phrases are of one sort. -/
def Phrase.Alike : Phrase → Phrase → Prop
  | .value _, .value _ | .padded _, .padded _ | .items _, .items _ | .member .., .member ..
  | .members _, .members _ => True
  | _, _ => False

/-- What opens a string opens nothing else. -/
private theorem Reads.of_quote
    (reads : Reads extended (0x22 :: inside) (.value document) rest) :
    ∃ parts, ReadsString inside parts rest ∧ document = .string (codePoints parts) := by
  generalize isText : 0x22 :: inside = text at reads
  cases reads with
  | token rest isToken =>
      obtain ⟨point, others, same, isTokenPoint⟩ := isToken.exists_first rest
      cases isText.trans same
      cases isTokenPoint
  | string reads =>
      cases isText
      exact ⟨_, reads, rfl⟩
  | emptyArray | array | emptyObject | object => cases isText

/-- What opens an array opens nothing else. -/
private theorem Reads.of_bracket
    (reads : Reads extended (0x5B :: inside) (.value document) rest) :
    (SkipsBlanks inside (0x5D :: rest) ∧ document = .array []) ∨
      ∃ documents, Reads extended inside (.items documents) (0x5D :: rest) ∧
        document = .array documents := by
  generalize isText : 0x5B :: inside = text at reads
  cases reads with
  | token rest isToken =>
      obtain ⟨point, others, same, isTokenPoint⟩ := isToken.exists_first rest
      cases isText.trans same
      cases isTokenPoint
  | emptyArray skips =>
      cases isText
      exact .inl ⟨skips, rfl⟩
  | array reads =>
      cases isText
      exact .inr ⟨_, reads, rfl⟩
  | string | emptyObject | object => cases isText

/-- What opens an object opens nothing else. -/
private theorem Reads.of_brace
    (reads : Reads extended (0x7B :: inside) (.value document) rest) :
    (SkipsBlanks inside (0x7D :: rest) ∧ document = .object []) ∨
      ∃ members, Reads extended inside (.members members) (0x7D :: rest) ∧
        document = .object members := by
  generalize isText : 0x7B :: inside = text at reads
  cases reads with
  | token rest isToken =>
      obtain ⟨point, others, same, isTokenPoint⟩ := isToken.exists_first rest
      cases isText.trans same
      cases isTokenPoint
  | emptyObject skips =>
      cases isText
      exact .inl ⟨skips, rfl⟩
  | object reads =>
      cases isText
      exact .inr ⟨_, reads, rfl⟩
  | string | emptyArray | array => cases isText

/-- What starts like a token is one. -/
private theorem Reads.of_token
    {characters : List Char}
    {other : Document}
    {otherRest : List Nat}
    (isToken : IsToken extended characters document)
    (ends : StartsWithout isTokenPoint rest)
    (reads : Reads extended (codes characters ++ rest) (.value other) otherRest)
    (endsToo : StartsWithout isTokenPoint otherRest) :
    document = other ∧ rest = otherRest := by
  obtain ⟨point, others, same, isFirst⟩ := isToken.exists_first rest
  generalize isText : codes characters ++ rest = text at reads
  cases reads with
  | token _ isTokenToo =>
      obtain ⟨sameCodes, sameRest⟩ := append_inj_of_stops
        (isTokenPoint_toNat isToken.characters.2) ends
        (isTokenPoint_toNat isTokenToo.characters.2) endsToo isText
      rw [List.map_injective_iff.mpr (fun _ _ => Char.toNat_inj.mp) sameCodes] at isToken
      exact ⟨isToken.unique isTokenToo, sameRest⟩
  | string | emptyArray | array | emptyObject | object =>
      cases same.symm.trans isText
      cases isFirst

private theorem Reads.exists_start_of_items
    {documents : List Document}
    (reads : Reads extended text (.items documents) rest) :
    ∃ start stop first, SkipsBlanks text start ∧ Reads extended start (.value first) stop := by
  cases reads with
  | lastItem reads | item reads =>
      cases reads with
      | padded before reads => exact ⟨_, _, _, before, reads⟩

/-- No item stands where an array is closed. -/
private theorem not_reads_items
    {documents : List Document}
    (skips : SkipsBlanks inside (0x5D :: text)) :
    ¬ Reads extended inside (.items documents) rest := by
  intro reads
  obtain ⟨start, stop, first, before, readsFirst⟩ := reads.exists_start_of_items
  have sameStart := skips.unique (.cons rfl _) before
    readsFirst.startsWithout_blank
  obtain ⟨point, others, rfl, isFirst⟩ := readsFirst.exists_first
  cases sameStart
  exact absurd isFirst (by decide)

/-- No member stands where an object is closed. -/
private theorem not_reads_members
    {members : List (List Nat × Document)}
    (skips : SkipsBlanks inside (0x7D :: text)) :
    ¬ Reads extended inside (.members members) rest := by
  intro reads
  have noQuote : ∀ {name : List Nat} {first : Document} {stop : List Nat},
      ¬ Reads extended inside (.member name first) stop := by
    intro name first stop readsFirst
    cases readsFirst with
    | member before =>
        have sameStart := skips.unique (.cons rfl _) before
          (.cons rfl _)
        cases sameStart
  cases reads with
  | lastMember reads | memberAndOthers reads => exact noQuote reads

private theorem StartsWithout.of_padded
    (ends : StartsWithout (fun point => isTokenPoint point || isBlankPoint point) rest) :
    StartsWithout isTokenPoint rest ∧ StartsWithout isBlankPoint rest :=
  ⟨ends.mono fun point isToken => by simp [isToken],
    ends.mono fun point isBlank => by simp [isBlank]⟩

private theorem StartsWithout.of_listed
    (ends : StartsWithout
      (fun point => isTokenPoint point || isBlankPoint point || point = 0x2C) rest) :
    StartsWithout (fun point => isTokenPoint point || isBlankPoint point) rest :=
  ends.mono fun point continues => by simp [Bool.or_eq_true] at continues ⊢; exact .inl continues

end Unique

/-- If nothing that follows belongs to it, what stands at the front of a text is known, and so is
what is left behind it. -/
theorem Reads.unique
    {extended : Bool}
    {text rest otherRest : List Nat}
    {phrase other : Phrase}
    (reads : Reads extended text phrase rest)
    (readsToo : Reads extended text other otherRest)
    (alike : phrase.Alike other)
    (ends : StartsWithout phrase.continues rest)
    (endsToo : StartsWithout other.continues otherRest) :
    phrase = other ∧ rest = otherRest := by
  induction reads generalizing other otherRest with
  | token rest isToken =>
      cases other <;> try exact alike.elim
      obtain ⟨rfl, rfl⟩ := Reads.of_token isToken ends readsToo endsToo
      exact ⟨rfl, rfl⟩
  | string reads =>
      cases other <;> try exact alike.elim
      obtain ⟨parts, readsString, rfl⟩ := readsToo.of_quote
      obtain ⟨rfl, rfl⟩ := reads.unique readsString
      exact ⟨rfl, rfl⟩
  | emptyArray skips =>
      cases other <;> try exact alike.elim
      obtain ⟨skipsToo, rfl⟩ | ⟨documents, readsItems, rfl⟩ := readsToo.of_bracket
      · have sameRest := skips.unique (.cons rfl _) skipsToo
          (.cons rfl _)
        cases sameRest
        exact ⟨rfl, rfl⟩
      · exact absurd readsItems (not_reads_items skips)
  | array reads inductionHypothesis =>
      cases other <;> try exact alike.elim
      obtain ⟨skips, rfl⟩ | ⟨documents, readsItems, rfl⟩ := readsToo.of_bracket
      · exact absurd reads (not_reads_items skips)
      · obtain ⟨samePhrase, sameRest⟩ :=
          inductionHypothesis readsItems trivial (.cons rfl _) (.cons rfl _)
        cases samePhrase
        cases sameRest
        exact ⟨rfl, rfl⟩
  | emptyObject skips =>
      cases other <;> try exact alike.elim
      obtain ⟨skipsToo, rfl⟩ | ⟨members, readsMembers, rfl⟩ := readsToo.of_brace
      · cases skips.unique (.cons rfl _) skipsToo (.cons rfl _)
        exact ⟨rfl, rfl⟩
      · exact absurd readsMembers (not_reads_members skips)
  | object reads inductionHypothesis =>
      cases other <;> try exact alike.elim
      obtain ⟨skips, rfl⟩ | ⟨members, readsMembers, rfl⟩ := readsToo.of_brace
      · exact absurd reads (not_reads_members skips)
      · obtain ⟨samePhrase, sameRest⟩ :=
          inductionHypothesis readsMembers trivial (.cons rfl _) (.cons rfl _)
        cases samePhrase
        cases sameRest
        exact ⟨rfl, rfl⟩
  | padded before reads after inductionHypothesis =>
      cases other <;> try exact alike.elim
      cases readsToo with
      | padded beforeToo readsToo afterToo =>
          obtain rfl := before.unique reads.startsWithout_blank beforeToo
            readsToo.startsWithout_blank
          obtain ⟨samePhrase, rfl⟩ := inductionHypothesis readsToo trivial
            (after.startsWithout isTokenPoint_of_isBlankPoint ends.of_padded.1)
            (afterToo.startsWithout isTokenPoint_of_isBlankPoint endsToo.of_padded.1)
          cases samePhrase
          exact ⟨rfl, after.unique ends.of_padded.2 afterToo endsToo.of_padded.2⟩
  | lastItem reads inductionHypothesis =>
      cases other <;> try exact alike.elim
      cases readsToo with
      | lastItem readsToo =>
          obtain ⟨samePhrase, rfl⟩ :=
            inductionHypothesis readsToo trivial ends.of_listed endsToo.of_listed
          cases samePhrase
          exact ⟨rfl, rfl⟩
      | item readsToo =>
          obtain ⟨-, rfl⟩ := inductionHypothesis readsToo trivial ends.of_listed (.cons rfl _)
          cases ends 0x2C rfl
  | item reads others inductionHypothesis ofOthers =>
      cases other <;> try exact alike.elim
      cases readsToo with
      | lastItem readsToo =>
          obtain ⟨-, rfl⟩ := inductionHypothesis readsToo trivial (.cons rfl _) endsToo.of_listed
          cases endsToo 0x2C rfl
      | item readsToo othersToo =>
          obtain ⟨samePhrase, sameRest⟩ :=
            inductionHypothesis readsToo trivial (.cons rfl _) (.cons rfl _)
          cases samePhrase
          cases sameRest
          obtain ⟨samePhrase, rfl⟩ := ofOthers othersToo trivial ends endsToo
          cases samePhrase
          exact ⟨rfl, rfl⟩
  | member before readsName after reads inductionHypothesis =>
      cases other <;> try exact alike.elim
      cases readsToo with
      | member beforeToo readsNameToo afterToo readsToo =>
          cases before.unique (.cons rfl _) beforeToo (.cons rfl _)
          obtain ⟨rfl, rfl⟩ := readsName.unique readsNameToo
          cases after.unique (.cons rfl _) afterToo (.cons rfl _)
          obtain ⟨samePhrase, rfl⟩ := inductionHypothesis readsToo trivial ends endsToo
          cases samePhrase
          exact ⟨rfl, rfl⟩
  | lastMember reads inductionHypothesis =>
      cases other <;> try exact alike.elim
      cases readsToo with
      | lastMember readsToo =>
          obtain ⟨samePhrase, rfl⟩ :=
            inductionHypothesis readsToo trivial ends.of_listed endsToo.of_listed
          cases samePhrase
          exact ⟨rfl, rfl⟩
      | memberAndOthers readsToo =>
          obtain ⟨-, rfl⟩ := inductionHypothesis readsToo trivial ends.of_listed (.cons rfl _)
          cases ends 0x2C rfl
  | memberAndOthers reads others inductionHypothesis ofOthers =>
      cases other <;> try exact alike.elim
      cases readsToo with
      | lastMember readsToo =>
          obtain ⟨-, rfl⟩ := inductionHypothesis readsToo trivial (.cons rfl _) endsToo.of_listed
          cases endsToo 0x2C rfl
      | memberAndOthers readsToo othersToo =>
          obtain ⟨samePhrase, sameRest⟩ :=
            inductionHypothesis readsToo trivial (.cons rfl _) (.cons rfl _)
          cases samePhrase
          cases sameRest
          obtain ⟨samePhrase, rfl⟩ := ofOthers othersToo trivial ends endsToo
          cases samePhrase
          exact ⟨rfl, rfl⟩

/-- A text is one document at most. -/
theorem IsText.unique
    {extended : Bool}
    {text : List Nat}
    {document other : Document}
    (isText : IsText extended text document)
    (isTextToo : IsText extended text other) :
    document = other := by
  obtain ⟨samePhrase, -⟩ := Reads.unique isText isTextToo trivial nofun nofun
  cases samePhrase
  rfl

end TypeCatalog.Json
