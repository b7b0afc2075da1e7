import TypeCatalog.Proofs.Json.CodePoints
import TypeCatalog.Proofs.Json.Grammar
import TypeCatalog.Proofs.Json.NumberText
import TypeCatalog.Proofs.Value.Contents

namespace TypeCatalog

/-!
# Texts of values are documents

The text of a value is a document of the grammar, however it is laid out: one of RFC 8259 if all
numbers in the value are finite, and one of the wider grammar otherwise.
-/

/-! ## Finite values -/

namespace Value

/-- Whether a number is finite. -/
def IsFiniteSingle : Value → Prop
  | .float number => number.isFinite = true
  | _ => True

/-- Whether all numbers in a value are finite.  Keys become names and do not matter. -/
def IsFinite (value : Value) : Prop :=
  value.ConsistsOf IsFiniteSingle fun _ => True

/-- Whether all numbers in items are finite. -/
abbrev AreFinite (items : List Value) : Prop :=
  ItemsConsistOf IsFiniteSingle (fun _ => True) items

/-- Whether all numbers in the values of entries are finite. -/
abbrev HoldFinite (entries : List (Key × Value)) : Prop :=
  EntriesConsistOf IsFiniteSingle (fun _ => True) entries

instance : DecidablePred IsFiniteSingle
  | .float _ => inferInstanceAs (Decidable (_ = true))
  | .null | .bool _ | .int _ | .text _ | .unpaired _ | .bytes _ | .timestamp _ | .pair .. | .list _
  | .set _ | .map _ | .again _ => .isTrue trivial

instance : DecidablePred IsFinite :=
  fun value => inferInstanceAs (Decidable (value.ConsistsOf _ _))

end Value

namespace Json

/-! ## Strings -/

/-- The control characters that are written with a letter. -/
def letteredControls : List Nat :=
  codes ['\x08', '\t', '\n', '\x0c', '\r']

/-- The part of a string that a code point is written as. -/
def writtenPart (point : Nat) : StringPart :=
  if point < 0x20 ∧ point ∉ letteredControls then .unit point else .plain point

section Strings

variable {text rest : List Nat} {parts : List StringPart}

/-- The other control characters are written with four digits. -/
private theorem escapePoint_of_control : ∀ point < 0x20, point ∉ letteredControls →
    escapePoint point =
        [0x5C, 0x75, 0x30, 0x30, (Nat.digitChar (point / 16)).toNat,
          (Nat.digitChar (point % 16)).toNat] ∧
      fourDigits? '0' '0' (Nat.digitChar (point / 16)) (Nat.digitChar (point % 16)) =
        some point := by
  decide

private theorem readsString_control
    {point : Nat}
    (isControl : point < 0x20)
    (reads : ReadsString text parts rest) :
    ReadsString (escapePoint point ++ text) (writtenPart point :: parts) rest := by
  by_cases isLettered : point ∈ letteredControls
  · rw [writtenPart, if_neg (fun isDigits => isDigits.2 isLettered)]
    obtain ⟨c, member, rfl⟩ := List.mem_map.mp isLettered
    simp only [List.mem_cons, List.not_mem_nil, or_false] at member
    rcases member with rfl | rfl | rfl | rfl | rfl <;> exact .escape rfl reads
  · obtain ⟨isWritten, areDigits⟩ := escapePoint_of_control point isControl isLettered
    rw [writtenPart, if_pos ⟨isControl, isLettered⟩, isWritten]
    refine .digits ?_ reads
    rw [Char.ofNat_toNat, Char.ofNat_toNat]
    exact areDigits

private theorem escape_of_le
    {c : Char}
    (isLarge : 0x20 ≤ c.toNat)
    (noQuote : c ≠ '"')
    (noBackslash : c ≠ '\\') :
    escape c = [c] := by
  have noControl : ∀ control : Char, control.toNat < 0x20 → c ≠ control := by
    rintro control isSmall rfl
    omega
  simp [escape, noQuote, noBackslash, noControl, isLarge]

private theorem isUnescaped_of_ne
    {point : Nat}
    (isLarge : 0x20 ≤ point)
    (isPoint : point ≤ 0x10FFFF)
    (noQuote : point ≠ 0x22)
    (noBackslash : point ≠ 0x5C) :
    IsUnescaped point := by
  unfold IsUnescaped
  omega

/-- A code point is written as one part of a string. -/
theorem readsString_escapePoint
    {point : Nat}
    (isPoint : point ≤ 0x10FFFF)
    (reads : ReadsString text parts rest) :
    ReadsString (escapePoint point ++ text) (writtenPart point :: parts) rest := by
  by_cases isControl : point < 0x20
  · exact readsString_control isControl reads
  have isLarge := Nat.le_of_not_lt isControl
  rw [writtenPart, if_neg (fun isWritten => isControl isWritten.1)]
  by_cases isHalf : Text.isHalf point = true
  · rw [escapePoint, if_pos isHalf]
    refine .plain (isUnescaped_of_ne isLarge isPoint ?_ ?_) reads <;> rintro rfl <;> cases isHalf
  · obtain ⟨c, rfl⟩ : ∃ c : Char, c.toNat = point := by
      refine ⟨Char.ofNat point, ?_⟩
      rw [Text.isHalf, Bool.and_eq_true, decide_eq_true_iff, decide_eq_true_iff] at isHalf
      rw [Char.ofNat, dif_pos (by unfold Nat.isValidChar; omega)]
      rfl
    rw [escapePoint, if_neg isHalf, Char.ofNat_toNat]
    by_cases isQuote : c = '"'
    · subst isQuote
      exact .escape rfl reads
    by_cases isBackslash : c = '\\'
    · subst isBackslash
      exact .escape rfl reads
    · rw [escape_of_le isLarge isQuote isBackslash]
      exact .plain (isUnescaped_of_ne isLarge isPoint
        (fun isCode => isQuote (Char.toNat_inj.mp isCode))
        (fun isCode => isBackslash (Char.toNat_inj.mp isCode))) reads

/-- What is written as a part is that code point, since control characters form no pairs. -/
private theorem codePoints_cons_writtenPart
    (point : Nat)
    (parts : List StringPart) :
    codePoints (writtenPart point :: parts) = point :: codePoints parts := by
  unfold writtenPart
  split
  · next isControl =>
      have isNoHalf : isHighHalf point = false := by
        rw [isHighHalf, Bool.and_eq_false_iff, decide_eq_false_iff_not]
        exact .inl (by omega)
      rcases parts with _ | ⟨_ | low, others⟩ <;> simp [codePoints, isNoHalf]
  · rfl

/-- Code points in quotes are a string of them. -/
theorem readsString_stringPoints
    {content : List Nat}
    (arePoints : ∀ point ∈ content, point ≤ 0x10FFFF)
    (rest : List Nat) :
    ∃ inside parts, stringPoints content ++ rest = 0x22 :: inside ∧
      ReadsString inside parts rest ∧ codePoints parts = content := by
  refine ⟨content.flatMap escapePoint ++ 0x22 :: rest, content.map writtenPart, ?_, ?_, ?_⟩
  · simp [stringPoints]
  · induction content with
    | nil => exact .close rest
    | cons point others inductionHypothesis =>
        obtain ⟨isPoint, arePoints⟩ := List.forall_mem_cons.mp arePoints
        rw [List.flatMap_cons, List.append_assoc]
        exact readsString_escapePoint isPoint (inductionHypothesis arePoints)
  · clear arePoints
    induction content with
    | nil => rfl
    | cons point others inductionHypothesis =>
        rw [List.map_cons, codePoints_cons_writtenPart, inductionHypothesis]

end Strings

/-! ## Documents of values -/

/-- A string of characters. -/
def Document.ofText (content : String) : Document :=
  .string (codes content.toList)

mutual

/-- The document that a value is written as. -/
def document : Value → Document
  | .null => .null
  | .bool truth => .bool truth
  | .int number => .number (.int number)
  | .float number => if number.isFinite then .number (.float number) else .word number
  | .text content => .ofText content
  | .unpaired points => .string points
  | .bytes octets => .ofText (Text.quotedBytes octets)
  | .timestamp time => .ofText time.text
  | .set members => .ofText (Value.set members).display
  | .again _ => .ofText "..."
  | .pair first second => .array [document first, document second]
  | .list items => .array (documents items)
  | .map entries => .object (documentMembers entries)

/-- The documents that items are written as. -/
def documents : List Value → List Document
  | [] => []
  | item :: rest => document item :: documents rest

/-- The members that entries are written as. -/
def documentMembers : List (Key × Value) → List (List Nat × Document)
  | [] => []
  | (key, value) :: rest => (namePoints key, document value) :: documentMembers rest

end

section Layout

variable {extended : Bool}

private theorem skipsBlanks_of_forall
    {blanks : List Nat}
    (areBlank : ∀ point ∈ blanks, isBlankPoint point = true)
    (rest : List Nat) :
    SkipsBlanks (blanks ++ rest) rest := by
  induction blanks with
  | nil => exact .stop rest
  | cons point others inductionHypothesis =>
      obtain ⟨isBlank, areBlank⟩ := List.forall_mem_cons.mp areBlank
      exact .skip isBlank (inductionHypothesis areBlank)

private theorem skipsBlanks_lineBreak
    (layout : Layout)
    (depth : Nat)
    (rest : List Nat) :
    SkipsBlanks (codes (layout.lineBreak depth) ++ rest) rest := by
  refine skipsBlanks_of_forall (fun point member => ?_) rest
  obtain ⟨c, isBlank, rfl⟩ := List.mem_map.mp member
  cases layout with
  | compact | spaced => cases isBlank
  | indented width =>
      rcases List.mem_cons.mp isBlank with rfl | isSpace
      · rfl
      · rw [List.eq_of_mem_replicate isSpace]
        rfl

private theorem skipsBlanks_afterComma
    (layout : Layout)
    (depth : Nat)
    (rest : List Nat) :
    SkipsBlanks (codes (layout.afterComma depth) ++ rest) rest := by
  cases layout with
  | spaced => exact .skip rfl (.stop rest)
  | compact => exact skipsBlanks_lineBreak .compact depth rest
  | indented width => exact skipsBlanks_lineBreak (.indented width) depth rest

/-- A colon stands behind a name, and blanks behind the colon. -/
private theorem exists_afterName
    (layout : Layout)
    (rest : List Nat) :
    ∃ next, codes layout.afterName ++ rest = 0x3A :: next ∧ SkipsBlanks next rest := by
  cases layout with
  | compact => exact ⟨rest, rfl, .stop rest⟩
  | spaced | indented => exact ⟨0x20 :: rest, rfl, .skip rfl (.stop rest)⟩

theorem codes_escape (c : Char) : codes (escape c) = escapePoint c.toNat := by
  rw [escapePoint, Text.isHalf_toNat, if_neg Bool.false_ne_true, Char.ofNat_toNat, codes]

theorem stringPoints_codes (content : List Char) :
    stringPoints (codes content) = codes ('"' :: (content.flatMap escape ++ ['"'])) := by
  have sameParts : (codes content).flatMap escapePoint = codes (content.flatMap escape) := by
    rw [codes, codes, List.flatMap_map, List.map_flatMap]
    simp only [← codes_escape, codes]
  rw [stringPoints, sameParts]
  simp [codes]

private theorem le_of_mem_codes
    {characters : List Char} :
    ∀ point ∈ codes characters, point ≤ 0x10FFFF := by
  intro point member
  obtain ⟨c, -, rfl⟩ := List.mem_map.mp member
  exact Text.toNat_le_lastPoint c

/-- Code points in quotes are read as a string. -/
private theorem reads_string
    {content : List Nat}
    (arePoints : ∀ point ∈ content, point ≤ 0x10FFFF)
    (rest : List Nat) :
    Reads extended (stringPoints content ++ rest) (.value (.string content)) rest := by
  obtain ⟨inside, parts, isText, reads, rfl⟩ := readsString_stringPoints arePoints rest
  rw [isText]
  exact .string reads

/-- Characters in quotes are read as a string. -/
private theorem reads_ofText
    (content : String)
    (rest : List Nat) :
    Reads extended (codes (stringCharacters content) ++ rest) (.value (.ofText content)) rest := by
  rw [stringCharacters, ← stringPoints_codes]
  exact reads_string le_of_mem_codes rest

private theorem reads_word
    {word : String}
    {document : Document}
    (isWord : (word.toList, document) ∈ documentWords extended)
    (rest : List Nat) :
    Reads extended (codes word.toList ++ rest) (.value document) rest :=
  .token rest (.word isWord)

private theorem reads_float
    {number : Binary64}
    (isDouble : number.IsDouble)
    (isFinite : extended = false → number.isFinite = true)
    (rest : List Nat) :
    Reads extended (codes (floatText number).toList ++ rest)
      (.value (if number.isFinite then .number (.float number) else .word number)) rest := by
  cases number with
  | finite => exact .token rest (.number (isNumber_text isDouble))
  | nan =>
      cases extended with
      | false => cases isFinite rfl
      | true =>
          exact reads_word (by simp [documentWords, floatText, Binary64.isFinite]) rest
  | infinite negative =>
      cases extended with
      | false => cases isFinite rfl
      | true =>
          cases negative <;>
            exact reads_word (by simp [documentWords, floatText, Binary64.isFinite]) rest

/-- The name of an entry is read as a string. -/
private theorem exists_name
    {key : Key}
    (genuine : key.IsGenuine)
    (rest : List Nat) :
    ∃ inside parts, stringPoints (namePoints key) ++ rest = 0x22 :: inside ∧
      ReadsString inside parts rest ∧ codePoints parts = namePoints key := by
  refine readsString_stringPoints ?_ rest
  cases key with
  | unpaired points => exact genuine.2
  | _ => exact le_of_mem_codes

/-- An entry at the front of a text is read as a member. -/
private theorem reads_member
    (layout : Layout)
    {key : Key}
    {text start stop : List Nat}
    {document : Document}
    (genuine : key.IsGenuine)
    (before : SkipsBlanks text (stringPoints (namePoints key) ++ (codes layout.afterName ++ start)))
    {left : List Nat}
    (reads : Reads extended start (.value document) left)
    (after : SkipsBlanks left stop) :
    Reads extended text (.member (namePoints key) document) stop := by
  obtain ⟨next, isColon, blanks⟩ := exists_afterName layout start
  obtain ⟨inside, parts, isQuote, readsName, isName⟩ := exists_name genuine (0x3A :: next)
  rw [isColon, isQuote] at before
  rw [← isName]
  exact .member before readsName (.stop _) (.padded blanks reads after)

private theorem reads_null (rest : List Nat) :
    Reads extended (codes "null".toList ++ rest) (.value .null) rest :=
  @reads_word _ "null" _ (List.mem_append_left _ (by simp)) rest

private theorem reads_bool
    (truth : Bool)
    (rest : List Nat) :
    Reads extended (codes (if truth then "true" else "false").toList ++ rest)
      (.value (.bool truth)) rest := by
  cases truth with
  | false => exact @reads_word _ "false" _ (List.mem_append_left _ (by simp)) rest
  | true => exact @reads_word _ "true" _ (List.mem_append_left _ (by simp)) rest

private theorem reads_int
    (number : Int)
    (rest : List Nat) :
    Reads extended (codes (Text.signedDecimal number).toList ++ rest)
      (.value (.number (.int number))) rest :=
  .token rest (.number (isNumber_signedDecimal number))

mutual

/-- The text of a value is read as its document. -/
theorem reads_points
    (layout : Layout)
    (depth : Nat) : (value : Value) → value.IsGenuine →
    (extended = false → value.IsFinite) → (rest : List Nat) →
    Reads extended (points layout depth value ++ rest) (.value (document value)) rest
  | .null, _, _, rest => reads_null rest
  | .bool truth, _, _, rest => reads_bool truth rest
  | .int number, _, _, rest => reads_int number rest
  | .float number, isDouble, isFinite, rest => reads_float isDouble isFinite rest
  | .text content, _, _, rest => reads_ofText content rest
  | .unpaired _, arePoints, _, rest => reads_string arePoints.2 rest
  | .bytes octets, _, _, rest => reads_ofText (Text.quotedBytes octets) rest
  | .timestamp time, _, _, rest => reads_ofText time.text rest
  | .set members, _, _, rest => reads_ofText (Value.set members).display rest
  | .again _, _, _, rest => reads_ofText "..." rest
  | .list [], _, _, rest => .emptyArray (.stop (0x5D :: rest))
  | .map [], _, _, rest => .emptyObject (.stop (0x7D :: rest))
  | .pair first second, genuine, finite, rest => by
      have closes := skipsBlanks_lineBreak layout depth (0x5D :: rest)
      have readsFirst := reads_points layout (depth + 1) first genuine.1
        fun strict => (finite strict).1
      have readsSecond := reads_points layout (depth + 1) second genuine.2
        (fun strict => (finite strict).2)
        (codes (layout.lineBreak depth) ++ 0x5D :: rest)
      have reads := Reads.array
        (.item (.padded (skipsBlanks_lineBreak layout (depth + 1) _) (readsFirst _) (.stop _))
          (.lastItem (.padded (skipsBlanks_afterComma layout (depth + 1) _) readsSecond closes)))
      simpa [points, document, codes] using reads
  | .list (first :: others), genuine, finite, rest => by
      have readsFirst := reads_points layout (depth + 1) first genuine.1
        (fun strict => (finite strict).1)
        (itemPoints layout (depth + 1) others ++ (codes (layout.lineBreak depth) ++ 0x5D :: rest))
      have reads := Reads.array
        (reads_itemPoints layout (depth + 1) others genuine.2
          (fun strict => (finite strict).2)
          (skipsBlanks_lineBreak layout depth (0x5D :: rest))
          fun _ after => .padded (skipsBlanks_lineBreak layout (depth + 1) _) readsFirst after)
      simpa [points, document, documents, codes] using reads
  | .map ((key, value) :: others), genuine, finite, rest => by
      have readsValue := reads_points layout (depth + 1) value genuine.1.2
        (fun strict => (finite strict).1.2)
        (entryPoints layout (depth + 1) others ++ (codes (layout.lineBreak depth) ++ 0x7D :: rest))
      have reads := Reads.object
        (reads_entryPoints layout (depth + 1) others genuine.2
          (fun strict => (finite strict).2)
          (skipsBlanks_lineBreak layout depth (0x7D :: rest))
          fun _ after =>
            reads_member layout genuine.1.1 (skipsBlanks_lineBreak layout (depth + 1) _) readsValue
              after)
      simpa [points, document, documentMembers, codes] using reads

private theorem reads_itemPoints
    (layout : Layout)
    (depth : Nat) : (items : List Value) → Value.AreGenuine items →
    (extended = false → Value.AreFinite items) → {text closing rest : List Nat} →
    {first : Document} → SkipsBlanks closing (0x5D :: rest) →
    (∀ stop, SkipsBlanks (itemPoints layout depth items ++ closing) stop →
      Reads extended text (.padded first) stop) →
    Reads extended text (.items (first :: documents items)) (0x5D :: rest)
  | [], _, _, _, _, _, _, closes, readsFirst => .lastItem (readsFirst _ closes)
  | item :: others, genuine, finite, _, closing, _, _, closes, readsFirst => by
      refine .item (readsFirst _ (.stop _)) ?_
      refine reads_itemPoints layout depth others genuine.2 ?_ closes fun stop after => ?_
      · intro strict
        exact (finite strict).2
      · have start := skipsBlanks_afterComma layout depth
          (points layout depth item ++ (itemPoints layout depth others ++ closing))
        have reads := reads_points layout depth item genuine.1
          (fun strict => (finite strict).1)
          (itemPoints layout depth others ++ closing)
        simpa [codes] using Reads.padded start reads after

private theorem reads_entryPoints
    (layout : Layout)
    (depth : Nat) : (entries : List (Key × Value)) → Value.HoldGenuine entries →
    (extended = false → Value.HoldFinite entries) → {text closing rest : List Nat} →
    {name : List Nat} → {first : Document} → SkipsBlanks closing (0x7D :: rest) →
    (∀ stop, SkipsBlanks (entryPoints layout depth entries ++ closing) stop →
      Reads extended text (.member name first) stop) →
    Reads extended text (.members ((name, first) :: documentMembers entries)) (0x7D :: rest)
  | [], _, _, _, _, _, _, _, closes, readsFirst => .lastMember (readsFirst _ closes)
  | (key, value) :: others, genuine, finite, _, closing, _, _, _, closes, readsFirst => by
      refine .memberAndOthers (readsFirst _ (.stop _)) ?_
      refine reads_entryPoints layout depth others genuine.2 ?_ closes fun stop after => ?_
      · intro strict
        exact (finite strict).2
      · have readsValue := reads_points layout depth value genuine.1.2
          (fun strict => (finite strict).1.2)
          (entryPoints layout depth others ++ closing)
        have reads :=
          reads_member layout genuine.1.1 (skipsBlanks_afterComma layout depth _) readsValue after
        simpa [codes] using reads

end

end Layout

end Json

end TypeCatalog
