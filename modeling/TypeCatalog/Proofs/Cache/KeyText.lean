import TypeCatalog.Cache.Key
import TypeCatalog.Proofs.Digest.Sha256

namespace TypeCatalog.CacheKey

/-!
# Reading parts back from the text of a key

Escaping takes the separators out of every part, so the text of a key can be cut into its parts
again, and no two different lists of part texts make one key text.  A key ends with the digest of
its whole text, which has a fixed length, so equal keys have equal digests whatever stands in
front of them.
-/

/-- Reads escaped characters back. -/
def unescape : List Char → List Char
  | '%' :: '2' :: '5' :: rest => '%' :: unescape rest
  | '%' :: '7' :: 'C' :: rest => '|' :: unescape rest
  | '%' :: '2' :: 'C' :: rest => ',' :: unescape rest
  | c :: rest => c :: unescape rest
  | [] => []

private theorem unescape_escapeCharacter_append
    (c : Char)
    (rest : List Char) :
    unescape (escapeCharacter c ++ rest) = c :: unescape rest := by
  unfold escapeCharacter
  split
  · next isPercent =>
      rw [isPercent]
      rfl
  · next notPercent =>
      split
      · next isBar =>
          rw [isBar]
          rfl
      · split
        · next isComma =>
            rw [isComma]
            rfl
        · rw [List.singleton_append, unescape]
          all_goals
            intro _ startsWithPercent
            exact absurd startsWithPercent notPercent

/-- Escaped characters are read back as they were. -/
theorem unescape_flatMap_escapeCharacter (characters : List Char) :
    unescape (characters.flatMap escapeCharacter) = characters := by
  induction characters with
  | nil =>
      rfl
  | cons c rest inductionHypothesis =>
      rw [List.flatMap_cons, unescape_escapeCharacter_append, inductionHypothesis]

theorem escape_injective
    {first second : String}
    (same : escape first = escape second) :
    first = second := by
  have codesSame :
      first.toList.flatMap escapeCharacter =
        second.toList.flatMap escapeCharacter :=
    String.ofList_injective same
  have readBack := congrArg unescape codesSame
  rw [unescape_flatMap_escapeCharacter,
    unescape_flatMap_escapeCharacter] at readBack
  exact String.toList_injective readBack

@[simp] theorem escape_eq_iff {first second : String} :
    escape first = escape second ↔ first = second :=
  ⟨escape_injective, congrArg escape⟩

/-- An escaped text holds no bar. -/
theorem bar_not_mem_escape (content : String) :
    '|' ∉ (escape content).toList := by
  rw [escape, String.toList_ofList, List.mem_flatMap]
  rintro ⟨c, _, inCode⟩
  unfold escapeCharacter at inCode
  split at inCode
  · exact absurd inCode (by decide)
  · split at inCode
    · exact absurd inCode (by decide)
    · next notBar =>
        split at inCode
        · exact absurd inCode (by decide)
        · exact notBar (List.mem_singleton.mp inCode).symm

private theorem bar_not_mem_intercalate_comma
    {parts : List String}
    (free : ∀ part ∈ parts, '|' ∉ part.toList) :
    '|' ∉ (",".intercalate parts).toList := by
  induction parts with
  | nil =>
      decide
  | cons part rest inductionHypothesis =>
      have headFree := free part (by simp)
      have restFree :=
        inductionHypothesis fun other member =>
          free other (List.mem_cons_of_mem part member)
      cases rest with
      | nil =>
          simpa using headFree
      | cons next others =>
          rw [String.intercalate_cons_cons, String.toList_append, String.toList_append,
            List.mem_append, List.mem_append, not_or, not_or]
          exact ⟨⟨headFree, by decide⟩, restFree⟩

mutual

/-- The text of a part holds no bar, whatever the part is. -/
theorem bar_not_mem_partText : ∀ part : Value, '|' ∉ (partText part).toList
  | .null => by decide
  | .bool true => by decide
  | .bool false => by decide
  | .list items => by
      rw [partText]
      exact bar_not_mem_intercalate_comma (bar_not_mem_of_mem_partTexts items)
  | .int _ | .float _ | .text _ | .unpaired _ | .bytes _ | .timestamp _ | .pair .. | .set _
  | .map _ | .again _ => by
      rw [partText]
      · exact bar_not_mem_escape _
      all_goals simp

/-- None of the texts of several parts holds a bar. -/
theorem bar_not_mem_of_mem_partTexts :
    ∀ parts : List Value, ∀ content ∈ partTexts parts, '|' ∉ content.toList
  | [], _, member => by
      rw [partTexts] at member
      exact absurd member List.not_mem_nil
  | part :: rest, content, member => by
      rw [partTexts] at member
      rcases List.mem_cons.mp member with isHead | inRest
      · rw [isHead]
        exact bar_not_mem_partText part
      · exact bar_not_mem_of_mem_partTexts rest content inRest

end

/-- The texts of several parts are the texts of each. -/
@[simp] theorem partTexts_eq_map (parts : List Value) :
    partTexts parts = parts.map partText := by
  induction parts with
  | nil =>
      rfl
  | cons part rest inductionHypothesis =>
      rw [partTexts, inductionHypothesis, List.map_cons]

@[simp] theorem partText_text (content : String) :
    partText (.text content) = escape content := by
  simp [partText, Value.display]

@[simp] theorem partText_bool_eq_iff {first second : Bool} :
    partText (.bool first) = partText (.bool second) ↔ first = second := by
  cases first <;> cases second <;> decide

@[simp] theorem partText_ofNat_eq_iff {first second : Nat} :
    partText (.ofNat first) = partText (.ofNat second) ↔ first = second := by
  constructor
  · intro same
    simp only [Value.ofNat, partText, Value.display, Value.inspect,
      Text.signedDecimal_natCast, escape_eq_iff] at same
    exact Text.decimal_injective same
  · intro same
    rw [same]

@[simp] theorem partText_ofText? (content? : Option String) :
    partText (.ofText? content?) = escape (content?.getD "") := by
  cases content? with
  | none =>
      decide
  | some content =>
      exact partText_text content

/-- The text of a key determines the kind, the version and the text of every part. -/
theorem fullText_injective
    {firstKind secondKind firstVersion secondVersion : String}
    {firstParts secondParts : List Value}
    (firstKindFree : '|' ∉ firstKind.toList)
    (secondKindFree : '|' ∉ secondKind.toList)
    (firstVersionFree : '|' ∉ firstVersion.toList)
    (secondVersionFree : '|' ∉ secondVersion.toList)
    (same :
      fullText firstKind firstVersion firstParts =
        fullText secondKind secondVersion secondParts) :
    firstKind = secondKind ∧ firstVersion = secondVersion ∧
      partTexts firstParts = partTexts secondParts := by
  have listsSame :
      firstKind :: firstVersion :: partTexts firstParts =
        secondKind :: secondVersion :: partTexts secondParts := by
    refine @Text.intercalate_injective '|' _ _ (by simp) (by simp) ?_ ?_ same
    · simpa [firstKindFree, firstVersionFree] using
        bar_not_mem_of_mem_partTexts firstParts
    · simpa [secondKindFree, secondVersionFree] using
        bar_not_mem_of_mem_partTexts secondParts
  simpa using listsSame

theorem fullText_congr
    {kind version : String}
    {firstParts secondParts : List Value}
    (same : firstParts.map partText = secondParts.map partText) :
    fullText kind version firstParts = fullText kind version secondParts := by
  rw [fullText, fullText, partTexts_eq_map, partTexts_eq_map, same]

theorem build_congr
    {kind version : String}
    {firstParts secondParts : List Value}
    (same : firstParts.map partText = secondParts.map partText) :
    build kind version firstParts = build kind version secondParts := by
  rw [build, build, fullText_congr same]

/-- The key that a whole text is kept under. -/
def ofText (whole : String) : String :=
  Text.take Limits.readableKeyLength whole ++ ":" ++ Digest.sha256Text whole

/-- A key is made of its whole text. -/
theorem build_eq_ofText
    (kind version : String)
    (parts : List Value) :
    build kind version parts = ofText (fullText kind version parts) :=
  rfl

/-- Equal keys have equal digests of their whole texts. -/
theorem sha256Text_eq_of_ofText_eq
    {first second : String}
    (same : ofText first = ofText second) :
    Digest.sha256Text first = Digest.sha256Text second := by
  have charactersSame := congrArg String.toList same
  simp only [ofText, String.toList_append] at charactersSame
  have lengthsSame :
      (Digest.sha256Text first).toList.length = (Digest.sha256Text second).toList.length := by
    rw [Digest.length_sha256Text, Digest.length_sha256Text]
  exact String.toList_injective (List.append_inj' charactersSame lengthsSame).2

end TypeCatalog.CacheKey
