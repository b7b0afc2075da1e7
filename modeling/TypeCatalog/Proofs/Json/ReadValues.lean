import TypeCatalog.Json.Reader
import TypeCatalog.Proofs.Number.Doubles
import TypeCatalog.Proofs.Value.Contents

namespace TypeCatalog.Json

/-!
# What is read from JSON texts

A value is read part by part.  What holds of all parts and is kept when they are put together holds of
the value; so each value that is read is genuine, and, since of entries with the same key the last one
counts, it has unique keys.
-/

/-- A property of values and one of keys that hold of everything that is read part by part: of
single values, of lists of such values, and of mappings whose entries are set in their order. -/
structure HoldsOfParts
    (holds : Value → Prop)
    (keyHolds : Key → Prop) : Prop where
  null : holds .null
  bool (truth : Bool) : holds (.bool truth)
  int (number : Int) : holds (.int number)
  float {number : Binary64} : number.IsDouble → holds (.float number)
  text {written : Text.Written} :
    written.IsGenuine → holds (.ofWritten written) ∧ keyHolds (.ofWritten written)
  list {items : List Value} : (∀ item ∈ items, holds item) → holds (.list items)
  map {entries : List (Key × Value)} :
    (∀ entry ∈ entries, keyHolds entry.1 ∧ holds entry.2) → holds (.map (Value.collect entries))

/-! ## Strings -/

private theorem lt_of_hexadecimalDigit?
    {c : Char}
    {digit : Nat}
    (isDigit : Text.hexadecimalDigit? c = some digit) :
    digit < 16 := by
  have toNat_le : ∀ {last : Char}, c ≤ last → c.toNat ≤ last.toNat := id
  simp only [Text.hexadecimalDigit?, Bool.and_eq_true, decide_eq_true_eq] at isDigit
  split_ifs at isDigit with inRange inRange inRange
  all_goals
    have notAbove := toNat_le inRange.2
    cases isDigit
    simp at notAbove
    omega

private theorem lt_of_fourDigits?
    {a b c d : Char}
    {unit : Nat}
    (areDigits : fourDigits? a b c d = some unit) :
    unit < 0x10000 := by
  simp only [fourDigits?, bind, Option.bind_eq_some_iff] at areDigits
  obtain ⟨first, isFirst, second, isSecond, third, isThird, fourth, isFourth, isUnit⟩ := areDigits
  have := lt_of_hexadecimalDigit? isFirst
  have := lt_of_hexadecimalDigit? isSecond
  have := lt_of_hexadecimalDigit? isThird
  have := lt_of_hexadecimalDigit? isFourth
  cases isUnit
  omega

private theorem pair_le_lastPoint
    {high low : Nat}
    (isHigh : isHighHalf high = true)
    (isLow : isLowHalf low = true) :
    0x10000 + (high - 0xD800) * 1024 + (low - 0xDC00) ≤ 0x10FFFF := by
  simp only [isHighHalf, isLowHalf, Bool.and_eq_true, decide_eq_true_eq] at isHigh isLow
  omega

/-- A string that is read is a sequence of code points. -/
theorem isGenuine_of_readString
    {start : List Char}
    {done : List Nat}
    {inside rest : List Char}
    {written : Text.Written}
    (isRead : readString start done inside = .ok (written, rest))
    (bounded : ∀ point ∈ done, point ≤ 0x10FFFF) :
    written.IsGenuine := by
  have unit_le : ∀ {a b c d : Char} {unit : Nat}, fourDigits? a b c d = some unit →
      unit ≤ 0x10FFFF := fun areDigits => by
    have := lt_of_fourDigits? areDigits
    omega
  fun_induction readString start done inside with
  | case2 =>
      cases isRead
      exact Text.Written.isGenuine_ofPoints fun point member =>
        bounded point (List.mem_reverse.mp member)
  | case6 _ _ _ _ _ _ _ _ _ _ _ _ isHigh _ _ isLow inductionHypothesis =>
      have point_le := pair_le_lastPoint (Bool.and_eq_true_iff.mp isHigh).1 isLow
      exact inductionHypothesis isRead (List.forall_mem_cons.mpr ⟨point_le, bounded⟩)
  | case7 _ _ _ _ _ _ _ _ _ _ _ areDigits _ _ _ _ inductionHypothesis
  | case8 _ _ _ _ _ _ _ _ _ _ _ areDigits _ inductionHypothesis
  | case10 _ _ _ _ _ _ _ _ _ areDigits inductionHypothesis =>
      exact inductionHypothesis isRead (List.forall_mem_cons.mpr ⟨unit_le areDigits, bounded⟩)
  | case12 _ _ _ _ _ _ character _ inductionHypothesis =>
      exact inductionHypothesis isRead
        (List.forall_mem_cons.mpr ⟨Text.toNat_le_lastPoint character, bounded⟩)
  | case15 _ c _ _ _ _ _ _ _ _ inductionHypothesis =>
      exact inductionHypothesis isRead (List.forall_mem_cons.mpr ⟨Text.toNat_le_lastPoint c, bounded⟩)
  | case1 | case3 | case4 | case5 | case9 | case11 | case13 | case14 =>
      simp [failAt] at isRead

/-! ## Values -/

section Values

variable
  {holds : Value → Prop}
  {keyHolds : Key → Prop}

/-- Whether a property holds of what is read. -/
def ReadsHolding
    (holds : Value → Prop)
    (outcome : Except Failure (Value × List Char)) : Prop :=
  ∀ value rest, outcome = .ok (value, rest) → holds value

private theorem readsHolding_error
    (failure : Failure) :
    ReadsHolding holds (.error failure) := by
  rintro value rest ⟨⟩

private theorem readsHolding_ok
    {value : Value}
    (isSo : holds value)
    (rest : List Char) :
    ReadsHolding holds (.ok (value, rest)) := by
  rintro _ _ ⟨⟩
  exact isSo

variable (ofParts : HoldsOfParts holds keyHolds)

include ofParts

private theorem holds_of_readWord?
    {rest after : List Char}
    {value : Value}
    (found : readWord? rest = some (value, after)) :
    holds value := by
  unfold readWord? at found
  obtain ⟨word, isWord, matched⟩ := List.exists_of_findSome?_eq_some found
  split at matched
  · cases matched
    simp only [List.mem_cons, List.not_mem_nil, or_false] at isWord
    rcases isWord with rfl | rfl | rfl | rfl | rfl | rfl
    · exact ofParts.null
    · exact ofParts.bool true
    · exact ofParts.bool false
    · exact ofParts.float trivial
    · exact ofParts.float trivial
    · exact ofParts.float trivial
  · cases matched

private theorem readsHolding_readNumber
    (start : List Char) :
    ReadsHolding holds (readNumber start) := by
  simp only [readNumber]
  generalize wholeDigits (if start.head? = some '-' then start.drop 1 else start) = digits
  by_cases isEmpty : digits.1.isEmpty = true
  · rw [if_pos isEmpty]
    exact readsHolding_error _
  · rw [if_neg isEmpty]
    split
    · by_cases tooLong : digits.1.length > Text.digitLimit
      · rw [if_pos tooLong]
        exact readsHolding_error _
      · rw [if_neg tooLong]
        exact readsHolding_ok (ofParts.int _) _
    · exact readsHolding_ok (ofParts.float (Binary64.isDouble_ofDecimal ..)) _

private theorem readsHolding_readString
    (start inside : List Char) :
    ReadsHolding holds
      ((readString start [] inside).map fun found => (.ofWritten found.1, found.2)) := by
  cases isRead : readString start [] inside with
  | error failure => exact readsHolding_error failure
  | ok found =>
      have genuine := isGenuine_of_readString isRead (List.forall_mem_nil _)
      exact readsHolding_ok (ofParts.text genuine).1 found.2

private theorem readsHolding_readValue
    {fuel : Nat}
    (ofItems : ∀ room done rest, (∀ item ∈ done, holds item) →
      ReadsHolding holds (readItems fuel room done rest))
    (ofEntries : ∀ room (done : List (Key × Value)) rest,
      (∀ entry ∈ done, keyHolds entry.1 ∧ holds entry.2) →
        ReadsHolding holds (readEntries fuel room done rest))
    (room : Nat)
    (rest : List Char) :
    ReadsHolding holds (readValue (fuel + 1) room rest) := by
  unfold readValue
  split
  · exact readsHolding_readString ofParts _ _
  · split
    · exact readsHolding_error _
    · split
      · exact readsHolding_ok (ofParts.list (List.forall_mem_nil _)) _
      · exact ofItems _ _ _ (List.forall_mem_nil _)
  · split
    · exact readsHolding_error _
    · split
      · exact readsHolding_ok (ofParts.map (List.forall_mem_nil _)) _
      · exact ofEntries _ _ _ (List.forall_mem_nil _)
  · split
    · next found isWord =>
        exact readsHolding_ok (holds_of_readWord? ofParts isWord) found.2
    · exact readsHolding_readNumber ofParts _

private theorem readsHolding_readItems
    {fuel : Nat}
    (ofValue : ∀ room rest, ReadsHolding holds (readValue fuel room rest))
    (ofItems : ∀ room done rest, (∀ item ∈ done, holds item) →
      ReadsHolding holds (readItems fuel room done rest))
    (room : Nat)
    {done : List Value}
    (rest : List Char)
    (hold : ∀ item ∈ done, holds item) :
    ReadsHolding holds (readItems (fuel + 1) room done rest) := by
  unfold readItems
  split
  · exact readsHolding_error _
  · next item after isRead =>
      have allHold : ∀ other ∈ item :: done, holds other :=
        List.forall_mem_cons.mpr ⟨ofValue _ _ _ _ isRead, hold⟩
      split
      · refine readsHolding_ok (ofParts.list fun other member => ?_) _
        exact allHold other (List.mem_reverse.mp member)
      · exact ofItems _ _ _ allHold
      · exact readsHolding_error _

private theorem readsHolding_readEntries
    {fuel : Nat}
    (ofValue : ∀ room rest, ReadsHolding holds (readValue fuel room rest))
    (ofEntries : ∀ room (done : List (Key × Value)) rest,
      (∀ entry ∈ done, keyHolds entry.1 ∧ holds entry.2) →
        ReadsHolding holds (readEntries fuel room done rest))
    (room : Nat)
    {done : List (Key × Value)}
    (rest : List Char)
    (hold : ∀ entry ∈ done, keyHolds entry.1 ∧ holds entry.2) :
    ReadsHolding holds (readEntries (fuel + 1) room done rest) := by
  unfold readEntries
  split
  · split
    · exact readsHolding_error _
    · next name afterName isName =>
        have nameHolds :=
          (ofParts.text (isGenuine_of_readString isName (List.forall_mem_nil _))).2
        split
        · split
          · exact readsHolding_error _
          · next value after isRead =>
              have allHold : ∀ entry ∈ (Key.ofWritten name, value) :: done,
                  keyHolds entry.1 ∧ holds entry.2 :=
                List.forall_mem_cons.mpr ⟨⟨nameHolds, ofValue _ _ _ _ isRead⟩, hold⟩
              split
              · refine readsHolding_ok (ofParts.map fun entry member => ?_) _
                exact allHold entry (List.mem_reverse.mp member)
              · exact ofEntries _ _ _ allHold
              · exact readsHolding_error _
        · exact readsHolding_error _
  · exact readsHolding_error _

/-- The three readers call one another with less fuel. -/
private theorem readsHolding_within
    (fuel : Nat) :
    (∀ room rest, ReadsHolding holds (readValue fuel room rest)) ∧
      (∀ room done rest, (∀ item ∈ done, holds item) →
        ReadsHolding holds (readItems fuel room done rest)) ∧
      ∀ room (done : List (Key × Value)) rest,
        (∀ entry ∈ done, keyHolds entry.1 ∧ holds entry.2) →
          ReadsHolding holds (readEntries fuel room done rest) := by
  induction fuel with
  | zero =>
      refine ⟨fun _ _ => ?_, fun _ _ _ _ => ?_, fun _ _ _ _ => ?_⟩
      · unfold readValue
        exact readsHolding_error _
      · unfold readItems
        exact readsHolding_error _
      · unfold readEntries
        exact readsHolding_error _
  | succ fuel inductionHypothesis =>
      obtain ⟨ofValue, ofItems, ofEntries⟩ := inductionHypothesis
      exact ⟨fun room rest => readsHolding_readValue ofParts ofItems ofEntries room rest,
        fun room _ rest hold => readsHolding_readItems ofParts ofValue ofItems room rest hold,
        fun room _ rest hold => readsHolding_readEntries ofParts ofValue ofEntries room rest hold⟩

/-- What holds of parts holds of the value that a JSON text writes. -/
theorem holds_of_read
    {text : List Char}
    {value : Value}
    (isRead : read text = .ok value) :
    holds value := by
  unfold read at isRead
  split at isRead
  · cases isRead
  · split at isRead
    · cases isRead
    · next found after foundFirst =>
        split at isRead
        · cases isRead
          exact (readsHolding_within ofParts _).1 _ _ _ _ foundFirst
        · cases isRead

end Values

/-- A value that a JSON text writes is genuine. -/
theorem isGenuine_of_read
    {text : List Char}
    {value : Value}
    (isRead : read text = .ok value) :
    value.IsGenuine := by
  have ofParts : HoldsOfParts Value.IsGenuine Key.IsGenuine :=
    { null := trivial
      bool := fun _ => trivial
      int := fun _ => trivial
      float := id
      text := fun genuine => ⟨genuine.value, genuine.key⟩
      list := Value.isGenuine_list_iff.mpr
      map := fun genuine => Value.isGenuine_collect (Value.isGenuine_map_iff.mpr genuine) }
  exact holds_of_read ofParts isRead

/-- A value that a JSON text writes has unique keys. -/
theorem hasUniqueKeys_of_read
    {text : List Char}
    {value : Value}
    (isRead : read text = .ok value) :
    value.HasUniqueKeys := by
  have ofParts : HoldsOfParts Value.HasUniqueKeys fun _ => True :=
    { null := .single trivial
      bool := fun _ => .single trivial
      int := fun _ => .single trivial
      float := fun _ => .single trivial
      text := fun _ => ⟨.single (Value.isSingle_ofWritten _), trivial⟩
      list := .list
      map := fun unique => Value.hasUniqueKeys_collect fun entry member => (unique entry member).2 }
  exact holds_of_read ofParts isRead

end TypeCatalog.Json
