import TypeCatalog.Digest.Sha256
import TypeCatalog.Proofs.Text.Numeral

namespace TypeCatalog

/-!
# The shape of digests

A digest is sixty-four hexadecimal digits, whatever text it is taken of.
-/

namespace Text

/-- Each digit of a numeral stands for a value below the base. -/
theorem exists_digitChar_of_mem_toDigits
    {base number : Nat}
    {c : Char}
    (baseLarge : 1 < base)
    (member : c ∈ Nat.toDigits base number) :
    ∃ digit, digit < base ∧ c = Nat.digitChar digit := by
  induction number using Nat.strongRecOn with
  | ind number inductionHypothesis =>
      rw [Nat.toDigits_eq_if baseLarge] at member
      split at member
      · next below =>
          exact ⟨number, below, List.mem_singleton.mp member⟩
      · next notBelow =>
          rcases List.mem_append.mp member with earlier | last
          · have smaller : number / base < number :=
              Nat.div_lt_self (by omega) baseLarge
            exact inductionHypothesis (number / base) smaller earlier
          · exact ⟨number % base, Nat.mod_lt number (by omega), List.mem_singleton.mp last⟩

/-- Every digit of a hexadecimal numeral is an ASCII character other than a colon. -/
theorem hexadecimal_characters
    {width number : Nat}
    {c : Char}
    (member : c ∈ (hexadecimal width number).toList) :
    c.toNat < 0x80 ∧ c ≠ ':' := by
  simp only [hexadecimal, padLeft, String.toList_ofList, List.mem_append] at member
  rcases member with isPadding | isDigit
  · rw [List.eq_of_mem_replicate isPadding]
    decide
  · obtain ⟨digit, below, rfl⟩ :=
      exists_digitChar_of_mem_toDigits (by decide) isDigit
    clear isDigit
    revert digit
    decide

end Text

namespace Digest

/-- A digest has sixty-four characters. -/
theorem length_sha256Text (text : String) :
    (sha256Text text).toList.length = 64 := by
  have wordLength (word : UInt32) :
      (Text.hexadecimal 8 word.toNat).toList.length = 8 :=
    Text.length_hexadecimal (by decide) word.toNat_lt
  simp [sha256Text, wordLength]

/-- Every character of a digest is an ASCII character other than a colon. -/
theorem sha256Text_characters
    {text : String}
    {c : Char}
    (member : c ∈ (sha256Text text).toList) :
    c.toNat < 0x80 ∧ c ≠ ':' := by
  simp only [sha256Text, String.toList_join, List.mem_flatMap, List.mem_map] at member
  obtain ⟨_, ⟨word, _, rfl⟩, inWord⟩ := member
  exact Text.hexadecimal_characters inWord

end Digest

end TypeCatalog
