import Mathlib.Data.List.Basic
import TypeCatalog.Text.LetterCase
import TypeCatalog.Text.Split

namespace TypeCatalog.Text

/-!
# Folding beside separators

Folding neither makes nor removes a sign that stands below the letters.  So a folded name has its
separators where the name has them, and one of them may be read as the other before or after
folding.
-/

/-- Whether a character stands below all letters, as the separators of names do. -/
def IsSign (c : Char) : Prop :=
  0 < c.toNat ∧ c.toNat < 'A'.toNat

instance (c : Char) : Decidable (IsSign c) :=
  inferInstanceAs (Decidable (_ ∧ _))

theorem isSign_dot : IsSign '.' := by
  decide

theorem isSign_plus : IsSign '+' := by
  decide

/-! ## Characters -/

private theorem not_isSign_ofNat
    {number : Nat}
    (above : 'A'.toNat ≤ number) :
    ¬ IsSign (Char.ofNat number) := by
  rintro ⟨positive, below⟩
  by_cases valid : number.isValidChar
  · have keepsNumber : (Char.ofNat number).toNat = number := by
      rw [Char.ofNat, dif_pos valid]
      rfl
    omega
  · rw [Char.ofNat, dif_neg valid] at positive
    exact Nat.lt_irrefl 0 positive

private theorem toLower_cases :
    ∀ number < 0x80,
      (Char.ofNat number).toLower = Char.ofNat number ∨
        ¬ IsSign (Char.ofNat number) ∧ ¬ IsSign (Char.ofNat number).toLower := by
  decide +kernel

private theorem le_of_mem_caseFoldSequences :
    ∀ entry ∈ caseFoldSequences, ∀ number ∈ entry.2, 'A'.toNat ≤ number := by
  decide +kernel

private theorem le_of_mem_caseFoldRuns :
    ∀ run ∈ caseFoldRuns, ('A'.toNat : Int) ≤ run.1 + run.2.2.2 := by
  decide +kernel

/-- A character is folded to itself, or neither it nor anything that it is folded to is a sign. -/
theorem foldCharacter_cases (c : Char) :
    foldCharacter c = [c] ∨ ¬ IsSign c ∧ ∀ folded ∈ foldCharacter c, ¬ IsSign folded := by
  by_cases ascii : c.toNat < 0x80
  · rw [foldCharacter, if_pos ascii]
    have cases := toLower_cases c.toNat ascii
    rw [Char.ofNat_toNat] at cases
    rcases cases with same | ⟨notSign, lowerNotSign⟩
    · exact .inl (congrArg List.singleton same)
    · exact .inr ⟨notSign, List.forall_mem_singleton.mpr lowerNotSign⟩
  · have notSign : ¬ IsSign c := by
      rintro ⟨_, below⟩
      have belowAscii : 'A'.toNat < 0x80 := by decide
      omega
    rw [foldCharacter, if_neg ascii]
    split
    · next entry found =>
        refine .inr ⟨notSign, List.forall_mem_map.mpr fun number member => ?_⟩
        exact not_isSign_ofNat
          (le_of_mem_caseFoldSequences entry (List.mem_of_find?_eq_some found) number member)
    · split
      · next run found =>
          refine .inr ⟨notSign, List.forall_mem_singleton.mpr (not_isSign_ofNat ?_)⟩
          have bound := le_of_mem_caseFoldRuns run (List.mem_of_find?_eq_some found)
          have inRun := List.find?_some found
          simp only [Bool.and_eq_true, decide_eq_true_eq] at inRun
          omega
      · exact .inl rfl

theorem foldCharacter_of_isSign
    {mark : Char}
    (isSign : IsSign mark) :
    foldCharacter mark = [mark] := by
  rcases foldCharacter_cases mark with same | ⟨notSign, _⟩
  · exact same
  · exact absurd isSign notSign

/-- Only a sign is folded to a sign. -/
theorem mem_foldCharacter_iff
    {mark c : Char}
    (isSign : IsSign mark) :
    mark ∈ foldCharacter c ↔ mark = c := by
  rcases foldCharacter_cases c with same | ⟨notSign, noneSign⟩
  · rw [same, List.mem_singleton]
  · constructor
    · intro member
      exact absurd isSign (noneSign mark member)
    · rintro rfl
      exact absurd isSign notSign

/-! ## Texts -/

theorem mem_foldFor_iff
    {mark : Char}
    (isSign : IsSign mark)
    (caseSensitive : Bool)
    (text : String) :
    mark ∈ (foldFor caseSensitive text).toList ↔ mark ∈ text.toList := by
  cases caseSensitive with
  | true =>
      rfl
  | false =>
      change mark ∈ (String.ofList (foldCharacters text.toList)).toList ↔ _
      simp [foldCharacters, mem_foldCharacter_iff isSign]

/-- A sign may be put in the place of another before or after folding. -/
theorem replaceCharacter_foldFor
    {old new : Char}
    (oldIsSign : IsSign old)
    (newIsSign : IsSign new)
    (caseSensitive : Bool)
    (text : String) :
    replaceCharacter old new (foldFor caseSensitive text) =
      foldFor caseSensitive (replaceCharacter old new text) := by
  cases caseSensitive with
  | true =>
      rfl
  | false =>
      have characterwise (c : Char) :
          (foldCharacter c).map (fun folded => if folded = old then new else folded) =
            foldCharacter (if c = old then new else c) := by
        by_cases isOld : c = old
        · rw [isOld, if_pos rfl, foldCharacter_of_isSign oldIsSign,
            foldCharacter_of_isSign newIsSign, List.map_singleton, if_pos rfl]
        · rw [if_neg isOld]
          have noneOld :
              ∀ folded ∈ foldCharacter c, (if folded = old then new else folded) = folded := by
            intro folded member
            refine if_neg ?_
            rintro rfl
            exact isOld ((mem_foldCharacter_iff oldIsSign).mp member).symm
          rw [List.map_congr_left noneOld, List.map_id']
      simp [replaceCharacter, foldFor, caseFold, foldCharacters, List.map_flatMap,
        List.flatMap_map, characterwise]

end TypeCatalog.Text
