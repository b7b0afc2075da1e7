import Mathlib.Data.List.Basic
import TypeCatalog.Encoding.Base64

namespace TypeCatalog.Base64

/-!
# Reading Base64

What is written is read back, and only few spellings are read.
-/

/-!
## Reading Base64 back

Reading takes the characters of a group of four one by one.  What a full group of three bytes adds
to what was read before does not depend on it, so bytes are read back by induction on the groups
in which they are written.
-/

private theorem digitValue?_digit :
    ∀ value < 64,
      digitValue? (digit value) = some value ∧ digit value ≠ '=' ∧ (digit value).toNat < 0x80 := by
  decide

private theorem read_digit
    {state : ReaderState}
    {value : Nat}
    (small : value < 64)
    (unpadded : state.padded = false)
    (rest : List Char) :
    read state (digit value :: rest) = read (state.push value) rest := by
  obtain ⟨valueSame, notPadding, _⟩ := digitValue?_digit value small
  rw [read]
  · simp [valueSame, unpadded]
  · exact notPadding

private theorem bytes_of_values
    {a b c : Nat}
    (bSmall : b < 256)
    (cSmall : c < 256) :
    a / 4 * 4 + (a % 4 * 16 + b / 16) / 16 = a ∧
      (a % 4 * 16 + b / 16) % 16 * 16 + (b % 16 * 4 + c / 64) / 4 = b ∧
      (b % 16 * 4 + c / 64) % 4 * 64 + c % 64 = c := by
  omega

/-- A full group adds its three bytes to what was read. -/
private theorem read_group
    {a b c : Nat}
    (aSmall : a < 256)
    (bSmall : b < 256)
    (cSmall : c < 256)
    (done : List Nat)
    (rest : List Char) :
    read ⟨done, 0, 0, 0, false⟩
        (digit (a / 4) :: digit (a % 4 * 16 + b / 16) :: digit (b % 16 * 4 + c / 64) ::
          digit (c % 64) :: rest) =
      read ⟨c :: b :: a :: done, 0, 0, 0, false⟩ rest := by
  obtain ⟨aSame, bSame, cSame⟩ := bytes_of_values (a := a) bSmall cSmall
  rw [read_digit (by omega) rfl, read_digit (by omega) rfl, read_digit (by omega) rfl,
    read_digit (by omega) rfl]
  simp only [ReaderState.push, aSame, bSame, cSame]

private theorem read_encodeBytes
    {bytes : List Nat}
    (small : ∀ byte ∈ bytes, byte < 256)
    (done : List Nat) :
    read ⟨done, 0, 0, 0, false⟩ (encodeBytes bytes) = .ok (done.reverse ++ bytes) := by
  induction bytes using encodeBytes.induct generalizing done with
  | case1 a b c rest inductionHypothesis =>
      have aSmall : a < 256 := small a (by simp)
      have bSmall : b < 256 := small b (by simp)
      have cSmall : c < 256 := small c (by simp)
      rw [encodeBytes, read_group aSmall bSmall cSmall,
        inductionHypothesis fun byte member => small byte (by simp [member])]
      simp
  | case2 a b =>
      have aSmall : a < 256 := small a (by simp)
      have bSmall : b < 256 := small b (by simp)
      obtain ⟨aSame, _, _⟩ := bytes_of_values (a := a) (c := 0) bSmall (by decide)
      have bSame : b / 16 % 16 * 16 + b % 16 = b := by
        omega
      rw [encodeBytes, read_digit (by omega) rfl, read_digit (by omega) rfl,
        read_digit (by omega) rfl]
      simp [ReaderState.push, read, aSame, bSame]
  | case3 a =>
      have aSmall : a < 256 := small a (by simp)
      have aSame : a / 4 * 4 + a % 4 = a := by
        omega
      rw [encodeBytes, read_digit (by omega) rfl, read_digit (by omega) rfl]
      simp [ReaderState.push, read, aSame]
  | case4 =>
      simp [encodeBytes, read]

private theorem decode_encodeBytes_eq_read
    {bytes : List Nat}
    (small : ∀ byte ∈ bytes, byte < 256) :
    decode (encodeBytes bytes) = read ⟨[], 0, 0, 0, false⟩ (encodeBytes bytes) := by
  have notPadding {a : Nat} (aSmall : a < 256) : digit (a / 4) ≠ '=' :=
    (digitValue?_digit (a / 4) (by omega)).2.1
  unfold decode
  split
  · next starts =>
      cases bytes using encodeBytes.induct with
      | case1 a b c rest | case2 a b | case3 a =>
          rw [encodeBytes] at starts
          exact absurd (List.cons.inj starts).1 (notPadding (small a (by simp)))
      | case4 =>
          cases starts
  · rfl

/-- Reading what was written of bytes gives the bytes. -/
theorem decode_encodeBytes
    {bytes : List Nat}
    (small : ∀ byte ∈ bytes, byte < 256) :
    decode (encodeBytes bytes) = .ok bytes := by
  rw [decode_encodeBytes_eq_read small, read_encodeBytes small]
  rfl

/-!
## What reading Base64 accepts

A text spells bytes if it is made of letters of the alphabet and the padding that closes them.  The
values of the letters are taken four by four, each four make three bytes, and of two or three that
remain the last bits do not count.  Reading accepts exactly the texts that spell bytes.
-/

/-- The bytes that values of letters make. -/
def bytesOfValues : List Nat → List Nat
  | a :: b :: c :: d :: rest =>
    (a * 4 + b / 16) :: (b % 16 * 16 + c / 4) :: (c % 4 * 64 + d) :: bytesOfValues rest
  | [a, b, c] => [a * 4 + b / 16, b % 16 * 16 + c / 4]
  | [a, b] => [a * 4 + b / 16]
  | [_] | [] => []

/-- Whether so many letters are closed by so much padding.  Full groups need none, but what stands
behind them does no harm. -/
def Closes (letters padding : Nat) : Prop :=
  (letters % 4 = 0 ∧ (letters = 0 → padding = 0)) ∨
    (letters % 4 = 2 ∧ padding = 2) ∨ (letters % 4 = 3 ∧ padding = 1)

/-- A text that spells bytes. -/
def Spells
    (characters : List Char)
    (bytes : List Nat) : Prop :=
  ∃ (letters : List Char) (values : List Nat) (padding : Nat),
    characters = letters ++ List.replicate padding '=' ∧
      letters.map digitValue? = values.map some ∧
        Closes letters.length padding ∧
          bytes = bytesOfValues values

/-! ### Letters -/

private theorem ne_padding_of_digitValue?
    {c : Char}
    {value : Nat}
    (isLetter : digitValue? c = some value) :
    c ≠ '=' := by
  rintro rfl
  cases isLetter

private theorem read_letters
    {state : ReaderState}
    {letters : List Char}
    {values : List Nat}
    (unpadded : state.padded = false)
    (areLetters : letters.map digitValue? = values.map some)
    (rest : List Char) :
    read state (letters ++ rest) = read (values.foldl ReaderState.push state) rest := by
  induction letters generalizing state values with
  | nil =>
      rw [List.map_eq_nil_iff.mp areLetters.symm]
      rfl
  | cons c letters inductionHypothesis =>
      obtain ⟨value, others, rfl, isLetter, othersAre⟩ := List.map_eq_cons_iff.mp areLetters.symm
      have staysUnpadded : (state.push value).padded = false := by
        unfold ReaderState.push
        split <;> exact unpadded
      rw [List.foldl_cons, ← inductionHypothesis staysUnpadded othersAre.symm, List.cons_append,
        read]
      · simp [← isLetter, unpadded]
      · exact ne_padding_of_digitValue? isLetter.symm

private theorem foldl_push
    (values done : List Nat) :
    ∃ carry,
      values.foldl ReaderState.push ⟨done, 0, 0, 0, false⟩ =
        ⟨(bytesOfValues values).reverse ++ done, values.length % 4, carry, 0, false⟩ := by
  induction values using bytesOfValues.induct generalizing done with
  | case1 a b c d rest inductionHypothesis =>
      obtain ⟨carry, pushed⟩ :=
        inductionHypothesis
          ((c % 4 * 64 + d) :: (b % 16 * 16 + c / 4) :: (a * 4 + b / 16) :: done)
      refine ⟨carry, ?_⟩
      simp only [List.foldl_cons, ReaderState.push, pushed, bytesOfValues, List.reverse_cons,
        List.append_assoc, List.cons_append, List.nil_append, List.length_cons]
      congr 1
      omega
  | case2 a b c =>
      exact ⟨_, rfl⟩
  | case3 a b =>
      exact ⟨_, rfl⟩
  | case4 a =>
      exact ⟨_, rfl⟩
  | case5 =>
      exact ⟨_, rfl⟩

/-! ### Padding -/

private theorem read_replicate_of_full
    {state : ReaderState}
    (full : state.quad = 0)
    (padding : Nat) :
    read state (List.replicate padding '=') = .ok state.done.reverse := by
  induction padding generalizing state with
  | zero =>
      simp [read, full]
  | succ padding inductionHypothesis =>
      rw [List.replicate_succ, read]
      simp only [full, ge_iff_le, Nat.reduceLeDiff, decide_false, Bool.false_and,
        Bool.false_eq_true, if_false]
      exact inductionHypothesis rfl

private theorem exists_replicate_of_padded
    {state : ReaderState}
    {characters : List Char}
    {bytes : List Nat}
    (padded : state.padded = true)
    (accepted : read state characters = .ok bytes) :
    ∃ padding, characters = List.replicate padding '=' := by
  induction characters generalizing state with
  | nil =>
      exact ⟨0, rfl⟩
  | cons c rest inductionHypothesis =>
      by_cases isPadding : c = '='
      · subst isPadding
        rw [read] at accepted
        split at accepted
        · split at accepted
          · next nothingMore =>
              rw [List.isEmpty_iff.mp nothingMore]
              exact ⟨1, rfl⟩
          · cases accepted
        · obtain ⟨padding, rfl⟩ := inductionHypothesis rfl accepted
          exact ⟨padding + 1, rfl⟩
      · rw [read] at accepted
        · split at accepted
          · cases accepted
          · simp [padded] at accepted
        · exact isPadding

private theorem read_replicate_of_lone
    {state : ReaderState}
    (lone : state.quad = 1)
    (padding : Nat) :
    ∃ fault, read state (List.replicate padding '=') = .error fault := by
  induction padding generalizing state with
  | zero =>
      exact ⟨_, by rw [List.replicate_zero, read, if_neg (by omega), if_pos lone]⟩
  | succ padding inductionHypothesis =>
      rw [List.replicate_succ, read]
      simp only [lone, ge_iff_le, Nat.reduceLeDiff, decide_false, Bool.false_and,
        Bool.false_eq_true, if_false]
      exact inductionHypothesis rfl

private theorem read_replicate_eq_ok_iff
    {done bytes : List Nat}
    {quad carry : Nat}
    (inGroup : quad < 4)
    (padding : Nat) :
    read ⟨done, quad, carry, 0, false⟩ (List.replicate padding '=') = .ok bytes ↔
      (quad = 0 ∨ (quad = 2 ∧ padding = 2) ∨ (quad = 3 ∧ padding = 1)) ∧
        bytes = done.reverse := by
  -- The number of letters in the last group decides how much padding it needs.
  rcases quad with _ | _ | _ | _ | quad
  · simp [read_replicate_of_full, eq_comm]
  · obtain ⟨fault, refused⟩ :=
      @read_replicate_of_lone ⟨done, 1, carry, 0, false⟩ rfl padding
    simp [refused]
  · rcases padding with _ | _ | _ | padding <;> simp [List.replicate_succ, read, eq_comm]
  · rcases padding with _ | _ | padding <;> simp [List.replicate_succ, read, eq_comm]
  · omega

/-! ### Texts -/

/-- What is accepted is letters and then padding. -/
private theorem exists_letters_of_read
    {state : ReaderState}
    {characters : List Char}
    {bytes : List Nat}
    (unpadded : state.padded = false)
    (accepted : read state characters = .ok bytes) :
    ∃ (letters : List Char) (values : List Nat) (padding : Nat),
      characters = letters ++ List.replicate padding '=' ∧
        letters.map digitValue? = values.map some := by
  induction characters generalizing state with
  | nil =>
      exact ⟨[], [], 0, rfl, rfl⟩
  | cons c rest inductionHypothesis =>
      by_cases isPadding : c = '='
      · subst isPadding
        rw [read] at accepted
        split at accepted
        · split at accepted
          · next nothingMore =>
              rw [List.isEmpty_iff.mp nothingMore]
              exact ⟨[], [], 1, rfl, rfl⟩
          · cases accepted
        · obtain ⟨padding, rfl⟩ := exists_replicate_of_padded rfl accepted
          exact ⟨[], [], padding + 1, rfl, rfl⟩
      · rw [read] at accepted
        · split at accepted
          · cases accepted
          · next value isLetter =>
              rw [unpadded, if_neg Bool.false_ne_true] at accepted
              have staysUnpadded : (state.push value).padded = false := by
                unfold ReaderState.push
                split <;> exact unpadded
              obtain ⟨letters, values, padding, rfl, areLetters⟩ :=
                inductionHypothesis staysUnpadded accepted
              refine ⟨c :: letters, value :: values, padding, rfl, ?_⟩
              rw [List.map_cons, List.map_cons, isLetter, areLetters]
        · exact isPadding

private theorem read_spelled_eq_ok_iff
    {letters : List Char}
    {values bytes : List Nat}
    (areLetters : letters.map digitValue? = values.map some)
    (done : List Nat)
    (padding : Nat) :
    read ⟨done, 0, 0, 0, false⟩ (letters ++ List.replicate padding '=') = .ok bytes ↔
      (letters.length % 4 = 0 ∨ (letters.length % 4 = 2 ∧ padding = 2) ∨
          (letters.length % 4 = 3 ∧ padding = 1)) ∧
        bytes = done.reverse ++ bytesOfValues values := by
  have sameLength : letters.length = values.length := by
    simpa using congrArg List.length areLetters
  obtain ⟨carry, pushed⟩ := foldl_push values done
  rw [read_letters rfl areLetters, pushed, sameLength,
    read_replicate_eq_ok_iff (Nat.mod_lt _ (by decide)), List.reverse_append,
    List.reverse_reverse]

/-- Reading accepts exactly the texts that spell bytes, and gives these bytes. -/
theorem decode_eq_ok_iff
    {characters : List Char}
    {bytes : List Nat} :
    decode characters = .ok bytes ↔ Spells characters bytes := by
  constructor
  · intro accepted
    unfold decode at accepted
    split at accepted
    · cases accepted
    · next noLeadingPadding =>
        obtain ⟨letters, values, padding, rfl, areLetters⟩ := exists_letters_of_read rfl accepted
        obtain ⟨closed, bytesAre⟩ := (read_spelled_eq_ok_iff areLetters [] padding).mp accepted
        refine ⟨letters, values, padding, rfl, areLetters, ?_, bytesAre⟩
        rcases closed with full | closed
        · refine .inl ⟨full, fun noLetters => ?_⟩
          by_contra somePadding
          obtain ⟨more, rfl⟩ := Nat.exists_eq_succ_of_ne_zero somePadding
          rw [List.eq_nil_of_length_eq_zero noLetters] at noLeadingPadding
          exact noLeadingPadding _ rfl
        · exact .inr closed
  · rintro ⟨letters, values, padding, rfl, areLetters, closed, rfl⟩
    have accepted :
        read ⟨[], 0, 0, 0, false⟩ (letters ++ List.replicate padding '=') =
          .ok (bytesOfValues values) := by
      rw [read_spelled_eq_ok_iff areLetters]
      exact ⟨closed.imp_left And.left, rfl⟩
    unfold decode
    split
    · next rest startsWithPadding =>
        cases letters with
        | nil =>
            obtain ⟨_, none⟩ | ⟨noGroup, _⟩ | ⟨noGroup, _⟩ := closed
            · rw [none rfl] at startsWithPadding
              cases startsWithPadding
            · cases noGroup
            · cases noGroup
        | cons c letters =>
            obtain ⟨value, _, _, isLetter, _⟩ := List.map_eq_cons_iff.mp areLetters.symm
            exact absurd (List.cons.inj startsWithPadding).1
              (ne_padding_of_digitValue? isLetter.symm)
    · exact accepted

/-!
## Texts that were cut short

A text that was cut inside a group is not read.  Cut between two groups it is read as the bytes in
front of the cut.
-/

/-- A group that was cut is read only if nothing of it is left. -/
private theorem eq_nil_of_read_cut_group
    {values done bytes : List Nat}
    {part lost : List Char}
    (padding : Nat)
    (small : ∀ value ∈ values, value < 64)
    (someValues : values ≠ [])
    (full : values.length + padding = 4)
    (isCut : values.map digit ++ List.replicate padding '=' = part ++ lost)
    (someLost : lost ≠ [])
    (accepted : read ⟨done, 0, 0, 0, false⟩ part = .ok bytes) :
    part = [] := by
  by_contra somePart
  have partLength := List.length_pos_iff.mpr somePart
  have lostLength := List.length_pos_iff.mpr someLost
  have areLetters
      {kept : List Nat}
      (fromValues : kept ⊆ values) :
      (kept.map digit).map digitValue? = kept.map some := by
    rw [List.map_map]
    exact List.map_congr_left fun value member =>
      (digitValue?_digit value (small value (fromValues member))).1
  have lengths := congrArg List.length isCut
  rw [List.length_append, List.length_append, List.length_map, List.length_replicate, full]
    at lengths
  -- The group was cut in its letters or in its padding; neither leaves enough letters or padding.
  rcases List.append_eq_append_iff.mp isCut.symm with ⟨others, isLetters, _⟩ | ⟨pads, rfl, isPadding⟩
  · obtain ⟨kept, rest, rfl, rfl, rfl⟩ := List.map_eq_append_iff.mp isLetters
    rw [List.length_map] at partLength lengths
    have closed :=
      (read_spelled_eq_ok_iff (areLetters (List.subset_append_left kept rest)) done 0).mp
        (by simpa using accepted)
    rw [List.length_map] at closed
    omega
  · obtain ⟨_, arePads, _⟩ := List.replicate_eq_append_iff.mp isPadding
    rw [arePads] at accepted
    have closed :=
      (read_spelled_eq_ok_iff (areLetters (List.Subset.refl values)) done _).mp accepted
    have valuesLength := List.length_pos_iff.mpr someValues
    rw [List.length_append, List.length_map] at lengths
    rw [List.length_map] at closed
    omega

/-- Of bytes whose first group was cut nothing more is read. -/
private theorem exists_kept_of_cut_group
    {bytes values done shown : List Nat}
    {part lost : List Char}
    (someBytes : bytes ≠ [])
    (padding : Nat)
    (small : ∀ value ∈ values, value < 64)
    (someValues : values ≠ [])
    (full : values.length + padding = 4)
    (isCut : values.map digit ++ List.replicate padding '=' = part ++ lost)
    (someLost : lost ≠ [])
    (accepted : read ⟨done, 0, 0, 0, false⟩ part = .ok shown) :
    ∃ kept rest, bytes = kept ++ rest ∧ rest ≠ [] ∧ shown = done.reverse ++ kept := by
  rw [eq_nil_of_read_cut_group padding small someValues full isCut someLost accepted, read,
    if_pos rfl] at accepted
  exact ⟨[], bytes, rfl, someBytes, by rw [List.append_nil, Except.ok.inj accepted]⟩

/-- What is read of a text that was cut short is what was written in front of the cut. -/
private theorem exists_kept_of_read
    {bytes done shown : List Nat}
    {part lost : List Char}
    (small : ∀ byte ∈ bytes, byte < 256)
    (isCut : encodeBytes bytes = part ++ lost)
    (someLost : lost ≠ [])
    (accepted : read ⟨done, 0, 0, 0, false⟩ part = .ok shown) :
    ∃ kept rest, bytes = kept ++ rest ∧ rest ≠ [] ∧ shown = done.reverse ++ kept := by
  induction bytes using encodeBytes.induct generalizing done part with
  | case1 a b c rest inductionHypothesis =>
      have aSmall : a < 256 := small a (by simp)
      have bSmall : b < 256 := small b (by simp)
      have cSmall : c < 256 := small c (by simp)
      have valuesSmall :
          ∀ value ∈ [a / 4, a % 4 * 16 + b / 16, b % 16 * 4 + c / 64, c % 64], value < 64 := by
        simp only [List.forall_mem_cons, List.not_mem_nil, false_implies, implies_true, and_true]
        omega
      have behind
          {more : List Char}
          (isPart :
            part =
              digit (a / 4) :: digit (a % 4 * 16 + b / 16) :: digit (b % 16 * 4 + c / 64) ::
                digit (c % 64) :: more)
          (isMore : encodeBytes rest = more ++ lost) :
          ∃ kept others,
            a :: b :: c :: rest = kept ++ others ∧ others ≠ [] ∧ shown = done.reverse ++ kept := by
        rw [isPart, read_group aSmall bSmall cSmall] at accepted
        obtain ⟨kept, others, rfl, someOthers, rfl⟩ :=
          inductionHypothesis (fun byte member => small byte (by simp [member])) isMore accepted
        exact ⟨a :: b :: c :: kept, others, rfl, someOthers, by simp⟩
      -- The text was cut behind the first group or in it.
      rcases List.append_eq_append_iff.mp
          (show
            part ++ lost =
              [a / 4, a % 4 * 16 + b / 16, b % 16 * 4 + c / 64, c % 64].map digit ++
                encodeBytes rest from isCut.symm) with
        ⟨tail, isGroup, isLost⟩ | ⟨more, isPart, isMore⟩
      · by_cases noTail : tail = []
        · rw [noTail, List.append_nil] at isGroup
          exact behind isGroup.symm (by rw [isLost, noTail]; rfl)
        · exact exists_kept_of_cut_group (List.cons_ne_nil a (b :: c :: rest)) 0 valuesSmall
            (List.cons_ne_nil _ _) rfl isGroup noTail accepted
      · exact behind isPart isMore
  | case2 a b =>
      have aSmall : a < 256 := small a (by simp)
      have bSmall : b < 256 := small b (by simp)
      have valuesSmall : ∀ value ∈ [a / 4, a % 4 * 16 + b / 16, b % 16 * 4], value < 64 := by
        simp only [List.forall_mem_cons, List.not_mem_nil, false_implies, implies_true, and_true]
        omega
      exact exists_kept_of_cut_group (List.cons_ne_nil a [b]) 1 valuesSmall
        (List.cons_ne_nil _ _) rfl isCut someLost accepted
  | case3 a =>
      have aSmall : a < 256 := small a (by simp)
      have valuesSmall : ∀ value ∈ [a / 4, a % 4 * 16], value < 64 := by
        simp only [List.forall_mem_cons, List.not_mem_nil, false_implies, implies_true, and_true]
        omega
      exact exists_kept_of_cut_group (List.cons_ne_nil a []) 2 valuesSmall
        (List.cons_ne_nil _ _) rfl isCut someLost accepted
  | case4 =>
      exact absurd (List.append_eq_nil_iff.mp isCut.symm).2 someLost

/-- A text that was cut short and is still read has lost bytes at its end. -/
theorem exists_lost_of_decode
    {bytes shown : List Nat}
    {part lost : List Char}
    (small : ∀ byte ∈ bytes, byte < 256)
    (isCut : encodeBytes bytes = part ++ lost)
    (someLost : lost ≠ [])
    (accepted : decode part = .ok shown) :
    ∃ rest, bytes = shown ++ rest ∧ rest ≠ [] := by
  unfold decode at accepted
  split at accepted
  · cases accepted
  · obtain ⟨kept, rest, rfl, someRest, rfl⟩ := exists_kept_of_read small isCut someLost accepted
    exact ⟨rest, rfl, someRest⟩

end TypeCatalog.Base64
