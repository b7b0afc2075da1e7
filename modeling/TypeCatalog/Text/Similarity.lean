namespace TypeCatalog.Text

/-!
# Similar words

How alike two words are: the share of characters in common runs, found by taking the longest run and
then looking left and right of it.
-/

/-- The length of the common start of two lists of characters. -/
def commonStart : List Char → List Char → Nat
  | first :: rest, other :: others => if first = other then commonStart rest others + 1 else 0
  | _, _ => 0

/-- A run that two lists have in common: where it starts in each, and its length. -/
structure CommonRun where
  first : Nat
  second : Nat
  length : Nat
deriving Repr, DecidableEq

/-- The better of two runs: the longer one, else the one that was found first. -/
def CommonRun.better (run other : CommonRun) : CommonRun :=
  if run.length < other.length then other else run

/-- The longest common run; of several the one that starts first. -/
def longestRun (first second : List Char) : CommonRun :=
  (List.range first.length).foldl
    (fun best start =>
      (List.range second.length).foldl
        (fun best other =>
          best.better ⟨start, other, commonStart (first.drop start) (second.drop other)⟩)
        best)
    ⟨0, 0, 0⟩

/-- The number of characters in common runs. -/
def commonCharacters (first second : List Char) : Nat → Nat
  | 0 => 0
  | fuel + 1 =>
    let run := longestRun first second
    if run.length = 0 then
      0
    else
      run.length + commonCharacters (first.take run.first) (second.take run.second) fuel +
        commonCharacters (first.drop (run.first + run.length))
          (second.drop (run.second + run.length)) fuel

/-- A word with its likeness to another one, as a share. -/
structure Likeness where
  word : String
  common : Nat
  total : Nat
deriving Repr, DecidableEq

/-- The likeness of a word to another one. -/
def likeness (word other : String) : Likeness :=
  ⟨word, commonCharacters word.toList other.toList (word.length + 1), word.length + other.length⟩

/-- Whether words are alike: six characters of ten, or more, are in common runs. -/
def Likeness.isClose (found : Likeness) : Bool :=
  6 * found.total ≤ 20 * found.common

/-- Whether a word is at least as alike as another; of words that are equally alike the greater one
comes first. -/
def Likeness.before (one other : Likeness) : Bool :=
  if one.common * other.total = other.common * one.total then
    decide (other.word ≤ one.word)
  else
    decide (other.common * one.total < one.common * other.total)

/-- The words that are most alike to a word, three at most. -/
def closeWords
    (word : String)
    (candidates : List String) : List String :=
  ((((candidates.map fun candidate => likeness candidate word).filter Likeness.isClose).mergeSort
    Likeness.before).take 3).map Likeness.word

end TypeCatalog.Text
