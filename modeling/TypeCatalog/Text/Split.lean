namespace TypeCatalog.Text

/-!
# Cutting and searching text

All functions work on lists of characters; the versions on texts only convert.
-/

/-- Cuts at every occurrence of a character; there is always at least one piece. -/
def pieces
    (mark : Char)
    (characters : List Char) : List (List Char) :=
  characters.foldr
    (fun c found =>
      if c = mark then
        [] :: found
      else
        match found with
        | [] => [[c]]
        | piece :: others => (c :: piece) :: others)
    [[]]

/-- Cuts a text at every occurrence of a character. -/
def splitAt
    (mark : Char)
    (text : String) : List String :=
  (pieces mark text.toList).map String.ofList

/-- The part before the first occurrence of a character, or everything. -/
def beforeFirst
    (mark : Char)
    (text : String) : String :=
  String.ofList (text.toList.takeWhile (· != mark))

/-- The part after the last occurrence of a character, or everything. -/
def afterLast
    (mark : Char)
    (text : String) : String :=
  String.ofList (text.toList.reverse.takeWhile (· != mark)).reverse

/-- The part before the last occurrence of a character, if it occurs. -/
def beforeLast?
    (mark : Char)
    (text : String) : Option String :=
  if text.toList.contains mark then
    some (String.ofList (text.toList.reverse.dropWhile (· != mark)).tail.reverse)
  else
    none

/-- Whether one list of characters occurs in another without a gap. -/
def occursIn
    (part : List Char) : List Char → Bool
  | [] => part.isEmpty
  | c :: rest => part.isPrefixOf (c :: rest) || occursIn part rest

/-- Whether one text occurs in another. -/
def contains
    (whole part : String) : Bool :=
  occursIn part.toList whole.toList

/-- Puts one character in the place of another. -/
def replaceCharacter
    (old new : Char)
    (text : String) : String :=
  String.ofList (text.toList.map fun c => if c = old then new else c)

/-- Joins texts with a text between each two of them. -/
def join
    (between : String)
    (parts : List String) : String :=
  between.intercalate parts

/-- Whether a text starts with another. -/
def startsWith
    (text start : String) : Bool :=
  start.toList.isPrefixOf text.toList

/-- Whether a text ends with another. -/
def endsWith
    (text ending : String) : Bool :=
  ending.toList.isSuffixOf text.toList

/-- The first characters of a text, at most so many. -/
def take
    (count : Nat)
    (text : String) : String :=
  String.ofList (text.toList.take count)

/-- A text without its first characters. -/
def drop
    (count : Nat)
    (text : String) : String :=
  String.ofList (text.toList.drop count)

/-- A text so many times in a row. -/
def repeated
    (count : Nat)
    (text : String) : String :=
  String.ofList (List.replicate count text.toList).flatten

/-- Turns line ends into line feeds; what is done is kept in reverse. -/
def unifyLineEnds
    (done : List Char) : List Char → List Char
  | '\r' :: '\n' :: rest => unifyLineEnds ('\n' :: done) rest
  | '\r' :: rest => unifyLineEnds ('\n' :: done) rest
  | c :: rest => unifyLineEnds (c :: done) rest
  | [] => done.reverse

/-- Line ends written as a carriage return, alone or before a line feed, become line feeds. -/
def normalizeLineEnds (text : String) : String :=
  String.ofList (unifyLineEnds [] text.toList)

/-- Compares two texts character by character, by code point. -/
def order
    (first second : String) : Ordering :=
  compare first second

end TypeCatalog.Text
