import TypeCatalog.Metadata.Facts

namespace TypeCatalog

/-!
# Documentation text

Documentation is shown with its blanks tidied: words have one space between them, paragraphs one
empty line.  A paragraph ends at a stretch of blanks with two line feeds.
-/

namespace Documentation

/-- The paragraphs of a text.  What was read of the current one is kept in reverse; blanks at the
start of a paragraph are dropped. -/
def paragraphs
    (piece : List Char)
    (text : List Char) : List (List Char) :=
  match text with
  | [] => [piece.reverse]
  | c :: rest =>
    if c = '\n' && (rest.takeWhile Text.isBlank).contains '\n' then
      piece.reverse :: paragraphs [] (rest.dropWhile Text.isBlank)
    else
      paragraphs (c :: piece) rest
termination_by text.length
decreasing_by
  · have := (List.dropWhile_suffix (l := rest) Text.isBlank).length_le
    simp only [List.length_cons]
    omega
  · simp only [List.length_cons]
    omega

/-- A paragraph with one space between its words. -/
def tidyParagraph (text : List Char) : List Char :=
  [' '].intercalate (Text.words text)

/-- A text with its blanks tidied. -/
def tidy (text : List Char) : List Char :=
  ['\n', '\n'].intercalate
    (((paragraphs [] text).map tidyParagraph).filter fun paragraph => !paragraph.isEmpty)

/-- A text with its blanks tidied, if there is anything but blanks in it. -/
def clean? (text? : Option String) : Option String :=
  match text? with
  | none => none
  | some text =>
    match tidy text.toList with
    | [] => none
    | tidied => some (String.ofList tidied)

end Documentation

/-- Documentation as it is shown; sections without text are absent. -/
structure DocsDescriptor where
  summary? : Option String
  remarks? : Option String
  returns? : Option String
  notes : List ParameterNote
deriving Repr, DecidableEq

namespace DocsDescriptor

/-- Documentation without any text. -/
def empty : DocsDescriptor :=
  ⟨none, none, none, []⟩

/-- Describes a documentation block; nothing is shown when nothing is documented. -/
def describe (docs? : Option DocBlock) : Option DocsDescriptor :=
  match docs? with
  | none => none
  | some docs =>
    let descriptor : DocsDescriptor :=
      ⟨Documentation.clean? docs.summary?, Documentation.clean? docs.remarks?,
        Documentation.clean? docs.returns?,
        docs.notes.map fun note =>
          ⟨note.name, (Documentation.clean? (some note.text)).getD ""⟩⟩
    if descriptor = empty then none else some descriptor

/-- Documentation as a value. -/
def toValue (docs : DocsDescriptor) : Value :=
  .record
    [("summary", .ofText? docs.summary?), ("remarks", .ofText? docs.remarks?),
      ("returns", .ofText? docs.returns?), ("params", .list (docs.notes.map ParameterNote.toValue))]

/-- Documentation, if any, as a value. -/
def optionToValue (docs? : Option DocsDescriptor) : Value :=
  (docs?.map toValue).getD .null

end DocsDescriptor

end TypeCatalog
