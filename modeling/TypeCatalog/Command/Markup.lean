import TypeCatalog.Command.TagLiteral
import TypeCatalog.Command.TagStyle

namespace TypeCatalog.Command

/-!
# Markup in messages

Messages on the error stream may hold tags in square brackets, such as `[red]` and `[/red]`.  A
closing tag must close something.  A tag starts with a lower case letter, `#`, `/` or `@`; after an
odd number of backslashes a bracket is just a bracket.  The parameters of a tag that starts with `@`
are read when it is closed.
-/

/-- Whether a character may come first in a tag. -/
def startsTag (c : Char) : Bool :=
  ('a' ≤ c && c ≤ 'z') || c = '#' || c = '/' || c = '@'

/-- The content of a tag whose opening bracket is read, and what follows the tag. -/
def tagContent? : List Char → Option (List Char × List Char)
  | [] => none
  | c :: rest =>
    if startsTag c then
      let inside := rest.takeWhile fun d => d != '[' && d != ']'
      match rest.drop inside.length with
      | ']' :: after => some (c :: inside, after)
      | _ => none
    else
      none

/-- The tags of a text; `escapes` is the number of backslashes just read. -/
def tagsFrom
    (escapes : Nat) : Nat → List Char → List (List Char)
  | 0, _ => []
  | _, [] => []
  | fuel + 1, c :: rest =>
    if c = '\\' then
      tagsFrom (escapes + 1) fuel rest
    else if c = '[' then
      match tagContent? rest with
      | some (content, after) =>
        if escapes % 2 = 0 then content :: tagsFrom 0 fuel after else tagsFrom 0 fuel after
      | none => tagsFrom 0 fuel rest
    else
      tagsFrom 0 fuel rest

/-- A tag: the name of what stands before the first equals sign in it, and what stands behind. -/
structure Tag where
  name : String
  parameters? : Option (List Char)
deriving Repr, DecidableEq

namespace Tag

/-- The tag with a content. -/
def ofContent (content : List Char) : Except Crash Tag := do
  let name := content.takeWhile (· != '=')
  let behind := content.drop name.length
  return ⟨← styleName name, if behind.isEmpty then none else some behind.tail⟩

/-- Whether a tag has no parameters that must be read, or has readable ones. -/
def isReadable (tag : Tag) : Bool :=
  match tag.parameters? with
  | none | some [] => true
  | some parameters => !Text.startsWith tag.name "@" || areParametersReadable parameters

/-- The words of a tag, those of its parameters included. -/
def words (tag : Tag) : List String :=
  (Text.words (tag.name.toList ++ ' ' :: tag.parameters?.getD [])).map String.ofList

end Tag

/-- The tag that was opened last among those with a name, if there is one, and the others. -/
def closeTag?
    (name : String) : List Tag → Option (Tag × List Tag)
  | [] => none
  | first :: rest =>
    if first.name = name then
      some (first, rest)
    else
      (closeTag? name rest).map fun found => (found.1, first :: found.2)

/-- The tag that a closing tag closes, and the others: the one opened last, or the one opened last
with a name. -/
def closedBy?
    (content : List Char)
    (opened : List Tag) : Except Crash (Option (Tag × List Tag)) :=
  let name := Text.trimList (content.takeWhile (· != '='))
  if name.isEmpty then
    match opened with
    | [] => .ok none
    | first :: rest => .ok (some (first, rest))
  else do
    return closeTag? (← styleName name) opened

/-- The crash of a closing tag that closes nothing. -/
def unmatchedCrash : Crash :=
  ⟨.unbalancedMarkup, "closing tag doesn't match any open tag"⟩

/-- The crash of a tag whose parameters cannot be read. -/
def unreadableCrash : Crash :=
  ⟨.unbalancedMarkup, "error parsing the parameters of a tag"⟩

/-- Goes through tags; those that are open come last opened first. -/
def checkTags
    (opened : List Tag) : List (List Char) → Except Crash Unit
  | [] => .ok ()
  | ('/' :: content) :: rest => do
    match ← closedBy? content opened with
    | none => throw unmatchedCrash
    | some (tag, others) =>
      if tag.isReadable then checkTags others rest else throw unreadableCrash
  | content :: rest => do
    checkTags ((← Tag.ofContent content) :: opened) rest

/-- Looks at the styles of the tags that open something, with their parameters. -/
def checkStyles : List (List Char) → Except Crash Unit
  | [] => .ok ()
  | ('/' :: _) :: rest => checkStyles rest
  | content :: rest => do
    let _ ← TagStyle.plain.extend (← Tag.ofContent content).words
    checkStyles rest

/-- Why a text cannot be shown with its tags, if it cannot. -/
def showFault? (text : String) : Option Crash :=
  let contents := tagsFrom 0 (text.length + 1) text.toList
  match checkTags [] contents, checkStyles contents with
  | .error crash, _ | .ok _, .error crash => some crash
  | .ok _, .ok _ => none

end TypeCatalog.Command
