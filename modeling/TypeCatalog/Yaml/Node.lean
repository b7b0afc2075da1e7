import TypeCatalog.Limits
import TypeCatalog.Yaml.Tag
import TypeCatalog.Yaml.TokenStream

namespace TypeCatalog.Yaml

/-!
# Nodes

The tokens of a text form one document: a graph of scalars, sequences and mappings.  An alias stands
for the node with its anchor, which must have started earlier; so a collection may hold itself.
-/

/-- What a node holds; other nodes are named by their places in the graph. -/
inductive Content where
  | scalar (written : Text.Written)
  | sequence (items : List Nat)
  | mapping (entries : List (Nat × Nat))
deriving Repr

/-- A node. -/
structure Node where
  tag : Tag
  content : Content
deriving Repr

instance : Inhabited Node := ⟨⟨.null, .scalar (.whole "")⟩⟩

/-- The nodes of a document, each named by its place. -/
abbrev Graph : Type :=
  Array Node

/-- Where the reading of nodes stands: the tokens that are left and the fault after them, what
handles of tags stand for, the nodes read so far, and those that have anchors. -/
structure Composer where
  rest : List Token
  fault? : Option Fault
  handles : List (String × String)
  graph : Graph
  anchors : List (String × Nat)

/-- Steps that read nodes. -/
abbrev Compose (α : Type) : Type :=
  StateT Composer (Except Fault) α

/-- The anchor and the full name of the tag in front of a node. -/
structure Properties where
  anchor? : Option String
  tag? : Option String
deriving Repr, DecidableEq

namespace Properties

/-- Whether the tag has to be found out. -/
def isOpen (properties : Properties) : Bool :=
  properties.tag? = none || properties.tag? = some "!"

/-- The tag of a node, with the one that it gets when it has to be found out. -/
def tagOr
    (properties : Properties)
    (otherwise : Tag) : Tag :=
  if properties.isOpen then otherwise else Tag.ofName (properties.tag?.getD "")

/-- The tag of a scalar. -/
def tagOfScalar
    (properties : Properties)
    (written : Text.Written)
    (isPlain : Bool) : Tag :=
  properties.tagOr
    (if isPlain || properties.tag?.isSome then Tag.ofPlain written.shown else .text)

end Properties

namespace Compose

/-- Fails on a broken rule. -/
def malformed {α : Type} : Compose α :=
  throw .malformed

/-- The next token; it stays.  Past the last token stands the fault that ended the text, if any. -/
def peek : Compose (Option Token) := do
  let composer ← get
  match composer.rest, composer.fault? with
  | token :: _, _ => return some token
  | [], some fault => throw fault
  | [], none => return none

/-- Moves over a token. -/
def skip : Compose Unit :=
  modify fun composer => { composer with rest := composer.rest.tail }

/-- Moves over a token if it is the given one, and says whether it was. -/
def accept (token : Token) : Compose Bool := do
  if (← peek) = some token then
    skip
    return true
  else
    return false

/-- Moves over the given token. -/
def expect (token : Token) : Compose Unit := do
  if !(← accept token) then
    malformed

/-- Whether one of some tokens is next. -/
def isNext (tokens : List Token) : Compose Bool := do
  match (← peek) with
  | none => return false
  | some token => return tokens.contains token

/-- Reads an anchor, if one is next. -/
def anchor? : Compose (Option String) := do
  match (← peek) with
  | some (.anchor name) =>
    skip
    return some name
  | _ => return none

/-- Reads a tag, if one is next. -/
def tag? : Compose (Option (Option String × String)) := do
  match (← peek) with
  | some (.tag handle? suffix) =>
    skip
    return some (handle?, suffix)
  | _ => return none

/-- The full name of a tag; its handle must stand for something. -/
def fullName : Option (Option String × String) → Compose (Option String)
  | none => return none
  | some (none, suffix) => return some suffix
  | some (some handle, suffix) => do
    match (← get).handles.lookup handle with
    | some start => return some (start ++ suffix)
    | none => malformed

/-- Reads an anchor and a tag in either order. -/
def properties : Compose Properties := do
  match ← anchor? with
  | some name => do
    let found ← tag?
    return ⟨some name, ← fullName found⟩
  | none => do
    let found ← tag?
    if found.isSome then
      let name? ← anchor?
      return ⟨name?, ← fullName found⟩
    else
      return ⟨none, none⟩

/-- The node with an anchor. -/
def aliased (name : String) : Compose Nat := do
  match (← get).anchors.lookup name with
  | some place => return place
  | none => malformed

/-- Adds a node and gives its place. -/
def add (node : Node) : Compose Nat := do
  let place := (← get).graph.size
  modify fun composer => { composer with graph := composer.graph.push node }
  return place

/-- Adds a node and keeps it under its anchor, if it has one. -/
def addUnder
    (properties : Properties)
    (node : Node) : Compose Nat := do
  let place ← add node
  match properties.anchor? with
  | none => return place
  | some name => do
    modify fun composer => { composer with anchors := (name, place) :: composer.anchors }
    return place

/-- Fails if another node has the anchor of this one. -/
def requireFresh (properties : Properties) : Compose Unit := do
  match properties.anchor? with
  | none => return ()
  | some name =>
    if ((← get).anchors.lookup name).isSome then
      malformed

/-- Gives a node what it holds. -/
def fill
    (place : Nat)
    (content : Content) : Compose Nat := do
  modify fun composer =>
    { composer with
      graph := composer.graph.modify place fun node => { node with content := content } }
  return place

/-- The node that stands where nothing is written. -/
def nothing : Compose Nat :=
  add ⟨.null, .scalar (.whole "")⟩

/-- Where a node stands; it decides which collections may start there. -/
inductive Place where
  | inFlow
  | inBlock
  | inMapping
deriving Repr, DecidableEq

/-- The crash for collections that stand inside one another too deep. -/
def tooDeep {α : Type} : Compose α :=
  throw (.crashed (.tooDeep ""))

mutual

/-- Reads a node, where there is room for so many collections inside one another. -/
def node
    (place : Place)
    (room : Nat) : Nat → Compose Nat
  | 0 => malformed
  | fuel + 1 => do
    if room = 0 then
      tooDeep
    else
      match (← peek) with
      | some (.alias name) =>
        skip
        aliased name
      | _ => do
        let found ← properties
        let next ← peek
        if place = .inMapping && next = some .entry then
          requireFresh found
          let whole ← addUnder found ⟨found.tagOr .sequence, .sequence []⟩
          fill whole (.sequence (← indentlessItems (room - 1) [] fuel))
        else
          match next with
          | some (.scalar written isPlain) =>
            skip
            requireFresh found
            addUnder found ⟨found.tagOfScalar written isPlain, .scalar written⟩
          | some .sequenceStart =>
            requireFresh found
            skip
            let whole ← addUnder found ⟨found.tagOr .sequence, .sequence []⟩
            fill whole (.sequence (← flowItems (room - 1) true [] fuel))
          | some .mappingStart =>
            requireFresh found
            skip
            let whole ← addUnder found ⟨found.tagOr .mapping, .mapping []⟩
            fill whole (.mapping (← flowEntries (room - 1) true [] fuel))
          | some .blockSequenceStart =>
            if place = .inFlow then
              malformed
            else
              requireFresh found
              skip
              let whole ← addUnder found ⟨found.tagOr .sequence, .sequence []⟩
              fill whole (.sequence (← blockItems (room - 1) [] fuel))
          | some .blockMappingStart =>
            if place = .inFlow then
              malformed
            else
              requireFresh found
              skip
              let whole ← addUnder found ⟨found.tagOr .mapping, .mapping []⟩
              fill whole (.mapping (← blockEntries (room - 1) [] fuel))
          | _ =>
            if found.anchor?.isSome || found.tag?.isSome then
              requireFresh found
              addUnder found ⟨found.tagOfScalar (.whole "") true, .scalar (.whole "")⟩
            else
              malformed
termination_by structural fuel => fuel

/-- Reads a node, or nothing before one of some tokens. -/
def nodeUnless
    (place : Place)
    (ends : List Token)
    (room : Nat) : Nat → Compose Nat
  | 0 => malformed
  | fuel + 1 => do
    if ← isNext ends then nothing else node place room fuel
termination_by structural fuel => fuel

/-- Reads the value of an entry, or nothing. -/
def valueUnless
    (place : Place)
    (ends : List Token)
    (room : Nat) : Nat → Compose Nat
  | 0 => malformed
  | fuel + 1 => do
    if ← accept .value then nodeUnless place ends room fuel else nothing
termination_by structural fuel => fuel

/-- Reads the items of a block sequence; items read are kept in reverse. -/
def blockItems
    (room : Nat)
    (done : List Nat) : Nat → Compose (List Nat)
  | 0 => malformed
  | fuel + 1 => do
    if ← accept .entry then
      let item ← nodeUnless .inBlock [.entry, .blockEnd] room fuel
      blockItems room (item :: done) fuel
    else
      expect .blockEnd
      return done.reverse
termination_by structural fuel => fuel

/-- Reads the items of a sequence that is not indented deeper than the mapping around it; items read
are kept in reverse. -/
def indentlessItems
    (room : Nat)
    (done : List Nat) : Nat → Compose (List Nat)
  | 0 => malformed
  | fuel + 1 => do
    if ← accept .entry then
      let item ← nodeUnless .inBlock [.entry, .key, .value, .blockEnd] room fuel
      indentlessItems room (item :: done) fuel
    else
      return done.reverse
termination_by structural fuel => fuel

/-- Reads the entries of a block mapping; entries read are kept in reverse. -/
def blockEntries
    (room : Nat)
    (done : List (Nat × Nat)) : Nat → Compose (List (Nat × Nat))
  | 0 => malformed
  | fuel + 1 => do
    if ← accept .key then
      let key ← nodeUnless .inMapping [.key, .value, .blockEnd] room fuel
      let value ← valueUnless .inMapping [.key, .value, .blockEnd] room fuel
      blockEntries room ((key, value) :: done) fuel
    else
      expect .blockEnd
      return done.reverse
termination_by structural fuel => fuel

/-- Reads the items of a sequence in brackets; an entry among them is a mapping of its own.  Items
read are kept in reverse. -/
def flowItems
    (room : Nat)
    (isFirst : Bool)
    (done : List Nat) : Nat → Compose (List Nat)
  | 0 => malformed
  | fuel + 1 => do
    if ← accept .sequenceEnd then
      return done.reverse
    else
      if !isFirst then
        expect .separator
      if ← accept .key then
        if room ≤ 1 then
          tooDeep
        let whole ← add ⟨.mapping, .mapping []⟩
        let key ← nodeUnless .inFlow [.value, .separator, .sequenceEnd] (room - 1) fuel
        let value ← valueUnless .inFlow [.separator, .sequenceEnd] (room - 1) fuel
        let item ← fill whole (.mapping [(key, value)])
        flowItems room false (item :: done) fuel
      else if ← accept .sequenceEnd then
        return done.reverse
      else
        let item ← node .inFlow room fuel
        flowItems room false (item :: done) fuel
termination_by structural fuel => fuel

/-- Reads the entries of a mapping in braces; entries read are kept in reverse. -/
def flowEntries
    (room : Nat)
    (isFirst : Bool)
    (done : List (Nat × Nat)) : Nat → Compose (List (Nat × Nat))
  | 0 => malformed
  | fuel + 1 => do
    if ← accept .mappingEnd then
      return done.reverse
    else
      if !isFirst then
        expect .separator
      if ← accept .key then
        let key ← nodeUnless .inFlow [.value, .separator, .mappingEnd] room fuel
        let value ← valueUnless .inFlow [.separator, .mappingEnd] room fuel
        flowEntries room false ((key, value) :: done) fuel
      else if ← accept .mappingEnd then
        return done.reverse
      else
        let key ← node .inFlow room fuel
        let value ← nothing
        flowEntries room false ((key, value) :: done) fuel
termination_by structural fuel => fuel

end

/-! ## Documents -/

/-- What handles stand for in every document, unless a directive says otherwise. -/
def standardHandles : List (String × String) :=
  [("!", "!"), ("!!", Tag.standardSpace)]

/-- Reads directives: a version, at most once and of the first generation, and handles, each at most
once. -/
def directives
    (hasVersion : Bool)
    (handles : List (String × String)) : Nat → Compose Unit
  | 0 => malformed
  | fuel + 1 => do
    match (← peek) with
    | some (.version major) =>
      if hasVersion || major != 1 then
        malformed
      else
        skip
        directives true handles fuel
    | some (.tagHandle handle start) =>
      if (handles.lookup handle).isSome then
        malformed
      else
        skip
        directives hasVersion ((handle, start) :: handles) fuel
    | some .otherDirective =>
      skip
      directives hasVersion handles fuel
    | _ => modify fun composer => { composer with handles := handles ++ standardHandles }

/-- Whether a token is a directive. -/
def isDirective : Token → Bool
  | .version _ | .tagHandle .. | .otherDirective => true
  | _ => false

/-- Skips the marks of document ends. -/
def skipEnds : Nat → Compose Unit
  | 0 => return ()
  | fuel + 1 => do
    if ← accept .documentEnd then
      skipEnds fuel

/-- Reads what a document that starts with a marker holds. -/
def content (fuel : Nat) : Compose Nat := do
  match (← peek) with
  | none => nothing
  | some token =>
    if isDirective token || token = .documentStart || token = .documentEnd then
      nothing
    else
      node .inBlock Limits.yamlDepth fuel

/-- Reads a document that starts with directives or a marker. -/
def markedDocument (fuel : Nat) : Compose Nat := do
  directives false [] fuel
  expect .documentStart
  content fuel

/-- Reads the only document of a text, if there is one.  What follows it is read up to the start of
another document, which is a fault. -/
def document (fuel : Nat) : Compose (Option Nat) := do
  match (← peek) with
  | none => return none
  | some token =>
    let found ←
      if isDirective token || token = .documentStart then
        markedDocument fuel
      else
        node .inBlock Limits.yamlDepth fuel
    skipEnds fuel
    if (← peek).isSome then
      directives false [] fuel
      malformed
    else
      return some found

end Compose

/-- A document: its nodes and the place of the one that holds all others. -/
structure Document where
  graph : Graph
  root : Nat

/-- The document of a text, if it holds one. -/
def readDocument (text : String) : Except Fault (Option Document) :=
  let stream := TokenStream.ofText text
  let start : Composer :=
    ⟨stream.tokens, stream.fault?, Compose.standardHandles, #[], []⟩
  match (Compose.document (4 * stream.tokens.length + 8)).run start with
  | .ok (some root, composer) => .ok (some ⟨composer.graph, root⟩)
  | .ok (none, _) => .ok none
  | .error fault => .error fault

end TypeCatalog.Yaml
