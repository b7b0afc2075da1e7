import TypeCatalog.Yaml.Node
import TypeCatalog.Yaml.ScalarValue

namespace TypeCatalog.Yaml

/-!
# Values of documents

A node stands for a value.  Values are found level by level: a collection is known before what it
holds, so that it may hold itself, and of two faults the one nearer to the root is found.  In a
mapping, the entries of mappings merged with `<<` come first, so that the entries of the mapping
itself win; of several merged mappings in a list an earlier one wins.
-/

/-- What the value of a node is made of; the values of other nodes are named by their places. -/
inductive Part where
  | leaf (value : Value)
  | list (items : List Nat)
  | pairs (items : List (Nat × Nat))
  | set (members : List Key)
  | map (entries : List (Key × Nat))
deriving Repr

instance : Inhabited Part := ⟨.leaf .null⟩

/-- Where the finding of values stands: the nodes, the values found so far, and the collections
whose contents are still to be found, the last one first. -/
structure Builder where
  graph : Graph
  parts : Array (Option Part)
  pending : List Nat

/-- Steps that find values. -/
abbrev Build (α : Type) : Type :=
  StateT Builder (Except Fault) α

namespace Build

/-- Fails on a broken rule. -/
def malformed {α : Type} : Build α :=
  throw .malformed

/-- The node at a place. -/
def nodeAt (place : Nat) : Build Node := do
  return (← get).graph.getD place default

/-- The tag of the node at a place. -/
def tagAt (place : Nat) : Build Tag := do
  return (← nodeAt place).tag

/-- The entries of the mapping at a place. -/
def entriesAt (place : Nat) : Build (List (Nat × Nat)) := do
  match (← nodeAt place).content with
  | .mapping entries => return entries
  | _ => malformed

/-- Changes the node at a place. -/
def changeNode
    (place : Nat)
    (change : Node → Node) : Build Unit :=
  modify fun builder => { builder with graph := builder.graph.modify place change }

/-- Gives the mapping at a place other entries. -/
def setEntries
    (place : Nat)
    (entries : List (Nat × Nat)) : Build Unit :=
  changeNode place fun node => { node with content := .mapping entries }

/-- Says what the value of a node is made of. -/
def setPart
    (place : Nat)
    (part : Part) : Build Unit :=
  modify fun builder => { builder with parts := builder.parts.set! place (some part) }

/-! ## Scalars -/

/-- The first entry under the default key. -/
def defaultEntry? : List (Nat × Nat) → Build (Option Nat)
  | [] => return none
  | (key, value) :: rest => do
    if (← tagAt key) = .default then return some value else defaultEntry? rest

/-- The text of a node under a tag for scalars: a mapping may give it under its default key. -/
def textAt
    (place : Nat) : Nat → Build Text.Written
  | 0 => throw (.crashed (.tooDeep ""))
  | fuel + 1 => do
    match (← nodeAt place).content with
    | .scalar written => return written
    | .sequence _ => malformed
    | .mapping entries =>
      match ← defaultEntry? entries with
      | some value => textAt value fuel
      | none => malformed

/-- The value of a node under a tag for scalars.  A date must be written as a scalar. -/
def scalarAt
    (place : Nat)
    (node : Node) : Build Value := do
  let written ← textAt place ((← get).graph.size + 1)
  match node.tag, node.content with
  | .timestamp, .mapping _ =>
    throw (.crashed ⟨.wrongType, "expected string or bytes-like object, got 'list'"⟩)
  | tag, _ =>
    match ScalarValue.ofScalar tag written with
    | .ok value => return value
    | .error fault => throw fault

/-! ## Any node -/

/-- Notes a collection whose contents are still to be found. -/
def postpone
    (place : Nat)
    (part : Part) : Build Part := do
  setPart place part
  modify fun builder => { builder with pending := place :: builder.pending }
  return part

/-- What the value of a node is made of; a collection is empty at first. -/
def partAt (place : Nat) : Build Part := do
  match (← get).parts.getD place none with
  | some part => return part
  | none => do
    let node ← nodeAt place
    match node.tag with
    | .sequence => postpone place (.list [])
    | .orderedMap | .pairs => postpone place (.pairs [])
    | .mapping => postpone place (.map [])
    | .set => postpone place (.set [])
    | .merge | .default | .other => malformed
    | _ => do
      let part := Part.leaf (← scalarAt place node)
      setPart place part
      return part

/-- The key that a value may be, if it holds no other values. -/
def keyOf : Value → Build Key
  | .null => return .null
  | .bool truth => return .bool truth
  | .int number => return .int number
  | .float number => return .float number
  | .text content => return .text content
  | .unpaired points => return .unpaired points
  | .bytes octets => return .bytes octets
  | .timestamp time => return .timestamp time
  | _ => malformed

/-- The key that the value of a node is. -/
def keyAt (place : Nat) : Build Key := do
  match ← partAt place with
  | .leaf value => keyOf value
  | _ => malformed

/-! ## Merged mappings -/

mutual

/-- Puts the entries of merged mappings in front of those of the mapping at a place. -/
def flatten
    (place : Nat) : Nat → Build Unit
  | 0 => malformed
  | fuel + 1 => do
    let entries ← entriesAt place
    let merged ← mergedEntries place [] entries fuel
    if !merged.isEmpty then
      setEntries place (merged ++ (← entriesAt place))

/-- Takes the merging entries out of a mapping, whose entries up to a point are already seen, and
gives the entries that they merge.  Default keys become texts. -/
def mergedEntries
    (place : Nat)
    (seen rest : List (Nat × Nat)) : Nat → Build (List (Nat × Nat))
  | 0 => malformed
  | fuel + 1 => do
    match rest with
    | [] => return []
    | (key, value) :: others =>
      let tag ← tagAt key
      if tag = .merge then
        setEntries place (seen.reverse ++ others)
        let first ← entriesFrom value fuel
        let changed ← entriesAt place
        let more ←
          mergedEntries place (changed.take seen.length).reverse (changed.drop seen.length) fuel
        return first ++ more
      else
        if tag = .default then
          changeNode key fun node => { node with tag := .text }
        mergedEntries place ((key, value) :: seen) others fuel

/-- The entries that a merged node gives: a mapping or a list of mappings. -/
def entriesFrom
    (place : Nat) : Nat → Build (List (Nat × Nat))
  | 0 => malformed
  | fuel + 1 => do
    match (← nodeAt place).content with
    | .scalar _ => malformed
    | .mapping _ =>
      flatten place fuel
      entriesAt place
    | .sequence items => entriesFromItems items fuel

/-- The entries that a list of merged mappings gives, those of later ones first. -/
def entriesFromItems
    (items : List Nat) : Nat → Build (List (Nat × Nat))
  | 0 => malformed
  | fuel + 1 => do
    match items with
    | [] => return []
    | item :: rest =>
      match (← nodeAt item).content with
      | .mapping _ =>
        flatten item fuel
        let own ← entriesAt item
        let others ← entriesFromItems rest fuel
        return others ++ own
      | _ => malformed

end

/-- A bound on the steps of merging: each step moves over an entry or an item, or takes an entry
that merges out of its mapping. -/
def mergeBound : Build Nat := do
  let sizes := (← get).graph.map fun node =>
    match node.content with
    | .scalar _ => 1
    | .sequence items => items.length + 1
    | .mapping entries => entries.length + 1
  let total := sizes.foldl (· + ·) 0
  return 4 * total * total + 16

/-! ## Contents of collections -/

/-- The entries of the mapping at a place, with its merged ones. -/
def mapAt (place : Nat) : Build (List (Key × Nat)) := do
  let entries ← entriesAt place
  let merges ← entries.anyM fun entry => do
    let tag ← tagAt entry.1
    return tag = .merge || tag = .default
  if merges then
    flatten place (← mergeBound)
  (← entriesAt place).foldlM
    (fun done entry => do
      let key ← keyAt entry.1
      let _ ← partAt entry.2
      return Key.insert done key entry.2)
    []

/-- The items of the sequence at a place. -/
def itemsAt (place : Nat) : Build (List Nat) := do
  match (← nodeAt place).content with
  | .sequence items => return items
  | _ => malformed

/-- The only entry of the mapping at a place. -/
def pairAt (place : Nat) : Build (Nat × Nat) := do
  match ← entriesAt place with
  | [(key, value)] => do
    let _ ← partAt key
    let _ ← partAt value
    return (key, value)
  | _ => malformed

/-- Finds what a collection holds. -/
def complete (place : Nat) : Build Unit := do
  match ← tagAt place with
  | .sequence => do
    let items ← itemsAt place
    for item in items do
      let _ ← partAt item
    setPart place (.list items)
  | .orderedMap | .pairs => do
    let pairs ← (← itemsAt place).mapM pairAt
    setPart place (.pairs pairs)
  | .set => setPart place (.set ((← mapAt place).map Prod.fst))
  | _ => setPart place (.map (← mapAt place))

/-- Finds what all collections hold, level by level. -/
def completeAll : Nat → Build Unit
  | 0 => return ()
  | fuel + 1 => do
    match (← get).pending.reverse with
    | [] => return ()
    | level =>
      modify fun builder => { builder with pending := [] }
      level.forM complete
      completeAll fuel

end Build

/-! ## Whole values -/

/-- The values of nodes that hold nothing from around them. -/
abbrev Known : Type :=
  Array (Option Value)

/-- A collection of the same form that holds nothing. -/
def Part.emptied : Part → Value
  | .map _ => .map []
  | .leaf value => value
  | _ => .list []

/-- The value of a node inside others, and which of those it holds again. -/
def wholeValue
    (parts : Array (Option Part)) : Nat → List Nat → Nat → StateM Known (Value × List Nat)
  | 0, _, _ => return (.null, [])
  | fuel + 1, around, place => do
    match (← get).getD place none with
    | some value => return (value, [])
    | none =>
      let part := (parts.getD place none).getD default
      let turns := around.count place
      if turns ≥ 2 then
        return (.again part.emptied, [place])
      else
        let inside := wholeValue parts fuel (place :: around)
        let (value, again) ←
          match part with
          | .leaf value => pure (value, [])
          | .set members => pure (.set members, [])
          | .list items => do
            let found ← items.mapM inside
            pure (.list (found.map Prod.fst), found.flatMap Prod.snd)
          | .pairs items => do
            let found ← items.mapM fun item => do
              let first ← inside item.1
              let second ← inside item.2
              pure (Value.pair first.1 second.1, first.2 ++ second.2)
            pure (.list (found.map Prod.fst), found.flatMap Prod.snd)
          | .map entries => do
            let found ← entries.mapM fun entry => do
              let value ← inside entry.2
              pure ((entry.1, value.1), value.2)
            pure (.map (found.map Prod.fst), found.flatMap Prod.snd)
        if turns = 1 then
          return (.again value, place :: again)
        else
          let outer := again.filter (· != place)
          if outer.isEmpty then
            modify fun known => known.set! place (some value)
          return (value, outer)

/-- The value of a document. -/
def Document.value (document : Document) : Except Fault Value := do
  let size := document.graph.size
  let start : Builder := ⟨document.graph, Array.replicate size none, []⟩
  let steps : Build Unit := do
    let _ ← Build.partAt document.root
    Build.completeAll (size + 1)
  let (_, builder) ← steps.run start
  return ((wholeValue builder.parts (2 * size + 2) [] document.root).run
    (Array.replicate size none)).1.1

/-- The wording for a text that breaks a rule of the format. -/
def malformedMessage : String := "not a well-formed document"

/-- The value of a text; a text without a document stands for nothing. -/
def read (text : String) : Except Fault Value := do
  match ← readDocument text with
  | none => return .null
  | some document => document.value

end TypeCatalog.Yaml
