import TypeCatalog.Proofs.Number.Doubles
import TypeCatalog.Proofs.Value.Contents
import TypeCatalog.Proofs.Yaml.GenuineTokens
import TypeCatalog.Yaml.Node
import TypeCatalog.Yaml.ScalarValue

namespace TypeCatalog.Yaml

/-!
# The texts of nodes are genuine

The text of a scalar is the text of the token that it was read from, and so are the text and the
number that it stands for.
-/

/-- Whether the text of a node, if it is a scalar, is a text. -/
def Content.IsGenuine : Content → Prop
  | .scalar written => written.IsGenuine
  | _ => True

/-- Whether all nodes are genuine. -/
def Graph.IsGenuine (graph : Graph) : Prop :=
  ∀ (place : Nat) (node : Node), graph[place]? = some node → node.content.IsGenuine

/-- Whether all tokens that are left and all nodes that were read are genuine. -/
structure Composer.IsGenuine (composer : Composer) : Prop where
  tokens : ∀ token ∈ composer.rest, token.IsGenuine
  graph : Graph.IsGenuine composer.graph

namespace Graph

variable {graph : Graph} (genuine : graph.IsGenuine)

include genuine

theorem IsGenuine.push
    {node : Node}
    (isGenuine : node.content.IsGenuine) :
    IsGenuine (Array.push graph node) := by
  intro place found isFound
  rw [Array.getElem?_push] at isFound
  split at isFound
  · cases isFound
    exact isGenuine
  · exact genuine place found isFound

theorem IsGenuine.modify
    {change : Node → Node}
    (keeps : ∀ node : Node, node.content.IsGenuine → (change node).content.IsGenuine)
    (place : Nat) :
    IsGenuine (Array.modify graph place change) := by
  intro other found isFound
  rw [Array.getElem?_modify] at isFound
  split at isFound
  · obtain ⟨node, isNode, rfl⟩ := Option.map_eq_some_iff.mp isFound
    exact keeps node (genuine other node isNode)
  · exact genuine other found isFound

theorem IsGenuine.getD (place : Nat) : (Array.getD graph place default).content.IsGenuine := by
  rw [Array.getD_eq_getD_getElem?]
  cases found : graph[place]? with
  | none => trivial
  | some node => exact genuine place node found

end Graph

namespace Compose

/-! ## Steps that read genuine nodes -/

/-- Steps that keep tokens and nodes genuine and give a result of some sort, if they succeed. -/
def Gives
    {α : Type}
    (steps : Compose α)
    (sort : α → Prop) : Prop :=
  ∀ before result after,
    before.IsGenuine → steps.run before = .ok (result, after) → after.IsGenuine ∧ sort result

/-- Steps that keep tokens and nodes genuine, if they succeed. -/
def Keeps
    {α : Type}
    (steps : Compose α) : Prop :=
  steps.Gives fun _ => True

variable {α β : Type}

theorem gives_pure
    {result : α}
    {sort : α → Prop}
    (isSo : sort result) :
    (pure result : Compose α).Gives sort := by
  rintro before _ _ genuine ⟨⟩
  exact ⟨genuine, isSo⟩

theorem keeps_pure
    (result : α) :
    (pure result : Compose α).Keeps :=
  gives_pure trivial

theorem gives_throw
    (fault : Fault)
    (sort : α → Prop) :
    (throw fault : Compose α).Gives sort := by
  rintro before _ _ _ ⟨⟩

theorem gives_malformed
    (sort : α → Prop) :
    (malformed : Compose α).Gives sort :=
  gives_throw _ _

theorem Gives.bind
    {steps : Compose α}
    {next : α → Compose β}
    {middle : α → Prop}
    {sort : β → Prop}
    (first : steps.Gives middle)
    (second : ∀ result, middle result → (next result).Gives sort) :
    (steps >>= next).Gives sort := by
  intro before result after genuine ran
  change (steps.run before >>= fun found => (next found.1).run found.2) = _ at ran
  cases firstRan : steps.run before with
  | error fault =>
      rw [firstRan] at ran
      cases ran
  | ok found =>
      rw [firstRan] at ran
      obtain ⟨genuineBetween, isSo⟩ := first before found.1 found.2 genuine firstRan
      exact second found.1 isSo found.2 result after genuineBetween ran

theorem Keeps.bind
    {steps : Compose α}
    {next : α → Compose β}
    {sort : β → Prop}
    (first : steps.Keeps)
    (second : ∀ result, (next result).Gives sort) :
    (steps >>= next).Gives sort :=
  Gives.bind first fun result _ => second result

theorem Gives.ite
    {condition : Prop}
    [Decidable condition]
    {first second : Compose α}
    {sort : α → Prop}
    (one : first.Gives sort)
    (other : second.Gives sort) :
    (if condition then first else second).Gives sort := by
  split
  · exact one
  · exact other

theorem gives_get : (get : Compose Composer).Gives Composer.IsGenuine := by
  rintro before _ _ genuine ⟨⟩
  exact ⟨genuine, genuine⟩

theorem keeps_modify
    {change : Composer → Composer}
    (keeps : ∀ composer, composer.IsGenuine → (change composer).IsGenuine) :
    (modify change : Compose Unit).Keeps := by
  rintro before _ _ genuine ⟨⟩
  exact ⟨keeps before genuine, trivial⟩

/-! ## Tokens -/

theorem gives_peek : peek.Gives fun token? => ∀ token, token? = some token → token.IsGenuine := by
  refine gives_get.bind fun composer genuine => ?_
  split
  · next token rest isRest =>
      refine gives_pure ?_
      rintro _ ⟨⟩
      exact genuine.tokens token (isRest ▸ List.mem_cons_self)
  · exact gives_throw _ _
  · exact gives_pure nofun

theorem keeps_skip : skip.Keeps :=
  keeps_modify fun _ genuine =>
    ⟨fun token member => genuine.tokens token (List.mem_of_mem_tail member), genuine.graph⟩

theorem keeps_accept (token : Token) : (accept token).Keeps :=
  gives_peek.bind fun _ _ => .ite (keeps_skip.bind fun _ => keeps_pure _) (keeps_pure _)

theorem keeps_expect (token : Token) : (expect token).Keeps :=
  (keeps_accept token).bind fun _ => .ite (gives_malformed _) (keeps_pure _)

theorem keeps_isNext (tokens : List Token) : (isNext tokens).Keeps := by
  refine gives_peek.bind fun token? _ => ?_
  cases token? <;> exact keeps_pure _

/-! ## Properties and nodes -/

theorem keeps_findAnchor : Compose.Keeps anchor? := by
  refine gives_peek.bind fun _ _ => ?_
  split
  · exact keeps_skip.bind fun _ => keeps_pure _
  · exact keeps_pure _

theorem keeps_findTag : Compose.Keeps tag? := by
  refine gives_peek.bind fun _ _ => ?_
  split
  · exact keeps_skip.bind fun _ => keeps_pure _
  · exact keeps_pure _

theorem keeps_fullName (found : Option (Option String × String)) : (fullName found).Keeps := by
  unfold fullName
  split
  · exact keeps_pure _
  · exact keeps_pure _
  · refine gives_get.bind fun _ _ => ?_
    split
    · exact keeps_pure _
    · exact gives_malformed _

theorem keeps_properties : properties.Keeps := by
  refine keeps_findAnchor.bind fun name? => ?_
  cases name? with
  | some name =>
      exact keeps_findTag.bind fun found => (keeps_fullName found).bind fun _ => keeps_pure _
  | none =>
      exact keeps_findTag.bind fun found => .ite
        (keeps_findAnchor.bind fun _ => (keeps_fullName found).bind fun _ => keeps_pure _)
        (keeps_pure _)

theorem keeps_aliased (name : String) : (aliased name).Keeps := by
  refine gives_get.bind fun _ _ => ?_
  split
  · exact keeps_pure _
  · exact gives_malformed _

theorem keeps_add
    (node : Node)
    (isGenuine : node.content.IsGenuine) :
    (add node).Keeps :=
  gives_get.bind fun _ _ =>
    Keeps.bind (keeps_modify fun _ genuine => ⟨genuine.tokens, genuine.graph.push isGenuine⟩)
      fun _ => keeps_pure _

theorem keeps_addUnder
    (properties : Properties)
    {node : Node}
    (isGenuine : node.content.IsGenuine) :
    (addUnder properties node).Keeps := by
  refine (keeps_add node isGenuine).bind fun place => ?_
  split
  · exact keeps_pure _
  · exact Keeps.bind (keeps_modify fun _ genuine => ⟨genuine.tokens, genuine.graph⟩)
      fun _ => keeps_pure _

theorem keeps_requireFresh (properties : Properties) : (requireFresh properties).Keeps := by
  unfold requireFresh
  split
  · exact keeps_pure _
  · exact gives_get.bind fun _ _ => .ite (gives_malformed _) (keeps_pure _)

theorem keeps_fill
    (place : Nat)
    (content : Content)
    (isGenuine : content.IsGenuine) :
    (fill place content).Keeps := by
  refine Keeps.bind (keeps_modify fun composer genuine => ⟨genuine.tokens, ?_⟩)
    fun _ => keeps_pure _
  exact genuine.graph.modify (fun _ _ => isGenuine) place

theorem keeps_nothing : nothing.Keeps :=
  keeps_add _ trivial

/-! ## Nodes inside one another -/

/-- Whether reading nodes with so much fuel keeps tokens and nodes genuine. -/
structure KeepsWithin (fuel : Nat) : Prop where
  node (place : Place) (room : Nat) : (node place room fuel).Keeps
  nodeUnless (place : Place) (ends : List Token) (room : Nat) :
    (nodeUnless place ends room fuel).Keeps
  valueUnless (place : Place) (ends : List Token) (room : Nat) :
    (valueUnless place ends room fuel).Keeps
  blockItems (room : Nat) (done : List Nat) : (blockItems room done fuel).Keeps
  indentlessItems (room : Nat) (done : List Nat) : (indentlessItems room done fuel).Keeps
  blockEntries (room : Nat) (done : List (Nat × Nat)) : (blockEntries room done fuel).Keeps
  flowItems (room : Nat) (isFirst : Bool) (done : List Nat) :
    (flowItems room isFirst done fuel).Keeps
  flowEntries (room : Nat) (isFirst : Bool) (done : List (Nat × Nat)) :
    (flowEntries room isFirst done fuel).Keeps

private theorem keepsWithin_zero : KeepsWithin 0 where
  node _ _ := gives_malformed _
  nodeUnless _ _ _ := gives_malformed _
  valueUnless _ _ _ := gives_malformed _
  blockItems _ _ := gives_malformed _
  indentlessItems _ _ := gives_malformed _
  blockEntries _ _ := gives_malformed _
  flowItems _ _ _ := gives_malformed _
  flowEntries _ _ _ := gives_malformed _

/-- A collection is added empty and filled when its contents are read. -/
private theorem keeps_collection
    (found : Properties)
    (tag : Tag)
    {empty : Content}
    {contents : Compose α}
    {make : α → Content}
    (keeps : contents.Keeps)
    (emptyGenuine : empty.IsGenuine)
    (fullGenuine : ∀ held, (make held).IsGenuine) :
    (do
      let whole ← addUnder found ⟨tag, empty⟩
      fill whole (make (← contents)) : Compose Nat).Keeps :=
  (keeps_addUnder found emptyGenuine).bind fun whole => keeps.bind fun held =>
    keeps_fill whole _ (fullGenuine held)

section Within

variable {fuel : Nat} (within : KeepsWithin fuel)

include within

private theorem keeps_node
    (place : Place)
    (room : Nat) :
    (node place room (fuel + 1)).Keeps := by
  unfold node
  refine .ite (gives_throw _ _) (gives_peek.bind fun _ _ => ?_)
  split
  · exact keeps_skip.bind fun _ => keeps_aliased _
  · refine keeps_properties.bind fun found => gives_peek.bind fun next nextGenuine => .ite ?_ ?_
    · exact (keeps_requireFresh found).bind fun _ =>
        keeps_collection found _ (within.indentlessItems _ []) trivial fun _ => trivial
    · split
      · next written isPlain =>
          have isGenuine : written.IsGenuine := nextGenuine _ rfl
          exact keeps_skip.bind fun _ => (keeps_requireFresh found).bind fun _ =>
            keeps_addUnder found isGenuine
      · exact (keeps_requireFresh found).bind fun _ => keeps_skip.bind fun _ =>
          keeps_collection found _ (within.flowItems _ true []) trivial fun _ => trivial
      · exact (keeps_requireFresh found).bind fun _ => keeps_skip.bind fun _ =>
          keeps_collection found _ (within.flowEntries _ true []) trivial fun _ => trivial
      · exact .ite (gives_malformed _) ((keeps_requireFresh found).bind fun _ =>
          keeps_skip.bind fun _ =>
            keeps_collection found _ (within.blockItems _ []) trivial fun _ => trivial)
      · exact .ite (gives_malformed _) ((keeps_requireFresh found).bind fun _ =>
          keeps_skip.bind fun _ =>
            keeps_collection found _ (within.blockEntries _ []) trivial fun _ => trivial)
      · exact .ite ((keeps_requireFresh found).bind fun _ => keeps_addUnder found trivial)
          (gives_malformed _)

private theorem keeps_nodeUnless
    (place : Place)
    (ends : List Token)
    (room : Nat) :
    (nodeUnless place ends room (fuel + 1)).Keeps :=
  (keeps_isNext ends).bind fun _ => .ite keeps_nothing (within.node place room)

private theorem keeps_valueUnless
    (place : Place)
    (ends : List Token)
    (room : Nat) :
    (valueUnless place ends room (fuel + 1)).Keeps :=
  (keeps_accept .value).bind fun _ => .ite (within.nodeUnless place ends room) keeps_nothing

private theorem keeps_blockItems
    (room : Nat)
    (done : List Nat) :
    (blockItems room done (fuel + 1)).Keeps :=
  (keeps_accept .entry).bind fun _ => .ite
    ((within.nodeUnless _ _ room).bind fun _ => within.blockItems room _)
    ((keeps_expect .blockEnd).bind fun _ => keeps_pure _)

private theorem keeps_indentlessItems
    (room : Nat)
    (done : List Nat) :
    (indentlessItems room done (fuel + 1)).Keeps :=
  (keeps_accept .entry).bind fun _ => .ite
    ((within.nodeUnless _ _ room).bind fun _ => within.indentlessItems room _)
    (keeps_pure _)

private theorem keeps_blockEntries
    (room : Nat)
    (done : List (Nat × Nat)) :
    (blockEntries room done (fuel + 1)).Keeps :=
  (keeps_accept .key).bind fun _ => .ite
    ((within.nodeUnless _ _ room).bind fun _ => (within.valueUnless _ _ room).bind fun _ =>
      within.blockEntries room _)
    ((keeps_expect .blockEnd).bind fun _ => keeps_pure _)

private theorem keeps_flowItems
    (room : Nat)
    (isFirst : Bool)
    (done : List Nat) :
    (flowItems room isFirst done (fuel + 1)).Keeps := by
  refine (keeps_accept .sequenceEnd).bind fun _ => .ite (keeps_pure _) ?_
  extract_lets addMapping readItem
  have adds : ∀ done, (addMapping done).Keeps := fun _ =>
    (keeps_add ⟨.mapping, .mapping []⟩ trivial).bind fun whole =>
      (within.nodeUnless _ _ _).bind fun key => (within.valueUnless _ _ _).bind fun value =>
        (keeps_fill whole (.mapping [(key, value)]) trivial).bind fun _ =>
          within.flowItems room false _
  have reads : ∀ done, (readItem done).Keeps := fun _ => (keeps_accept .key).bind fun _ => .ite
    (.ite (Keeps.bind (gives_throw _ _) adds) (adds ()))
    ((keeps_accept .sequenceEnd).bind fun _ => .ite (keeps_pure _)
      ((within.node .inFlow room).bind fun _ => within.flowItems room false _))
  exact .ite ((keeps_expect .separator).bind reads) (reads ())

private theorem keeps_flowEntries
    (room : Nat)
    (isFirst : Bool)
    (done : List (Nat × Nat)) :
    (flowEntries room isFirst done (fuel + 1)).Keeps := by
  refine (keeps_accept .mappingEnd).bind fun _ => .ite (keeps_pure _) ?_
  extract_lets readEntry
  have reads : ∀ done, (readEntry done).Keeps := fun _ => (keeps_accept .key).bind fun _ => .ite
    ((within.nodeUnless _ _ room).bind fun _ => (within.valueUnless _ _ room).bind fun _ =>
      within.flowEntries room false _)
    ((keeps_accept .mappingEnd).bind fun _ => .ite (keeps_pure _)
      ((within.node .inFlow room).bind fun _ => keeps_nothing.bind fun _ =>
        within.flowEntries room false _))
  exact .ite ((keeps_expect .separator).bind reads) (reads ())

end Within

/-- Reading a node with more fuel reads the nodes in it with less. -/
theorem keepsWithin (fuel : Nat) : KeepsWithin fuel := by
  induction fuel with
  | zero => exact keepsWithin_zero
  | succ fuel within =>
      exact
        { node := keeps_node within
          nodeUnless := keeps_nodeUnless within
          valueUnless := keeps_valueUnless within
          blockItems := keeps_blockItems within
          indentlessItems := keeps_indentlessItems within
          blockEntries := keeps_blockEntries within
          flowItems := keeps_flowItems within
          flowEntries := keeps_flowEntries within }

/-! ## Documents -/

theorem keeps_directives
    (hasVersion : Bool)
    (handles : List (String × String))
    (fuel : Nat) :
    (directives hasVersion handles fuel).Keeps := by
  induction fuel generalizing hasVersion handles with
  | zero => exact gives_malformed _
  | succ fuel inductionHypothesis =>
      refine gives_peek.bind fun _ _ => ?_
      split
      · exact .ite (gives_malformed _) (keeps_skip.bind fun _ => inductionHypothesis _ _)
      · exact .ite (gives_malformed _) (keeps_skip.bind fun _ => inductionHypothesis _ _)
      · exact keeps_skip.bind fun _ => inductionHypothesis _ _
      · exact keeps_modify fun _ genuine => ⟨genuine.tokens, genuine.graph⟩

theorem keeps_skipEnds (fuel : Nat) : (skipEnds fuel).Keeps := by
  induction fuel with
  | zero => exact keeps_pure _
  | succ fuel inductionHypothesis =>
      exact (keeps_accept .documentEnd).bind fun _ => .ite inductionHypothesis (keeps_pure _)

theorem keeps_content (fuel : Nat) : (content fuel).Keeps := by
  refine gives_peek.bind fun _ _ => ?_
  split
  · exact keeps_nothing
  · exact .ite keeps_nothing ((keepsWithin fuel).node .inBlock _)

theorem keeps_markedDocument (fuel : Nat) : (markedDocument fuel).Keeps :=
  (keeps_directives false [] fuel).bind fun _ => (keeps_expect .documentStart).bind fun _ =>
    keeps_content fuel

theorem keeps_document (fuel : Nat) : (document fuel).Keeps := by
  refine gives_peek.bind fun _ _ => ?_
  split
  · exact keeps_pure _
  · have finishes : ∀ found : Nat, (do
        skipEnds fuel
        if (← peek).isSome then
          directives false [] fuel
          malformed
        else
          return some found : Compose (Option Nat)).Keeps :=
      fun _ => (keeps_skipEnds fuel).bind fun _ => gives_peek.bind fun _ _ =>
        .ite ((keeps_directives false [] fuel).bind fun _ => gives_malformed _) (keeps_pure _)
    exact .ite ((keeps_markedDocument fuel).bind finishes)
      (((keepsWithin fuel).node .inBlock _).bind finishes)

end Compose

/-- The nodes of a document are genuine. -/
theorem isGenuine_of_readDocument
    {text : String}
    {document : Document}
    (isRead : readDocument text = .ok (some document)) :
    Graph.IsGenuine document.graph := by
  simp only [readDocument] at isRead
  split at isRead
  · next root composer ran =>
      cases isRead
      refine (Compose.keeps_document _ _ _ _ ⟨TokenStream.isGenuine_ofText text, ?_⟩ ran).1.graph
      intro place node found
      simp at found
  · cases isRead
  · cases isRead

namespace ScalarValue

/-!
## The values of scalars

A scalar stands for a value that holds no others.  Its number, if it has a fraction, is a double, and
its text is the one that was written.
-/

private theorem exists_of_toFault
    {α : Type}
    {make : α → Value}
    {outcome : Except Crash α}
    {value : Value}
    (made : toFault (outcome.map make) = .ok value) :
    ∃ result, outcome = .ok result ∧ value = make result := by
  cases outcome with
  | error crash => cases made
  | ok result =>
      cases made
      exact ⟨result, rfl, rfl⟩

private theorem exists_of_binary
    {content : String}
    {value : Value}
    (made : (binary content).map .bytes = .ok value) :
    ∃ octets, value = .bytes octets := by
  cases decoded : binary content with
  | error fault =>
      rw [decoded] at made
      cases made
  | ok octets =>
      rw [decoded] at made
      cases made
      exact ⟨octets, rfl⟩

theorem isSingle_of_ofScalar
    {tag : Tag}
    {written : Text.Written}
    {value : Value}
    (made : ofScalar tag written = .ok value) :
    value.IsSingle := by
  unfold ofScalar at made
  split at made
  · cases made
    exact Value.isSingle_ofWritten written
  · cases made
    trivial
  · obtain ⟨_, _, rfl⟩ := exists_of_toFault made
    trivial
  · obtain ⟨_, _, rfl⟩ := exists_of_toFault made
    trivial
  · obtain ⟨_, _, rfl⟩ := exists_of_toFault made
    trivial
  · obtain ⟨_, _, rfl⟩ := exists_of_toFault made
    trivial
  · obtain ⟨_, rfl⟩ := exists_of_binary made
    trivial
  · cases made

private theorem isDouble_of_decimal
    {characters : List Char}
    {number : Binary64}
    (isRead : decimal characters = .ok number) :
    number.IsDouble := by
  unfold decimal at isRead
  split at isRead
  · next found =>
      cases isRead
      exact Number.isDouble_of_decimal? found
  · cases isRead

private theorem isDouble_of_sexagesimalSum
    {sum number : Binary64}
    {weight : Nat}
    {places : List Binary64}
    (isDouble : sum.IsDouble)
    (isSum : sexagesimalSum sum weight places = .ok number) :
    number.IsDouble := by
  induction places generalizing sum weight with
  | nil =>
      cases isSum
      exact isDouble
  | cons place rest inductionHypothesis =>
      rw [sexagesimalSum] at isSum
      split at isSum
      · exact inductionHypothesis (Binary64.isDouble_add ..) isSum
      · cases isSum

/-- A number that a scalar writes is a double. -/
theorem isDouble_of_float
    {content : String}
    {number : Binary64}
    (isRead : float content = .ok number) :
    number.IsDouble := by
  simp only [float, bind, Except.bind] at isRead
  split at isRead
  · cases isRead
  · next found _ =>
      have finishes : ∀ size : Binary64, size.IsDouble →
          (if found.1 = true then size.neg else size).IsDouble := by
        intro size isDouble
        split
        · exact isDouble.neg
        · exact isDouble
      split at isRead
      · cases isRead
        trivial
      · split at isRead
        · cases isRead
          exact finishes (.infinite false) trivial
        · split at isRead
          · split at isRead
            · cases isRead
            · split at isRead
              · cases isRead
              · next isSum =>
                  cases isRead
                  exact finishes _ (isDouble_of_sexagesimalSum (Binary64.isDouble_zero false) isSum)
          · split at isRead
            · cases isRead
            · next isDecimal =>
                cases isRead
                exact finishes _ (isDouble_of_decimal isDecimal)

theorem isGenuineSingle_of_ofScalar
    {tag : Tag}
    {written : Text.Written}
    {value : Value}
    (genuine : written.IsGenuine)
    (made : ofScalar tag written = .ok value) :
    value.IsGenuineSingle := by
  unfold ofScalar at made
  split at made
  · cases made
    cases written <;> exact genuine
  · cases made
    trivial
  · obtain ⟨_, _, rfl⟩ := exists_of_toFault made
    trivial
  · obtain ⟨_, isRead, rfl⟩ := exists_of_toFault made
    exact isDouble_of_float isRead
  · obtain ⟨_, _, rfl⟩ := exists_of_toFault made
    trivial
  · obtain ⟨_, _, rfl⟩ := exists_of_toFault made
    trivial
  · obtain ⟨_, rfl⟩ := exists_of_binary made
    trivial
  · cases made

end ScalarValue

end TypeCatalog.Yaml
