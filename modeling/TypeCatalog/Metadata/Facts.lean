import TypeCatalog.Metadata.TypeRef

namespace TypeCatalog

/-!
# Parts of types and members

Attributes, generic parameters, parameters and documentation blocks as a module records them.
-/

/-- An attribute.  A load error says that its data could not be resolved. -/
structure AttributeFact where
  typeName : String
  constructorArguments : List Value
  namedArguments : List (String × Value)
  loadError? : Option String
deriving Repr

/-- A generic parameter of a type or a method. -/
structure GenericParameterFact where
  name : String
  position : Int
  constraints : List TypeRef
  referenceTypeConstraint : Bool
  valueTypeConstraint : Bool
  defaultConstructorConstraint : Bool
  variance : Variance
deriving Repr

/-- A parameter of a member. -/
structure ParameterFact where
  name : String
  typeRef : TypeRef
  position : Int
  isOptional : Bool
  hasDefault : Bool
  defaultValue : Value
  isOut : Bool
  isIn : Bool
  isParams : Bool
  attributes : List AttributeFact
deriving Repr

/-- What documentation says about one parameter. -/
structure ParameterNote where
  name : String
  text : String
deriving Repr, DecidableEq

/-- The documentation of a type or a member. -/
structure DocBlock where
  summary? : Option String
  remarks? : Option String
  returns? : Option String
  notes : List ParameterNote
deriving Repr, DecidableEq

namespace AttributeFact

/-- Reads an attribute from the entries of a mapping. -/
def ofEntries (entries : List (Key × Value)) : Schema.Checked AttributeFact :=
  AttributeFact.mk
    <$> Schema.required entries "type_name" Schema.text
    <*> Schema.optional entries "constructor_arguments" []
      (Schema.sequenceOf Schema.anything)
    <*> Schema.optional entries "named_arguments" [] (Schema.mappingOf Schema.anything)
    <*> Schema.optional entries "load_error" none (Schema.nullable Schema.text)

/-- Checks a value as an attribute; a text alone is the name of its type. -/
def check : Schema.Check AttributeFact
  | .text content => .ok ⟨content, [], [], none⟩
  | .unpaired points =>
    (Schema.Checked.reject Schema.notCharactersMessage (.unpaired points)).under
      (.field "type_name")
  | value => Schema.recordOf "RawAttribute" ofEntries value

/-- An attribute as a value. -/
def toValue (recorded : AttributeFact) : Value :=
  .record
    [("type_name", .text recorded.typeName),
      ("constructor_arguments", .list recorded.constructorArguments),
      ("named_arguments", .record recorded.namedArguments),
      ("load_error", .ofText? recorded.loadError?)]

end AttributeFact

namespace GenericParameterFact

/-- Reads a generic parameter from the entries of a mapping, where there is room for so many
references inside one another. -/
def ofEntries
    (room : Nat)
    (entries : List (Key × Value)) : Schema.Checked GenericParameterFact :=
  GenericParameterFact.mk
    <$> Schema.required entries "name" Schema.text
    <*> Schema.optional entries "position" 0 Schema.whole
    <*> Schema.optional entries "constraints" []
      (Schema.sequenceOf (TypeRef.checkInside room))
    <*> Schema.optional entries "reference_type_constraint" false Schema.truth
    <*> Schema.optional entries "value_type_constraint" false Schema.truth
    <*> Schema.optional entries "default_constructor_constraint" false Schema.truth
    <*> Schema.optional entries "variance" .invariant
      (Schema.choice (Variance.all.map fun variance => (variance.word, variance)))

/-- Checks a value as a generic parameter. -/
def check (room : Nat) : Schema.Check GenericParameterFact :=
  Schema.recordOf "RawGenericParameter" (ofEntries room)

/-- A generic parameter as a value. -/
def toValue (parameter : GenericParameterFact) : Value :=
  .record
    [("name", .text parameter.name), ("position", .int parameter.position),
      ("constraints", .list (TypeRef.listToValue parameter.constraints)),
      ("reference_type_constraint", .bool parameter.referenceTypeConstraint),
      ("value_type_constraint", .bool parameter.valueTypeConstraint),
      ("default_constructor_constraint", .bool parameter.defaultConstructorConstraint),
      ("variance", .text parameter.variance.word)]

end GenericParameterFact

namespace ParameterFact

/-- Reads a parameter from the entries of a mapping, where there is room for so many references
inside one another. -/
def ofEntries
    (room : Nat)
    (entries : List (Key × Value)) : Schema.Checked ParameterFact :=
  ParameterFact.mk
    <$> Schema.required entries "name" Schema.text
    <*> Schema.required entries "type" (TypeRef.checkInside room)
    <*> Schema.optional entries "position" 0 Schema.whole
    <*> Schema.optional entries "is_optional" false Schema.truth
    <*> Schema.optional entries "has_default" false Schema.truth
    <*> Schema.optional entries "default_value" .null Schema.anything
    <*> Schema.optional entries "is_out" false Schema.truth
    <*> Schema.optional entries "is_in" false Schema.truth
    <*> Schema.optional entries "is_params" false Schema.truth
    <*> Schema.optional entries "attributes" [] (Schema.sequenceOf AttributeFact.check)

/-- Checks a value as a parameter. -/
def check (room : Nat) : Schema.Check ParameterFact :=
  Schema.recordOf "RawParameter" (ofEntries room)

/-- A parameter as a value. -/
def toValue (parameter : ParameterFact) : Value :=
  .record
    [("name", .text parameter.name), ("type", parameter.typeRef.toValue),
      ("position", .int parameter.position), ("is_optional", .bool parameter.isOptional),
      ("has_default", .bool parameter.hasDefault), ("default_value", parameter.defaultValue),
      ("is_out", .bool parameter.isOut), ("is_in", .bool parameter.isIn),
      ("is_params", .bool parameter.isParams),
      ("attributes", .list (parameter.attributes.map AttributeFact.toValue))]

end ParameterFact

namespace ParameterNote

/-- Checks a value as a note on a parameter. -/
def check : Schema.Check ParameterNote :=
  Schema.recordOf "RawParamDoc" fun entries =>
    ParameterNote.mk
      <$> Schema.required entries "name" Schema.text
      <*> Schema.optional entries "text" "" Schema.text

/-- A note as a value. -/
def toValue (note : ParameterNote) : Value :=
  .record [("name", .text note.name), ("text", .text note.text)]

end ParameterNote

namespace DocBlock

/-- Notes written as a mapping from parameter names to texts become a list of notes. -/
def listNotes (entries : List (Key × Value)) : List (Key × Value) :=
  match Value.lookup? entries "params" with
  | some (.map notes) | some (.again (.map notes)) =>
    Value.insert entries (.text "params")
      (.list (notes.map fun note => .record [("name", note.1.toValue), ("text", note.2)]))
  | _ => entries

/-- Reads a documentation block from the entries of a mapping. -/
def ofEntries (entries : List (Key × Value)) : Schema.Checked DocBlock :=
  let listed := listNotes entries
  DocBlock.mk
    <$> Schema.optional listed "summary" none (Schema.nullable Schema.text)
    <*> Schema.optional listed "remarks" none (Schema.nullable Schema.text)
    <*> Schema.optional listed "returns" none (Schema.nullable Schema.text)
    <*> Schema.optional listed "params" [] (Schema.sequenceOf ParameterNote.check)

/-- Checks a value as a documentation block; a text alone is the summary. -/
def check : Schema.Check DocBlock
  | .text content => .ok ⟨some content, none, none, []⟩
  | .unpaired points =>
    (Schema.Checked.reject Schema.notCharactersMessage (.unpaired points)).under
      (.field "summary")
  | value => Schema.recordOf "RawDocs" ofEntries value

/-- A documentation block as a value. -/
def toValue (docs : DocBlock) : Value :=
  .record
    [("summary", .ofText? docs.summary?), ("remarks", .ofText? docs.remarks?),
      ("returns", .ofText? docs.returns?), ("params", .list (docs.notes.map ParameterNote.toValue))]

end DocBlock

end TypeCatalog
