import TypeCatalog.Report.Error
import TypeCatalog.Value.Quantity

namespace TypeCatalog

/-!
# Errors by the name of their maker

An error can be made of values, in order or under names.  Its message displays them and its details
keep them as they are.
-/

/-- What makes the errors of one sort. -/
inductive ErrorMaker where
  | moduleNotFound
  | typeNotFound
  | memberNotFound
  | invalidArgument
  | invalidToken
  | responseTooLarge
  | internal
  | unreadableConfig
  | invalidConfigValue
deriving Repr, DecidableEq

namespace ErrorMaker

/-- The name of a maker. -/
def name : ErrorMaker → String
  | .moduleNotFound => "module_not_found"
  | .typeNotFound => "type_not_found"
  | .memberNotFound => "member_not_found"
  | .invalidArgument => "invalid_argument"
  | .invalidToken => "invalid_token"
  | .responseTooLarge => "response_too_large"
  | .internal => "internal"
  | .unreadableConfig => "parse_error"
  | .invalidConfigValue => "invalid_value"

/-- The makers of errors of calls. -/
def forCalls : List ErrorMaker :=
  [.moduleNotFound, .typeNotFound, .memberNotFound, .invalidArgument, .invalidToken,
    .responseTooLarge, .internal]

/-- The makers of errors of the configuration. -/
def forConfig : List ErrorMaker :=
  forCalls ++ [.unreadableConfig, .invalidConfigValue]

/-- The maker with a name. -/
def ofName?
    (isForConfig : Bool)
    (name : String) : Option ErrorMaker :=
  (if isForConfig then forConfig else forCalls).find? fun maker => maker.name == name

/-- The names of the values that a maker needs. -/
def parameters : ErrorMaker → List String
  | .moduleNotFound => ["path"]
  | .typeNotFound => ["type_name", "module_path"]
  | .memberNotFound => ["member_name", "type_name"]
  | .invalidArgument => ["argument", "reason"]
  | .invalidToken | .internal => ["reason"]
  | .responseTooLarge => ["actual", "maximum"]
  | .unreadableConfig => ["path", "reason"]
  | .invalidConfigValue => ["field", "value", "reason"]

/-- Whether a maker takes values under further names, as details. -/
def takesDetails : ErrorMaker → Bool
  | .invalidArgument | .internal => true
  | _ => false

/-- The crash for values that do not fit the names. -/
def misfit (maker : ErrorMaker) : Crash :=
  ⟨.wrongType, maker.name ++ "() takes " ++ ", ".intercalate maker.parameters⟩

/-- The values that a maker needs, first those in order and then those under names, and the values
under further names.  No value may come twice, and the name of the class is not free either. -/
def bind
    (maker : ErrorMaker)
    (given : List Value)
    (named : List (String × Value)) : Except Crash (List Value × List (String × Value)) := do
  let filled := maker.parameters.take given.length
  let open_ := maker.parameters.drop given.length
  let further := named.filter fun entry => !open_.contains entry.1
  let isTwice := further.any fun entry => filled.contains entry.1 || entry.1 == "cls"
  if given.length > maker.parameters.length || isTwice then
    throw maker.misfit
  if !further.isEmpty && !maker.takesDetails then
    throw maker.misfit
  match open_.mapM fun name => named.lookup name with
  | some values => return (given ++ values, further)
  | none => throw maker.misfit

/-- A size in groups of three digits. -/
def groupedSize (value : Value) : Except Crash String :=
  match Quantity.ofValue? value with
  | some quantity => .ok quantity.grouped
  | none =>
    match value with
    | .text _ => .error ⟨.invalidValue, "Cannot specify ',' with 's'."⟩
    | other => .error ⟨.wrongType, "unsupported format string passed to " ++ other.formWord⟩

/-- The error about an answer whose size is above a maximum, which may be any quantity. -/
def tooLarge (actual maximum : Value) : Except Crash ReportedError := do
  return ⟨.responseTooLarge,
    ReportedError.sizeMessage (← groupedSize actual) (← groupedSize maximum),
    [("actual", actual), ("maximum", maximum)], false⟩

/-- Makes an error of values in order and under names. -/
def make
    (maker : ErrorMaker)
    (given : List Value)
    (named : List (String × Value)) : Except Crash ReportedError := do
  let (values, further) ← maker.bind given named
  match maker, values with
  | .moduleNotFound, [path] =>
    return { ReportedError.moduleNotFound path.display with details := [("module_path", path)] }
  | .typeNotFound, [typeName, path] =>
    return { ReportedError.typeNotFound typeName.display path.display with
      details := [("type_name", typeName), ("module_path", path)] }
  | .memberNotFound, [memberName, typeName] =>
    return { ReportedError.memberNotFound memberName.display typeName.display with
      details := [("member_name", memberName), ("type_name", typeName)] }
  | .invalidArgument, [argument, reason] =>
    return { ReportedError.invalidArgument argument.display reason.display [] with
      details := [("argument", argument), ("reason", reason)] ++ further }
  | .invalidToken, [reason] =>
    return { ReportedError.invalidToken reason.display with details := [("reason", reason)] }
  | .responseTooLarge, [actual, maximum] => tooLarge actual maximum
  | .internal, [reason] => return ReportedError.internal reason.display further
  | .unreadableConfig, [path, reason] =>
    return { ReportedError.unreadableConfig path.display reason.display with
      details := [("path", path), ("reason", reason)] }
  | .invalidConfigValue, [field, value, reason] =>
    return { ReportedError.invalidConfigValue field.display value reason.display with
      details := [("field", field), ("value", .text value.display), ("reason", reason)] }
  | _, _ => throw maker.misfit

end ErrorMaker

end TypeCatalog
