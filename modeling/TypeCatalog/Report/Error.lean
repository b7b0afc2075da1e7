import TypeCatalog.Crash
import TypeCatalog.Schema.Checked
import TypeCatalog.Text.Numeral

namespace TypeCatalog

/-!
# Reported errors

Every failure that an operation answers with has one of seven codes, a message, and details for
the caller.
-/

/-- The codes of errors. -/
inductive ErrorCode where
  | moduleNotFound
  | typeNotFound
  | memberNotFound
  | invalidArgument
  | invalidContinuationToken
  | responseTooLarge
  | internalError
deriving Repr, DecidableEq

namespace ErrorCode

/-- The word for a code. -/
def word : ErrorCode → String
  | .moduleNotFound => "ModuleNotFound"
  | .typeNotFound => "TypeNotFound"
  | .memberNotFound => "MemberNotFound"
  | .invalidArgument => "InvalidArgument"
  | .invalidContinuationToken => "InvalidContinuationToken"
  | .responseTooLarge => "ResponseTooLarge"
  | .internalError => "InternalError"

/-- All codes. -/
def all : List ErrorCode :=
  [.moduleNotFound, .typeNotFound, .memberNotFound, .invalidArgument, .invalidContinuationToken,
    .responseTooLarge, .internalError]

/-- The code with a word. -/
def ofWord? (word : String) : Option ErrorCode :=
  all.find? fun code => code.word == word

end ErrorCode

/-- An error as it is reported. -/
structure ReportedError where
  code : ErrorCode
  message : String
  details : List (String × Value)
  retryable : Bool
deriving Repr

namespace ReportedError

/-- No module under a path. -/
def moduleNotFound (path : String) : ReportedError :=
  ⟨.moduleNotFound, "Module not found: " ++ path, [("module_path", .text path)], false⟩

/-- No type with a name in a module. -/
def typeNotFound (typeName modulePath : String) : ReportedError :=
  ⟨.typeNotFound, "Type '" ++ typeName ++ "' not found in " ++ modulePath,
    [("type_name", .text typeName), ("module_path", .text modulePath)], false⟩

/-- No member with a name on a type. -/
def memberNotFound (memberName typeName : String) : ReportedError :=
  ⟨.memberNotFound, "Member '" ++ memberName ++ "' not found on type '" ++ typeName ++ "'",
    [("member_name", .text memberName), ("type_name", .text typeName)], false⟩

/-- An argument that cannot be used, with further details. -/
def invalidArgument
    (argument reason : String)
    (details : List (String × Value)) : ReportedError :=
  ⟨.invalidArgument, "Invalid value for '" ++ argument ++ "': " ++ reason,
    ("argument", .text argument) :: ("reason", .text reason) :: details, false⟩

/-- A token that cannot be continued from. -/
def invalidToken (reason : String) : ReportedError :=
  ⟨.invalidContinuationToken, "Invalid continuation token: " ++ reason,
    [("reason", .text reason)], false⟩

/-- The message about an answer that is too large. -/
def sizeMessage (actual maximum : String) : String :=
  "Response size " ++ actual ++ " chars exceeds the maximum of " ++ maximum ++
    ". Use pagination (max_items) or narrower filters."

/-- An answer that is too large. -/
def responseTooLarge (actual maximum : Int) : ReportedError :=
  ⟨.responseTooLarge, sizeMessage (Text.grouped actual) (Text.grouped maximum),
    [("actual", .int actual), ("maximum", .int maximum)], false⟩

/-- A failure that nobody foresaw. -/
def internal
    (reason : String)
    (details : List (String × Value)) : ReportedError :=
  ⟨.internalError, "Internal error: " ++ reason, details, false⟩

/-- A configuration file that cannot be read. -/
def unreadableConfig (path reason : String) : ReportedError :=
  ⟨.invalidArgument, "Failed to parse config at " ++ path ++ ": " ++ reason,
    [("path", .text path), ("reason", .text reason)], false⟩

/-- A configuration value that cannot be used. -/
def invalidConfigValue
    (field : String)
    (value : Value)
    (reason : String) : ReportedError :=
  ⟨.invalidArgument, "Invalid value for '" ++ field ++ "': " ++ reason,
    [("field", .text field), ("value", .text value.display), ("reason", .text reason)], false⟩

/-- The fields of an error: code, message and, if there are any, details. -/
def toFields (error : ReportedError) : List (String × Value) :=
  [("code", .text error.code.word), ("message", .text error.message)] ++
    (if error.details.isEmpty then [] else [("details", .record error.details)])

/-- An error in one line. -/
def display (error : ReportedError) : String :=
  error.code.word ++ ": " ++ error.message

/-- A path into a value as text, its steps separated by dots. -/
def pathText (path : List Schema.Step) : String :=
  ".".intercalate
    (path.map fun step =>
      match step with
      | .field name => name
      | .position index => Text.signedDecimal index)

/-- The error for arguments that do not pass their check: the first issue names the argument, the
first five are listed. -/
def ofIssues (issues : List Schema.Issue) : ReportedError :=
  let first := issues.head?
  let path := (first.map fun issue => pathText issue.path).getD ""
  invalidArgument (if path.isEmpty then "arguments" else path)
    ((first.map Schema.Issue.message).getD "")
    [("errors",
      .list
        ((issues.take 5).map fun issue =>
          .record [("field", .text (pathText issue.path)), ("message", .text issue.message)]))]

end ReportedError

/-- How a computation fails: with an error to report, with issues of a value, or unforeseen. -/
inductive Failure where
  | reported (error : ReportedError)
  | invalid (issues : List Schema.Issue)
  | crashed (crash : Crash)
deriving Repr

/-- Goes on unless there is a crash. -/
def Failure.unlessCrash : Option Crash → Except Failure Unit
  | none => .ok ()
  | some crash => .error (.crashed crash)

/-- The result of a check as the outcome of a computation. -/
def Schema.Checked.toExcept
    {α : Type} : Schema.Checked α → Except Failure α
  | .ok result => .ok result
  | .rejected issues => .error (.invalid issues)
  | .crashed crash => .error (.crashed crash)

end TypeCatalog
