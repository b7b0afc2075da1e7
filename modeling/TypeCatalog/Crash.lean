namespace TypeCatalog

/-!
# Unforeseen failures

A crash is a failure that no error code stands for.  Operations turn it into an internal error
whose message starts with the label of its kind.
-/

/-- The kinds of crashes. -/
inductive CrashKind where
  | invalidValue
  | wrongType
  | brokenManifest
  | undecodable
  | unencodable
  | notPossible
  | unreadableSettings
  | unbalancedMarkup
  | unknownName
  | missingKey
  | missingPosition
  | missingAttribute
  | overflow
  | isDirectory
  | notDirectory
  | alreadyThere
  | systemFailure
  | tooDeep
  | outOfMemory
deriving Repr, DecidableEq

/-- The label of a kind in messages. -/
def CrashKind.label : CrashKind → String
  | .invalidValue => "ValueError"
  | .wrongType => "TypeError"
  | .brokenManifest => "ManifestError"
  | .undecodable => "UnicodeDecodeError"
  | .unencodable => "UnicodeEncodeError"
  | .notPossible => "RuntimeError"
  | .unreadableSettings => "SettingsError"
  | .unbalancedMarkup => "MarkupError"
  | .unknownName => "NotFoundError"
  | .missingKey => "KeyError"
  | .missingPosition => "IndexError"
  | .missingAttribute => "AttributeError"
  | .overflow => "OverflowError"
  | .isDirectory => "IsADirectoryError"
  | .notDirectory => "NotADirectoryError"
  | .alreadyThere => "FileExistsError"
  | .systemFailure => "OSError"
  | .tooDeep => "RecursionError"
  | .outOfMemory => "MemoryError"

/-- A crash with its text. -/
structure Crash where
  kind : CrashKind
  text : String
deriving Repr, DecidableEq

/-- The text of a crash after its label. -/
def Crash.message (crash : Crash) : String :=
  crash.kind.label ++ ": " ++ crash.text

/-- A text or a value that is nested too deep to be read. -/
def Crash.tooDeep (activity : String) : Crash :=
  ⟨.tooDeep, "maximum recursion depth exceeded" ++ activity⟩

/-- A call for something that values of a form do not have. -/
def Crash.lacking (form name : String) : Crash :=
  ⟨.missingAttribute, "'" ++ form ++ "' object has no attribute '" ++ name ++ "'"⟩

end TypeCatalog
