namespace TypeCatalog

/-!
# Log levels

Levels are compared by their numbers.  A level may be named in any case, and some have a second
name.
-/

/-- The levels that can be configured. -/
inductive LogLevel where
  | debug
  | info
  | warning
  | error
  | critical
deriving Repr, DecidableEq

namespace LogLevel

/-- The word for a level. -/
def word : LogLevel → String
  | .debug => "DEBUG"
  | .info => "INFO"
  | .warning => "WARNING"
  | .error => "ERROR"
  | .critical => "CRITICAL"

/-- The number of a level. -/
def number : LogLevel → Nat
  | .debug => 10
  | .info => 20
  | .warning => 30
  | .error => 40
  | .critical => 50

/-- All levels. -/
def all : List LogLevel :=
  [.debug, .info, .warning, .error, .critical]

/-- The names of levels with their numbers: the words, two second names, and the level below all
others. -/
def names : List (String × Nat) :=
  [("WARN", 30), ("FATAL", 50), ("NOTSET", 0)] ++ all.map fun level => (level.word, level.number)

/-- The capital letter of a letter, as far as names of levels need it: two letters outside the
alphabet have capitals within it. -/
def capital (c : Char) : Char :=
  if c = 'ı' then 'I' else if c = 'ſ' then 'S' else c.toUpper

/-- The number of the level with a name. -/
def numberFor? (name : String) : Option Nat :=
  let capitals := String.ofList (name.toList.map capital)
  (names.find? fun entry => entry.1 == capitals).map Prod.snd

/-- The name under which an error is logged together with what led to it. -/
def exceptionName : String := "exception"

/-- The name of the level that no event reaches. -/
def silentName : String := "notset"

/-- The names under which events of a level are logged. -/
def callNames : LogLevel → List String
  | .debug => ["debug"]
  | .info => ["info", "msg"]
  | .warning => ["warning", "warn"]
  | .error => ["error", exceptionName]
  | .critical => ["critical", "fatal"]

/-- The level of the events that are logged under a name. -/
def ofCallName? (name : String) : Option LogLevel :=
  all.find? fun level => level.callNames.contains name

/-- The names under which events are dropped: that of the level below all others, and those that
only put a call off. -/
def silentNames : List String :=
  silentName :: (silentName :: all.flatMap callNames).map fun name => "a" ++ name

end LogLevel

end TypeCatalog
