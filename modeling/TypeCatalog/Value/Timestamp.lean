import TypeCatalog.Text.Numeral

namespace TypeCatalog

/-!
# Dates and moments

Structured documents may hold dates and moments in time.  They are carried through as they were
read and have two text forms: a plain one, and one for use inside lists and mappings.
-/

/-- A date, or a moment with an offset from universal time in seconds, if one is known. -/
inductive Timestamp where
  | date (year month day : Nat)
  | moment (year month day hour minute second microsecond : Nat) (offset? : Option Int)
deriving Repr, DecidableEq

namespace Timestamp

/-- The days of a month. -/
def daysInMonth (year month : Nat) : Nat :=
  if month = 2 then
    if year % 4 = 0 && (year % 100 != 0 || year % 400 = 0) then 29 else 28
  else if month = 4 || month = 6 || month = 9 || month = 11 then 30
  else 31

/-- What is wrong with the parts of a date, if anything. -/
def dateFault? (year month day : Nat) : Option String :=
  if year < 1 || year > 9999 then
    some ("year " ++ Text.decimal year ++ " is out of range")
  else if month < 1 || month > 12 then
    some "month must be in 1..12"
  else if day < 1 || day > daysInMonth year month then
    some "day is out of range for month"
  else
    none

/-- What is wrong with the parts of a time of day, if anything. -/
def timeFault? (hour minute second : Nat) : Option String :=
  if hour > 23 then some "hour must be in 0..23"
  else if minute > 59 then some "minute must be in 0..59"
  else if second > 59 then some "second must be in 0..59"
  else none

/-- The days before a year. -/
def daysBeforeYear (year : Nat) : Int :=
  let previous : Int := (year : Int) - 1
  previous * 365 + Int.fdiv previous 4 - Int.fdiv previous 100 + Int.fdiv previous 400

/-- The days of a year before a month. -/
def daysBeforeMonth (year month : Nat) : Nat :=
  ((List.range (month - 1)).map fun index => daysInMonth year (index + 1)).foldl (· + ·) 0

/-- The microseconds up to a moment whose offset from universal time is known. -/
def instant? : Timestamp → Option Int
  | .moment year month day hour minute second microsecond (some offset) =>
    let days : Int := daysBeforeYear year + daysBeforeMonth year month + day
    let seconds : Int := ((days * 24 + hour) * 60 + minute) * 60 + second - offset
    some (seconds * 1000000 + microsecond)
  | _ => none

/-- Whether two dates or moments are one: moments with known offsets are compared in universal
time. -/
def same (first second : Timestamp) : Bool :=
  match first.instant?, second.instant? with
  | some left, some right => left = right
  | none, none => first = second
  | _, _ => false

/-- A span of time as whole days and the seconds that remain, as a list of named parts. -/
def spanParts (seconds : Int) : String :=
  let days := Int.fdiv seconds 86400
  let rest := Int.fmod seconds 86400
  let dayPart := if days = 0 then [] else ["days=" ++ Text.signedDecimal days]
  let secondPart := if rest = 0 then [] else ["seconds=" ++ Text.signedDecimal rest]
  match dayPart ++ secondPart with
  | [] => "datetime.timedelta(0)"
  | parts => "datetime.timedelta(" ++ ", ".intercalate parts ++ ")"

/-- What is wrong with an offset from universal time, if anything. -/
def offsetFault? (seconds : Int) : Option String :=
  if -86400 < seconds && seconds < 86400 then
    none
  else
    some
      ("offset must be a timedelta strictly between -timedelta(hours=24) and " ++
        "timedelta(hours=24), not " ++ spanParts seconds ++ ".")

/-- An offset as `+hh:mm`. -/
def offsetText (seconds : Int) : String :=
  let size := seconds.natAbs
  (if seconds < 0 then "-" else "+") ++ Text.padLeft 2 (Text.decimal (size / 3600)) ++ ":" ++
    Text.padLeft 2 (Text.decimal (size / 60 % 60))

/-- The plain text of a date. -/
def dateText (year month day : Nat) : String :=
  Text.padLeft 4 (Text.decimal year) ++ "-" ++ Text.padLeft 2 (Text.decimal month) ++ "-" ++
    Text.padLeft 2 (Text.decimal day)

/-- The plain text. -/
def text : Timestamp → String
  | .date year month day => dateText year month day
  | .moment year month day hour minute second microsecond offset? =>
    dateText year month day ++ " " ++ Text.padLeft 2 (Text.decimal hour) ++ ":" ++
      Text.padLeft 2 (Text.decimal minute) ++ ":" ++ Text.padLeft 2 (Text.decimal second) ++
      (if microsecond = 0 then "" else "." ++ Text.padLeft 6 (Text.decimal microsecond)) ++
      (match offset? with
      | none => ""
      | some offset => offsetText offset)

/-- The text inside lists and mappings. -/
def inspect : Timestamp → String
  | .date year month day =>
    "datetime.date(" ++ ", ".intercalate ([year, month, day].map Text.decimal) ++ ")"
  | .moment year month day hour minute second microsecond offset? =>
    let seconds :=
      if microsecond = 0 then
        (if second = 0 then [] else [second])
      else
        [second, microsecond]
    "datetime.datetime(" ++
      ", ".intercalate (([year, month, day, hour, minute] ++ seconds).map Text.decimal) ++
      (match offset? with
      | none => ""
      | some offset =>
        ", tzinfo=" ++
          (if offset = 0 then "datetime.timezone.utc"
          else "datetime.timezone(" ++ spanParts offset ++ ")")) ++
      ")"

end Timestamp

end TypeCatalog
