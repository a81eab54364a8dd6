import LabEditor.Text.Digit

/-! Moments in universal time, and how they are written. -/
namespace LabEditor

structure Clock where
  year : Nat
  month : Nat
  day : Nat
  hour : Nat
  minute : Nat
  second : Nat
deriving DecidableEq, Repr

namespace Clock

/-- The moment a number of seconds after the start of 1970. Days are counted from the start of a
March, so that a leap day is the last one of its year; 146097 of them make up 400 years. -/
def ofSeconds (seconds : Nat) : Clock :=
  let days := seconds / 86400 + 719468
  let ofEra := days % 146097
  let yearOfEra := (ofEra - ofEra / 1460 + ofEra / 36524 - ofEra / 146096) / 365
  let ofYear := ofEra - (365 * yearOfEra + yearOfEra / 4 - yearOfEra / 100)
  let shifted := (5 * ofYear + 2) / 153
  let month := if shifted < 10 then shifted + 3 else shifted - 9
  { year := yearOfEra + days / 146097 * 400 + (if month ≤ 2 then 1 else 0)
    month
    day := ofYear - (153 * shifted + 2) / 5 + 1
    hour := seconds % 86400 / 3600
    minute := seconds % 3600 / 60
    second := seconds % 60 }

/-- A number with leading zeros up to a width. -/
def padded (width n : Nat) : Text :=
  let digits := Text.digits n
  List.replicate (width - digits.length) ('0' : CodePoint) ++ digits

def date (clock : Clock) : Text :=
  List.intercalate ['-'] [padded 4 clock.year, padded 2 clock.month, padded 2 clock.day]

def time (sep : CodePoint) (clock : Clock) : Text :=
  List.intercalate [sep] [padded 2 clock.hour, padded 2 clock.minute, padded 2 clock.second]

/-- The form in which a submission keeps its moment. -/
def timestamp (clock : Clock) : Text :=
  clock.date ++ ('T' : CodePoint) :: clock.time ':' ++ "+00:00"

/-- The form that fits into the name of a file. -/
def fileStamp (clock : Clock) : Text :=
  clock.date ++ ('_' : CodePoint) :: clock.time '-'

end Clock
end LabEditor
