/-!
# Time stamps

A time is written as a date and a time of day in UTC, such as `2024-02-29T12:00:00Z`, from the seconds
since the start of 1970. Years of the calculation begin in March, so a leap day ends its year.
-/

namespace TypedClient.Calendar

/-- A number with leading zeros up to a width. -/
def padded (width n : Nat) : String :=
  let digits := toString n
  String.ofList (List.replicate (width - digits.length) '0') ++ digits

/-- The year, month and day that come `days` days after the first of March of the year zero. -/
def dateOfDays (days : Nat) : Nat × Nat × Nat :=
  let cycle := days / 146097
  let day := days % 146097
  let year := (day - day / 1460 + day / 36524 - day / 146096) / 365
  let dayOfYear := day - (365 * year + year / 4 - year / 100)
  let month := (5 * dayOfYear + 2) / 153
  let dayOfMonth := dayOfYear - (153 * month + 2) / 5 + 1
  let year := year + cycle * 400
  if month < 10 then (year, month + 3, dayOfMonth) else (year + 1, month - 9, dayOfMonth)

/-- The time stamp for seconds since the start of 1970. -/
def stamp (seconds : Nat) : String :=
  let (year, month, day) := dateOfDays (seconds / 86400 + 719468)
  let second := seconds % 86400
  padded 4 year ++ "-" ++ padded 2 month ++ "-" ++ padded 2 day ++ "T" ++
    padded 2 (second / 3600) ++ ":" ++ padded 2 (second / 60 % 60) ++ ":" ++
    padded 2 (second % 60) ++ "Z"

example : dateOfDays 719468 = (1970, 1, 1) := by decide
example : dateOfDays (719468 + 19782) = (2024, 2, 29) := by decide

end TypedClient.Calendar
