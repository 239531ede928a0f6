import SqlStatement.Value

/-! # Calendar

Timestamps in the proleptic Gregorian calendar, written as the clock shows them at their offset.
-/

namespace SqlStatement.Calendar

structure Date where
  year : Int
  month : Nat
  day : Nat
deriving DecidableEq, Repr

/-- The date a number of days after the first of January 1970. Years are counted from March, so
that a leap day is the last day of its year. -/
def ofDays (days : Int) : Date :=
  let shifted := days + 719468
  let era := Int.fdiv shifted 146097
  let dayOfEra := (shifted - era * 146097).toNat
  let yearOfEra := (dayOfEra - dayOfEra / 1460 + dayOfEra / 36524 - dayOfEra / 146096) / 365
  let dayOfYear := dayOfEra - (365 * yearOfEra + yearOfEra / 4 - yearOfEra / 100)
  let monthFromMarch := (5 * dayOfYear + 2) / 153
  let month := if monthFromMarch < 10 then monthFromMarch + 3 else monthFromMarch - 9
  { year := yearOfEra + era * 400 + if month ≤ 2 then 1 else 0
    month
    day := dayOfYear - (153 * monthFromMarch + 2) / 5 + 1 }

def padded (width n : Nat) : String :=
  let digits := toString n
  String.ofList (List.replicate (width - digits.length) '0') ++ digits

/-- A fraction of a second without the zeros at its end; one digit always stands. -/
def fractionText (nanoseconds : Nat) : String :=
  let digits := (padded 9 nanoseconds).toList
  String.ofList (digits.take 1 ++ ((digits.drop 1).reverse.dropWhile (· == '0')).reverse)

def dateText (d : Date) : String :=
  (if d.year < 0 then "-" else "") ++ padded 4 d.year.natAbs ++ "-" ++ padded 2 d.month ++ "-" ++
    padded 2 d.day

def clockText (nanosecondsOfDay : Nat) : String :=
  let seconds := nanosecondsOfDay / 1000000000
  toString (seconds / 3600) ++ ":" ++ padded 2 (seconds / 60 % 60) ++ ":" ++
    padded 2 (seconds % 60) ++ "." ++ fractionText (nanosecondsOfDay % 1000000000)

def offsetText (offset : Int) : String :=
  let n := offset.natAbs
  (if offset < 0 then "-" else "+") ++ padded 2 (n / 3600) ++ ":" ++ padded 2 (n / 60 % 60) ++
    ":" ++ padded 2 (n % 60)

def timestampText (t : Timestamp) : String :=
  let shown := t.nanoseconds + t.offset * 1000000000
  let days := Int.fdiv shown 86400000000000
  dateText (ofDays days) ++ " " ++ clockText (shown - days * 86400000000000).toNat ++ " " ++
    offsetText t.offset

end SqlStatement.Calendar
