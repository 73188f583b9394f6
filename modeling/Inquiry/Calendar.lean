set_option autoImplicit false

namespace Inquiry

structure Date where
  year : Int
  month : Nat
  day : Nat
deriving DecidableEq, Repr

-- Seconds since the start of 1970 and the nanoseconds after them. A leap second is the last second
-- of its minute with nanoseconds from one thousand million on.
structure Timestamp where
  seconds : Int
  nanos : Nat
deriving DecidableEq, Repr

namespace Calendar

def padded (width n : Nat) : String :=
  let digits := Nat.toDigits 10 n
  String.ofList (List.replicate (width - digits.length) '0' ++ digits)

def yearText (year : Int) : String :=
  if year < 0 then "-" ++ padded 4 year.natAbs
  else if year ≤ 9999 then padded 4 year.natAbs
  else "+" ++ padded 4 year.natAbs

-- The date that lies `days` after the first of January 1970. The count runs in eras of 400 years,
-- which have 146097 days, and in years that begin in March, so that a leap day ends its year.
def dateOfDays (days : Int) : Date :=
  let shifted := days + 719468
  let era := shifted / 146097
  let dayOfEra := (shifted % 146097).toNat
  let yearOfEra := (dayOfEra - dayOfEra / 1460 + dayOfEra / 36524 - dayOfEra / 146096) / 365
  let dayOfYear := dayOfEra - (365 * yearOfEra + yearOfEra / 4 - yearOfEra / 100)
  let monthFromMarch := (5 * dayOfYear + 2) / 153
  let day := dayOfYear - (153 * monthFromMarch + 2) / 5 + 1
  let month := if monthFromMarch < 10 then monthFromMarch + 3 else monthFromMarch - 9
  let year := yearOfEra + era * 400
  ⟨if month ≤ 2 then year + 1 else year, month, day⟩

end Calendar

open Calendar

def Date.text (d : Date) : String :=
  yearText d.year ++ "-" ++ padded 2 d.month ++ "-" ++ padded 2 d.day

namespace Timestamp

def fractionText (nanos : Nat) : String :=
  if nanos = 0 then ""
  else if nanos % 1000000 = 0 then "." ++ padded 3 (nanos / 1000000)
  else if nanos % 1000 = 0 then "." ++ padded 6 (nanos / 1000)
  else "." ++ padded 9 nanos

def localText (t : Timestamp) : String :=
  let secondOfDay := (t.seconds % 86400).toNat
  let leap := t.nanos / 1000000000
  (dateOfDays (t.seconds / 86400)).text ++ "T" ++ padded 2 (secondOfDay / 3600) ++ ":" ++
    padded 2 (secondOfDay / 60 % 60) ++ ":" ++ padded 2 (secondOfDay % 60 + leap) ++
    fractionText (t.nanos % 1000000000)

def offsetText (t : Timestamp) : String := t.localText ++ "+00:00"

def zuluText (t : Timestamp) : String := t.localText ++ "Z"

end Timestamp

end Inquiry
