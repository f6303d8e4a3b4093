import ClaimAudit.Text.Blank

/-! Moments in universal time.

A moment is read from a date, a time and an offset as RFC 3339 has them, with some
freedom: blanks around numbers, a blank or a small letter between date and time, a
signed year, any number of fraction digits. It is written in universal time, with
as many groups of three fraction digits as it needs.
-/

set_option autoImplicit false

namespace ClaimAudit

structure Timestamp where
  /-- Days since the first of January 1970. -/
  day : Int
  /-- Seconds since midnight. -/
  second : Nat
  /-- Within a leap second, counted on from the second before it. -/
  nanosecond : Nat
  deriving DecidableEq, Repr

namespace Timestamp

structure Date where
  year : Int
  month : Nat
  day : Nat
  deriving DecidableEq, Repr

def isLeapYear (year : Int) : Bool := year % 4 == 0 && (year % 100 != 0 || year % 400 == 0)

def daysInMonth (year : Int) (month : Nat) : Nat :=
  if month = 2 then (if isLeapYear year then 29 else 28)
  else if month ∈ [4, 6, 9, 11] then 30
  else 31

/-- Days since 1970. Years are counted from March, so a leap day ends its year. -/
def Date.toDays (d : Date) : Int :=
  let year := if d.month ≤ 2 then d.year - 1 else d.year
  let era := year / 400
  let yearOfEra := year % 400
  let month : Int := (d.month + 9) % 12
  let dayOfYear := (153 * month + 2) / 5 + d.day - 1
  era * 146097 + (yearOfEra * 365 + yearOfEra / 4 - yearOfEra / 100 + dayOfYear) - 719468

def Date.ofDays (days : Int) : Date :=
  let shifted := days + 719468
  let era := shifted / 146097
  let dayOfEra := shifted % 146097
  let yearOfEra := (dayOfEra - dayOfEra / 1460 + dayOfEra / 36524 - dayOfEra / 146096) / 365
  let dayOfYear := dayOfEra - (365 * yearOfEra + yearOfEra / 4 - yearOfEra / 100)
  let fromMarch := (5 * dayOfYear + 2) / 153
  let day := dayOfYear - (153 * fromMarch + 2) / 5 + 1
  let month := (fromMarch + 2) % 12 + 1
  let year := yearOfEra + era * 400 + (if month ≤ 2 then 1 else 0)
  ⟨year, month.toNat, day.toNat⟩

def firstDay : Int := Date.toDays ⟨-262143, 1, 1⟩

def lastDay : Int := Date.toDays ⟨262142, 12, 31⟩

def representable (day : Int) : Bool := firstDay ≤ day && day ≤ lastDay

/-! Reading takes a part off the front of the text and returns the rest. -/

def natOfDigits (digits : List Char) : Nat :=
  digits.foldl (fun value c => value * 10 + (c.toNat - '0'.toNat)) 0

def number? (width : Nat) (cs : List Char) : Option (Nat × List Char) :=
  let cs := Text.trimStart cs
  let digits := (cs.takeWhile Char.isDigit).take width
  if digits = [] then none else some (natOfDigits digits, cs.drop digits.length)

def year? (cs : List Char) : Option (Int × List Char) :=
  match Text.trimStart cs with
  | '-' :: rest => if rest.head?.any Char.isDigit then
      (number? rest.length rest).map fun (n, rest) => (-(n : Int), rest) else none
  | '+' :: rest => if rest.head?.any Char.isDigit then
      (number? rest.length rest).map fun (n, rest) => ((n : Int), rest) else none
  | cs => (number? 4 cs).map fun (n, rest) => ((n : Int), rest)

def mark? (mark : Char) (cs : List Char) : Option (List Char) :=
  match Text.trimStart cs with
  | c :: rest => if c = mark then some rest else none
  | [] => none

def bounded? (width least most : Nat) (cs : List Char) : Option (Nat × List Char) := do
  let (n, rest) ← number? width cs
  guard (least ≤ n ∧ n ≤ most)
  return (n, rest)

def date? (cs : List Char) : Option (Date × List Char) := do
  let (year, cs) ← year? cs
  let cs ← mark? '-' cs
  let (month, cs) ← bounded? 2 1 12 cs
  let cs ← mark? '-' cs
  let (day, cs) ← bounded? 2 1 31 cs
  guard (day ≤ daysInMonth year month)
  return (⟨year, month, day⟩, cs)

/-- The nanoseconds of a fraction; digits after the ninth do not count. -/
def fraction? : List Char → Option (Nat × List Char)
  | '.' :: rest =>
    let digits := (rest.takeWhile Char.isDigit).take 9
    if digits = [] then none
    else some (natOfDigits digits * Nat.pow 10 (9 - digits.length), rest.dropWhile Char.isDigit)
  | cs => some (0, cs)

/-- Seconds since midnight and nanoseconds. The second 60 is a leap second. -/
def time? (cs : List Char) : Option (Nat × Nat × List Char) := do
  let (hour, cs) ← bounded? 2 0 23 cs
  let cs ← mark? ':' cs
  let (minute, cs) ← bounded? 2 0 59 cs
  let cs ← mark? ':' cs
  let (second, cs) ← bounded? 2 0 60 cs
  let (nanosecond, cs) ← fraction? cs
  let leap := if second = 60 then 1 else 0
  return ((hour * 60 + minute) * 60 + second - leap, nanosecond + leap * 1000000000, cs)

def twoDigits? : List Char → Option (Nat × List Char)
  | c :: d :: rest => if c.isDigit ∧ d.isDigit then some (natOfDigits [c, d], rest) else none
  | _ => none

def signedOffset? (east : Int) (cs : List Char) : Option (Int × List Char) := do
  let (hours, cs) ← twoDigits? cs
  let (minutes, cs) ← twoDigits? (cs.dropWhile fun c => c = ':' ∨ Text.isBlank c)
  guard (minutes ≤ 59 ∧ hours ≤ 23)
  return (east * ((hours * 60 + minutes : Nat) * 60), cs)

def offset? (cs : List Char) : Option (Int × List Char) :=
  match Text.trimStart cs with
  | 'Z' :: rest | 'z' :: rest => some (0, rest)
  | '+' :: rest => signedOffset? 1 rest
  | '-' :: rest | '\u2212' :: rest => signedOffset? (-1) rest
  | u :: t :: c :: rest =>
    if [u, t, c].map Char.toLower = ['u', 't', 'c'] then some (0, rest) else none
  | _ => none

def normal? (day second : Int) (nanosecond : Nat) : Option Timestamp :=
  let utcDay := day + second / 86400
  if representable utcDay then some ⟨utcDay, (second % 86400).toNat, nanosecond⟩ else none

def ofChars? (cs : List Char) : Option Timestamp := do
  let (date, cs) ← date? cs
  let separator :: cs := cs | none
  guard (separator ∈ ['t', 'T', ' '])
  let (second, nanosecond, cs) ← time? cs
  let (offset, cs) ← offset? cs
  guard (cs.all Text.isBlank ∧ representable date.toDays)
  normal? date.toDays (second - offset) nanosecond

def ofString? (s : String) : Option Timestamp := ofChars? s.toList

def paddedDigits (width n : Nat) : String :=
  let digits := Nat.toDigits 10 n
  String.ofList (List.replicate (width - digits.length) '0' ++ digits)

/-- Years of more or fewer than four digits carry a sign. -/
def yearText (year : Int) : String :=
  if 0 ≤ year ∧ year ≤ 9999 then paddedDigits 4 year.toNat
  else (if year < 0 then "-" else "+") ++ paddedDigits 4 year.natAbs

def fractionText (nanosecond : Nat) : String :=
  if nanosecond = 0 then ""
  else if nanosecond % 1000000 = 0 then "." ++ paddedDigits 3 (nanosecond / 1000000)
  else if nanosecond % 1000 = 0 then "." ++ paddedDigits 6 (nanosecond / 1000)
  else "." ++ paddedDigits 9 nanosecond

def toString (t : Timestamp) : String :=
  let date := Date.ofDays t.day
  let leap := t.nanosecond / 1000000000
  let two (n : Nat) : String := paddedDigits 2 n
  yearText date.year ++ "-" ++ two date.month ++ "-" ++ two date.day ++ "T" ++
    two (t.second / 3600) ++ ":" ++ two (t.second / 60 % 60) ++ ":" ++
    two (t.second % 60 + leap) ++ fractionText (t.nanosecond % 1000000000) ++ "Z"

end Timestamp

end ClaimAudit
