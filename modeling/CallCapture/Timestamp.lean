import CallCapture.Text.Basic

namespace CallCapture

def isLeapYear (year : Nat) : Bool := year % 4 = 0 && (year % 100 ≠ 0 || year % 400 = 0)

def daysIn (year month : Nat) : Nat :=
  if month = 2 then if isLeapYear year then 29 else 28
  else if month = 4 || month = 6 || month = 9 || month = 11 then 30
  else 31

def isDate (year month day : Nat) : Bool :=
  year < 10000 && 1 ≤ month && month ≤ 12 && 1 ≤ day && day ≤ daysIn year month

def isTime (hour minute second nanosecond : Nat) : Bool :=
  hour < 24 && minute < 60 && second < 60 && nanosecond < 1000000000

/-- Offsets are whole minutes, less than a day either way. -/
def isOffset (minutes : Int) : Bool := minutes.natAbs < 1440

structure Timestamp where
  year : Nat
  month : Nat
  day : Nat
  hour : Nat
  minute : Nat
  second : Nat
  nanosecond : Nat
  offset : Int
  date_valid : isDate year month day = true
  time_valid : isTime hour minute second nanosecond = true
  offset_valid : isOffset offset = true
deriving DecidableEq, Repr

namespace Timestamp

open Text

/-! ### Writing -/

def dropTrailingZeros (ds : List Char) : List Char :=
  (ds.reverse.dropWhile (· == '0')).reverse

def writeFraction (nanosecond : Nat) : List Char :=
  if nanosecond = 0 then [] else '.' :: dropTrailingZeros (padded 9 nanosecond)

def writeOffset (minutes : Int) : List Char :=
  if minutes = 0 then ['Z']
  else
    (if minutes < 0 then '-' else '+')
      :: (padded 2 (minutes.natAbs / 60) ++ ':' :: padded 2 (minutes.natAbs % 60))

def write (t : Timestamp) : List Char :=
  padded 4 t.year ++ '-' :: padded 2 t.month ++ '-' :: padded 2 t.day
    ++ 'T' :: padded 2 t.hour ++ ':' :: padded 2 t.minute ++ ':' :: padded 2 t.second
    ++ writeFraction t.nanosecond ++ writeOffset t.offset

/-! ### Reading -/

def readDigits (count : Nat) (cs : List Char) : Option (Nat × List Char) :=
  let ds := cs.take count
  if ds.length = count && ds.all isDigit then some (decimal ds, cs.drop count) else none

def readMark (c : Char) : List Char → Option (List Char)
  | d :: rest => if d = c then some rest else none
  | [] => none

/-- The separator of date and time: any character of one byte. -/
def readSeparator : List Char → Option (List Char)
  | c :: rest => if c.toNat < 0x80 then some rest else none
  | [] => none

def nanoseconds (ds : List Char) : Nat :=
  decimal (ds.take 9 ++ List.replicate (9 - ds.length) '0')

def readFraction : List Char → Option (Nat × List Char)
  | '.' :: rest =>
    let ds := rest.takeWhile isDigit
    if ds.isEmpty then none else some (nanoseconds ds, rest.dropWhile isDigit)
  | cs => some (0, cs)

def readOffset : List Char → Option (Int × List Char)
  | 'Z' :: rest | 'z' :: rest => some (0, rest)
  | sign :: rest => do
    if sign ≠ '+' && sign ≠ '-' then none
    let (hours, rest) ← readDigits 2 rest
    let rest ← readMark ':' rest
    let (minutes, rest) ← readDigits 2 rest
    if 24 ≤ hours || 60 ≤ minutes then none
    let size : Int := 60 * hours + minutes
    some (if sign = '-' then -size else size, rest)
  | [] => none

def endsMonth (year month day hour minute : Nat) (offset : Int) : Bool :=
  let utc : Int := 60 * hour + minute - offset
  let endsDay := utc.emod 1440 = 1439
  let lastDay :=
    if utc < 0 then day = 1
    else if utc < 1440 then day = daysIn year month
    else day + 1 = daysIn year month
  endsDay && lastDay

def read? (cs : List Char) : Option Timestamp := do
  let (year, cs) ← readDigits 4 cs
  let cs ← readMark '-' cs
  let (month, cs) ← readDigits 2 cs
  let cs ← readMark '-' cs
  let (day, cs) ← readDigits 2 cs
  let cs ← readSeparator cs
  let (hour, cs) ← readDigits 2 cs
  let cs ← readMark ':' cs
  let (minute, cs) ← readDigits 2 cs
  let cs ← readMark ':' cs
  let (second, cs) ← readDigits 2 cs
  let (fraction, cs) ← readFraction cs
  let (offset, cs) ← readOffset cs
  if !cs.isEmpty then none
  let leap := second = 60
  if leap && !endsMonth year month day hour minute offset then none
  let second := if leap then 59 else second
  let nanosecond := if leap then 999999999 else fraction
  if hd : isDate year month day = true then
    if ht : isTime hour minute second nanosecond = true then
      if ho : isOffset offset = true then
        some ⟨year, month, day, hour, minute, second, nanosecond, offset, hd, ht, ho⟩
      else none
    else none
  else none

end Timestamp

/-! ### Clocks -/

/-- Days from the first of March of the year 0 to the start of 1970. -/
def daysBefore1970 : Nat := 719468

def daysPerCycle : Nat := 146097

/-- Year, month and day of the day with a number, counted from the first of March of the year 0. -/
def dateOfDay (n : Nat) : Nat × Nat × Nat :=
  let day := n % daysPerCycle
  let year := (day - day / 1460 + day / 36524 - day / 146096) / 365
  let dayOfYear := day - (365 * year + year / 4 - year / 100)
  let month := (5 * dayOfYear + 2) / 153
  let year := year + 400 * (n / daysPerCycle)
  let dayOfMonth := dayOfYear - (153 * month + 2) / 5 + 1
  if month < 10 then (year, month + 3, dayOfMonth) else (year + 1, month - 9, dayOfMonth)

def Timestamp.ofSeconds? (seconds nanosecond : Nat) : Option Timestamp :=
  let (year, month, day) := dateOfDay (seconds / 86400 + daysBefore1970)
  let rest := seconds % 86400
  let hour := rest / 3600
  let minute := rest / 60 % 60
  let second := rest % 60
  if hd : isDate year month day = true then
    if ht : isTime hour minute second nanosecond = true then
      some ⟨year, month, day, hour, minute, second, nanosecond, 0, hd, ht, rfl⟩
    else none
  else none

end CallCapture
