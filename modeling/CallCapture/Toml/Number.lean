import CallCapture.Json.Value
import CallCapture.Text.Basic
import CallCapture.Timestamp
import CallCapture.Toml.Value

namespace CallCapture.Toml

section

open Text

def readGrouped (isDigit : Char → Bool) (done : List Char) :
    List Char → Option (List Char × List Char)
  | '_' :: c :: rest =>
    if isDigit c && !done.isEmpty then readGrouped isDigit (c :: done) rest
    else if done.isEmpty then none
    else some (done.reverse, '_' :: c :: rest)
  | c :: rest =>
    if isDigit c then readGrouped isDigit (c :: done) rest
    else if done.isEmpty then none
    else some (done.reverse, c :: rest)
  | [] => if done.isEmpty then none else some (done.reverse, [])

def readDecimal (cs : List Char) : Option (List Char × List Char) := readGrouped isDigit [] cs

def readSign : List Char → Bool × List Char
  | '-' :: rest => (true, rest)
  | '+' :: rest => (false, rest)
  | cs => (false, cs)

def integer? (n : Int) : Option Toml :=
  if -9223372036854775808 ≤ n && n ≤ 9223372036854775807 then some (.integer n) else none

def readBased (base : Nat) (isDigit : Char → Bool) (cs : List Char) : Option (Toml × List Char) :=
  match readGrouped isDigit [] cs with
  | some (ds, rest) => (integer? (valueFrom base hexValue 0 ds)).map fun n => (n, rest)
  | none => none

/-- The decimal `ds · 10^power` rounds to infinity in double precision. -/
def overflows (ds : List Char) (power : Int) : Bool :=
  let ds := ds.dropWhile (· == '0')
  if ds.isEmpty then false
  else
    let magnitude : Int := ds.length + power
    if magnitude < 309 then false
    else if 309 < magnitude then true
    else if 0 ≤ power then Double.limit ≤ decimal ds * Nat.pow 10 power.toNat
    else Double.limit * Nat.pow 10 (-power).toNat ≤ decimal ds

def readFraction : List Char → Option (Option (List Char) × List Char)
  | '.' :: rest => (readDecimal rest).map fun (ds, rest) => (some ds, rest)
  | cs => some (none, cs)

def readExponent : List Char → Option (Option Int × List Char)
  | c :: rest =>
    if c = 'e' || c = 'E' then
      let (down, rest) := readSign rest
      (readDecimal rest).map fun (ds, rest) =>
        (some (if down then -(decimal ds : Int) else decimal ds), rest)
    else some (none, c :: rest)
  | [] => some (none, [])

def readDecimalNumber (cs : List Char) : Option (Toml × List Char) := do
  let (negative, unsigned) := readSign cs
  let (whole, rest) ← readDecimal unsigned
  if whole.head? = some '0' && 1 < whole.length then none
  let (fraction, rest) ← readFraction rest
  let (exponent, rest) ← readExponent rest
  if fraction.isNone && exponent.isNone then
    let n : Int := decimal whole
    (integer? (if negative then -n else n)).map fun n => (n, rest)
  else
    let decimals := fraction.getD []
    if !negative && overflows (whole ++ decimals) (exponent.getD 0 - decimals.length) then none
    else some (.float, rest)

def readSpecial (cs : List Char) : Option (Toml × List Char) :=
  match (readSign cs).2 with
  | 'i' :: 'n' :: 'f' :: rest | 'n' :: 'a' :: 'n' :: rest => some (.float, rest)
  | _ => none

def isOctalDigit (c : Char) : Bool := '0' ≤ c && c ≤ '7'

def isBinaryDigit (c : Char) : Bool := c = '0' || c = '1'

def readNumber (cs : List Char) : Option (Toml × List Char) :=
  match cs with
  | '0' :: 'x' :: rest => readBased 16 isHexDigit rest
  | '0' :: 'o' :: rest => readBased 8 isOctalDigit rest
  | '0' :: 'b' :: rest => readBased 2 isBinaryDigit rest
  | _ =>
    match readSpecial cs with
    | some special => some special
    | none => readDecimalNumber cs

end

section

open Timestamp

def readClock (cs : List Char) : Option (List Char) := do
  let (hour, cs) ← readDigits 2 cs
  let cs ← readMark ':' cs
  let (minute, cs) ← readDigits 2 cs
  let cs ← readMark ':' cs
  let (second, cs) ← readDigits 2 cs
  if 24 ≤ hour || 60 ≤ minute || 61 ≤ second then none
  else
    match Timestamp.readFraction cs with
    | some (_, rest) => some rest
    | none => none

def readDate (cs : List Char) : Option (List Char) := do
  let (year, cs) ← readDigits 4 cs
  let cs ← readMark '-' cs
  let (month, cs) ← readDigits 2 cs
  let cs ← readMark '-' cs
  let (day, cs) ← readDigits 2 cs
  if isDate year month day then some cs else none

def skipOffset (cs : List Char) : List Char :=
  match readOffset cs with
  | some (_, rest) => rest
  | none => cs

/-- A time after a date: set off by a letter, or by a blank where digits and a colon follow. -/
def skipTime (cs : List Char) : Option (List Char) :=
  match cs with
  | c :: rest =>
    if c = 'T' || c = 't' || c = ' ' then
      match readDigits 2 rest with
      | some (_, ':' :: _) => (readClock rest).map skipOffset
      | _ => some cs
    else some cs
  | [] => some []

def startsMoment (cs : List Char) : Bool :=
  match readDigits 4 cs, readDigits 2 cs with
  | some (_, '-' :: _), _ => true
  | _, some (_, ':' :: _) => true
  | _, _ => false

def readMoment (cs : List Char) : Option (Toml × List Char) := do
  let rest ← match readDigits 4 cs with
    | some (_, '-' :: _) => (readDate cs).bind skipTime
    | _ => readClock cs
  some (.moment, rest)

end

end CallCapture.Toml
