import Switchboard.Text.Blank
import Switchboard.Text.Decimal
import Switchboard.Time.Timestamp
/-!
# Timestamps as text

A timestamp is written as date, `T`, time of day and `Z`, with 0, 3, 6 or 9 digits of the fraction,
the fewest that hold it. Years outside 0 to 9999 carry a sign.

Reading is laxer: numbers need not be padded, blanks may stand between the parts, the date may be
set apart by a blank, digits of the fraction past the ninth are passed over, and the zone, which is
required, may be `Z`, `UTC` or an offset.
-/

namespace Switchboard.Timestamp

open Switchboard.Text (isBlank trimLeft)

/-! ## Writing -/

/-- A year, in four digits or more. -/
def writeYear (year : Int) : List Char :=
  if 0 ≤ year ∧ year ≤ 9999 then Decimal.padded 4 year.toNat
  else (if year < 0 then '-' else '+') :: Decimal.padded 4 year.natAbs

/-- The fraction of a second, in the fewest groups of three digits. -/
def writeFraction (nanosecond : Nat) : List Char :=
  if nanosecond = 0 then []
  else if nanosecond % 1000000 = 0 then '.' :: Decimal.padded 3 (nanosecond / 1000000)
  else if nanosecond % 1000 = 0 then '.' :: Decimal.padded 6 (nanosecond / 1000)
  else '.' :: Decimal.padded 9 nanosecond

def write (time : Timestamp) : List Char :=
  writeYear time.date.year ++ '-' :: Decimal.padded 2 time.date.month ++
    '-' :: Decimal.padded 2 time.date.day ++ 'T' :: Decimal.padded 2 time.hour ++
    ':' :: Decimal.padded 2 time.minute ++ ':' :: Decimal.padded 2 time.second ++
    writeFraction time.nanosecond ++ ['Z']

/-! ## Reading -/

/-- A number of one digit up to `width` digits, with what is left. -/
def scanNumber (width : Nat) (text : List Char) : Option (Nat × List Char) :=
  let run := (text.take width).takeWhile Decimal.isDigit
  if run.isEmpty then none else some (Decimal.value run, text.drop run.length)

/-- A year: four digits at most, or any number of them after a sign. -/
def scanYear : List Char → Option (Int × List Char)
  | '-' :: rest => (scanNumber rest.length rest).map fun (n, rest) => (-(n : Int), rest)
  | '+' :: rest => (scanNumber rest.length rest).map fun (n, rest) => ((n : Int), rest)
  | text => (scanNumber 4 text).map fun (n, rest) => ((n : Int), rest)

def scanChar (c : Char) : List Char → Option (List Char)
  | d :: rest => if d = c then some rest else none
  | [] => none

/-- A separator and the number after it, with blanks before either. -/
def scanPart (separator : Char) (text : List Char) : Option (Nat × List Char) :=
  (scanChar separator (trimLeft text)).bind fun rest => scanNumber 2 (trimLeft rest)

/-- The fraction of a second in nanoseconds, if there is a point. -/
def scanFraction : List Char → Option (Nat × List Char)
  | '.' :: rest =>
    let run := rest.takeWhile Decimal.isDigit
    let kept := run.take 9
    if run.isEmpty then none
    else some (Decimal.value kept * Nat.pow 10 (9 - kept.length), rest.drop run.length)
  | text => some (0, text)

/-- Two digits, with what is left. -/
def scanPair : List Char → Option (Nat × List Char)
  | a :: b :: rest =>
    if Decimal.isDigit a && Decimal.isDigit b then some (Decimal.value [a, b], rest) else none
  | _ => none

/-- The minutes of an offset, after its sign: two digits for the hours, a gap or colons or neither,
and two digits below 60. -/
def scanOffset (text : List Char) : Option (Nat × List Char) := do
  let (hours, text) ← scanPair text
  let (minutes, text) ← scanPair (text.dropWhile fun c => c = ':' || isBlank c)
  if minutes < 60 ∧ hours < 24 then some (hours * 60 + minutes, text) else none

/-- The zone: how many minutes its clocks are ahead of UTC. -/
def scanZone (text : List Char) : Option (Int × List Char) :=
  if (text.take 3).map Char.toUpper = ['U', 'T', 'C'] then some (0, text.drop 3)
  else match text with
    | 'Z' :: rest => some (0, rest)
    | 'z' :: rest => some (0, rest)
    | '+' :: rest => (scanOffset rest).map fun (n, rest) => ((n : Int), rest)
    | '-' :: rest => (scanOffset rest).map fun (n, rest) => (-(n : Int), rest)
    | '\u2212' :: rest => (scanOffset rest).map fun (n, rest) => (-(n : Int), rest)
    | _ => none

/-- The date and the time of day are set apart by one of these. -/
def isDateEnd (c : Char) : Bool := c = 'T' || c = 't' || c = ' '

def yearInRange (year : Int) : Bool := -262143 ≤ year && year ≤ 262142

def read (text : List Char) : Option Timestamp := do
  let (year, text) ← scanYear (trimLeft text)
  let (month, text) ← scanPart '-' text
  let (day, text) ← scanPart '-' text
  let text ← match text with
    | c :: rest => if isDateEnd c then some rest else none
    | [] => none
  let (hour, text) ← scanNumber 2 (trimLeft text)
  let (minute, text) ← scanPart ':' text
  let (second, text) ← scanPart ':' text
  let (nanosecond, text) ← scanFraction text
  let (offset, text) ← scanZone (trimLeft text)
  if !(trimLeft text).isEmpty || !yearInRange year then none
  else
    let date ← Date.ofCivil? year month day
    let time ← ofLocal? date hour minute second nanosecond offset
    if yearInRange time.date.year then some time else none

end Switchboard.Timestamp
