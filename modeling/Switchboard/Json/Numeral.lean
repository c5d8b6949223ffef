import Switchboard.Text.Decimal
/-!
# Numerals of JSON

A number as it is written, and whether it has a value. A number is worth its leading digits, as
many as fit into 64 bits, times a power of ten, each of the two first taken to the nearest double.
If that product is beyond every finite double, the number has no value; `scaled_whole` says that a
natural numeral that fits into 64 bits is taken exactly.
-/

namespace Switchboard.Json

/-- A number as it is written: sign, digits before and after the point, and exponent. -/
structure Numeral where
  negative : Bool
  whole : List Char
  fraction : List Char
  exponent : Option Int

/-- The digits before the point: one zero, or a run that starts with no zero. -/
def scanWhole : List Char → Option (List Char × List Char)
  | '0' :: rest => some (['0'], rest)
  | text =>
    let run := text.takeWhile Decimal.isDigit
    if run.isEmpty then none else some (run, text.dropWhile Decimal.isDigit)

/-- The digits after the point, of which there is at least one if there is a point. -/
def scanFraction : List Char → Option (List Char × List Char)
  | '.' :: rest =>
    let run := rest.takeWhile Decimal.isDigit
    if run.isEmpty then none else some (run, rest.dropWhile Decimal.isDigit)
  | text => some ([], text)

/-- The digits of an exponent, of which there is at least one. -/
def scanPower (text : List Char) : Option (Nat × List Char) :=
  let run := text.takeWhile Decimal.isDigit
  if run.isEmpty then none else some (Decimal.value run, text.dropWhile Decimal.isDigit)

def scanExponent : List Char → Option (Option Int × List Char)
  | c :: text =>
    if c = 'e' ∨ c = 'E' then
      match text with
      | '-' :: rest => (scanPower rest).map fun (n, rest) => (some (-(n : Int)), rest)
      | '+' :: rest => (scanPower rest).map fun (n, rest) => (some (n : Int), rest)
      | rest => (scanPower rest).map fun (n, rest) => (some (n : Int), rest)
    else some (none, c :: text)
  | [] => some (none, [])

def scanNumeral (text : List Char) : Option (Numeral × List Char) := do
  let (negative, text) := match text with
    | '-' :: rest => (true, rest)
    | rest => (false, rest)
  let (whole, text) ← scanWhole text
  let (fraction, text) ← scanFraction text
  let (exponent, text) ← scanExponent text
  return (⟨negative, whole, fraction, exponent⟩, text)

def Numeral.write (n : Numeral) : List Char :=
  let sign := if n.negative then ['-'] else []
  let fraction := if n.fraction.isEmpty then [] else '.' :: n.fraction
  let exponent := match n.exponent with
    | none => []
    | some power => 'e' :: ((if power < 0 then ['-'] else []) ++ Decimal.digits power.natAbs)
  sign ++ n.whole ++ fraction ++ exponent

/-! ## Magnitude -/

/-- Append digits to a number for as long as it stays below 2^64. The digits that are left are those
from the first that does not fit. -/
def appendDigits (n : Nat) : List Char → Nat × List Char
  | [] => (n, [])
  | digit :: rest =>
    let longer := 10 * n + Decimal.digitValue digit
    if longer < 18446744073709551616 then appendDigits longer rest else (n, digit :: rest)

/-- A number below 2^64 and the power of ten it is to be multiplied by. -/
structure Scaled where
  significand : Nat
  power : Int
  deriving DecidableEq

/-- The leading digits of a numeral. A digit before the point that does not fit counts as a zero;
digits after the point go on being appended where they fit, and the others are passed over. -/
def Numeral.scaled (n : Numeral) : Scaled :=
  let (head, dropped) := appendDigits 0 n.whole
  let (significand, ignored) := appendDigits head n.fraction
  let places : Int := (n.fraction.length - ignored.length : Nat)
  ⟨significand, dropped.length - places + n.exponent.getD 0⟩

/-- The nearest number of 53 binary digits and zeros after them; of two, the even one. -/
def nearestDouble (n : Nat) : Nat :=
  let unit := 1 <<< (n.log2 - 52)
  let below := n / unit
  let excess := 2 * (n % unit)
  if unit < excess ∨ (excess = unit ∧ below % 2 = 1) then (below + 1) * unit else below * unit

/-- Half a unit above the greatest finite double; from here on a product rounds to infinity. -/
def doubleBound : Nat := 1 <<< 1024 - 1 <<< 970

/-- The product of significand and power is near a finite double. Powers of ten up to the 308th are
finite themselves, and a quotient by one always is. -/
def Scaled.isFinite (n : Scaled) : Bool :=
  n.significand = 0 || n.power ≤ 0 ||
    (n.power ≤ 308 &&
      nearestDouble n.significand * nearestDouble (Nat.pow 10 n.power.toNat) < doubleBound)

def Numeral.isFinite (n : Numeral) : Bool := n.scaled.isFinite

theorem le_foldl_digits (n : Nat) (run : List Char) :
    n ≤ run.foldl (fun n c => 10 * n + Decimal.digitValue c) n := by
  induction run generalizing n with
  | nil => exact Nat.le_refl n
  | cons digit rest ih =>
    have longer : n ≤ 10 * n + Decimal.digitValue digit := by omega
    exact Nat.le_trans longer (ih _)

theorem appendDigits_of_lt {n : Nat} {run : List Char}
    (h : run.foldl (fun n c => 10 * n + Decimal.digitValue c) n < 18446744073709551616) :
    appendDigits n run = (run.foldl (fun n c => 10 * n + Decimal.digitValue c) n, []) := by
  induction run generalizing n with
  | nil => rfl
  | cons digit rest ih =>
    have fits := Nat.lt_of_le_of_lt (le_foldl_digits _ rest) h
    simp only [appendDigits, if_pos fits]
    exact ih h

theorem scaled_whole {run : List Char} (h : Decimal.value run < 18446744073709551616)
    (negative : Bool) : (Numeral.mk negative run [] none).scaled = ⟨Decimal.value run, 0⟩ := by
  simp only [Numeral.scaled, appendDigits_of_lt (n := 0) h]
  rfl

end Switchboard.Json
