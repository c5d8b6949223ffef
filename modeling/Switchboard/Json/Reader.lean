import Switchboard.Json
import Switchboard.Text.Decimal
import Switchboard.Text.Hex
/-!
# Reading JSON

`Json.parse` reads one JSON text, strictly: the grammar's four blanks and no comments, no trailing
commas, no leading zeros, and nothing but blanks after the value. Parts that have the right form
but no value become `unreadable` instead of failing, because a reader that skips a part never
looks at its value.

Each scanner returns what it read and what it left.
-/

namespace Switchboard.Json

def isBlank (c : Char) : Bool := c = ' ' || c = '\t' || c = '\n' || c = '\r'

def skipBlanks (text : List Char) : List Char := text.dropWhile isBlank

/-! ## Strings -/

/-- The value of a hexadecimal digit of either case. -/
def hexValue? (c : Char) : Option Nat := Hex.value? c.toLower

/-- The value of four hexadecimal digits. -/
def hexUnit? (a b c d : Char) : Option Nat := do
  return ((← hexValue? a) * 16 + (← hexValue? b)) * 256 + (← hexValue? c) * 16 + (← hexValue? d)

/-- A part of a string: a character, or one half of a surrogate pair. -/
inductive Piece where
  | char (c : Char)
  | half (unit : Nat)

/-- The piece an escaped unit stands for. -/
def Piece.ofUnit (unit : Nat) : Piece :=
  if 0xD800 ≤ unit ∧ unit < 0xE000 then .half unit else .char (Char.ofNat unit)

/-- The character a letter after a backslash stands for. -/
def unescape? (letter : Char) : Option Char :=
  match letter with
  | '"' => some '"'
  | '\\' => some '\\'
  | '/' => some '/'
  | 'b' => some '\x08'
  | 'f' => some '\x0c'
  | 'n' => some '\n'
  | 'r' => some '\r'
  | 't' => some '\t'
  | _ => none

/-- Scan a string, from after its opening quote to after its closing one. -/
def scanPieces : List Char → Option (List Piece × List Char)
  | [] => none
  | '"' :: rest => some ([], rest)
  | '\\' :: 'u' :: a :: b :: c :: d :: rest => do
    let unit ← hexUnit? a b c d
    let (pieces, rest) ← scanPieces rest
    return (.ofUnit unit :: pieces, rest)
  | '\\' :: letter :: rest => do
    let c ← unescape? letter
    let (pieces, rest) ← scanPieces rest
    return (.char c :: pieces, rest)
  | c :: rest =>
    if c.toNat < 32 ∨ c = '\\' then none
    else do
      let (pieces, rest) ← scanPieces rest
      return (.char c :: pieces, rest)

/-- The characters of a string, if every surrogate half stands before or after its partner. -/
def joinPieces : List Piece → Option (List Char)
  | [] => some []
  | .char c :: rest => (joinPieces rest).map (c :: ·)
  | .half high :: .half low :: rest =>
    if high < 0xDC00 ∧ 0xDC00 ≤ low then
      (joinPieces rest).map (Char.ofNat (0x10000 + (high - 0xD800) * 0x400 + (low - 0xDC00)) :: ·)
    else none
  | .half _ :: _ => none

/-- Read a string after its opening quote. The text is missing if its escapes make none. -/
def readString (text : List Char) : Option (Option String × List Char) :=
  (scanPieces text).map fun (pieces, rest) => ((joinPieces pieces).map String.ofList, rest)

/-! ## Values -/

/-- Read a number. -/
def readNumber (text : List Char) : Option (Json × List Char) :=
  (scanNumeral text).map fun (n, rest) =>
    let value :=
      if !n.isFinite then unreadable
      else if !n.negative && n.fraction.isEmpty && n.exponent.isNone then
        natural (Decimal.value n.whole)
      else number n
    (value, rest)

/-- A container read with `depth` levels of nesting left, itself one of them. -/
def nested (depth : Nat) (container : Json) : Json := if depth ≤ 1 then unreadable else container

/-- Put a member before the others; an object with a member that has no name has no value. -/
def withMember (name : Option String) (value : Json) :
    Option (List (String × Json)) → Option (List (String × Json))
  | some members => name.map fun name => (name, value) :: members
  | none => none

mutual

/-- Read a value. The first number is fuel, which every nested call has less of; the second is how
many levels of nesting are left. -/
def readValue : Nat → Nat → List Char → Option (Json × List Char)
  | 0, _, _ => none
  | fuel + 1, depth, text =>
    match skipBlanks text with
    | 'n' :: 'u' :: 'l' :: 'l' :: rest => some (.null, rest)
    | 't' :: 'r' :: 'u' :: 'e' :: rest => some (.bool true, rest)
    | 'f' :: 'a' :: 'l' :: 's' :: 'e' :: rest => some (.bool false, rest)
    | '"' :: rest =>
      (readString rest).map fun (text, rest) => ((text.map Json.string).getD .unreadable, rest)
    | '[' :: rest =>
      match skipBlanks rest with
      | ']' :: rest => some (nested depth (.array []), rest)
      | rest =>
        (readItems fuel (depth - 1) rest).map fun (items, rest) =>
          (nested depth (.array items), rest)
    | '\x7b' :: rest =>
      match skipBlanks rest with
      | '\x7d' :: rest => some (nested depth (.object []), rest)
      | rest =>
        (readMembers fuel (depth - 1) rest).map fun (members, rest) =>
          (nested depth ((members.map Json.object).getD .unreadable), rest)
    | rest => readNumber rest

def readItems : Nat → Nat → List Char → Option (List Json × List Char)
  | 0, _, _ => none
  | fuel + 1, depth, text =>
    match readValue fuel depth text with
    | none => none
    | some (item, rest) =>
      match skipBlanks rest with
      | ',' :: rest => (readItems fuel depth rest).map fun (items, rest) => (item :: items, rest)
      | ']' :: rest => some ([item], rest)
      | _ => none

def readMembers : Nat → Nat → List Char → Option (Option (List (String × Json)) × List Char)
  | 0, _, _ => none
  | fuel + 1, depth, text =>
    match skipBlanks text with
    | '"' :: rest =>
      match readString rest with
      | none => none
      | some (name, rest) =>
        match skipBlanks rest with
        | ':' :: rest =>
          match readValue fuel depth rest with
          | none => none
          | some (value, rest) =>
            match skipBlanks rest with
            | ',' :: rest =>
              (readMembers fuel depth rest).map fun (members, rest) =>
                (withMember name value members, rest)
            | '\x7d' :: rest => some (withMember name value (some []), rest)
            | _ => none
        | _ => none
    | _ => none

end

/-- How many levels of arrays and objects may nest, and one more. -/
def depthLimit : Nat := 128

/-- Read a text that is one JSON value, with blanks around it at most. Two calls nest for each
character at most, so the fuel never runs out. -/
def parse (text : List Char) : Option Json :=
  match readValue (2 * text.length + 2) depthLimit text with
  | some (value, rest) => if (skipBlanks rest).isEmpty then some value else none
  | none => none

end Switchboard.Json
