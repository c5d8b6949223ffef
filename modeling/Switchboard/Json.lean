import Switchboard.Json.Numeral
/-!
# JSON values

A JSON text as data: what was written, before anything is expected of it. Members of an object are
kept in order and with their repetitions, since what they mean depends on who reads them. Numbers
are told apart only as far as this library needs: a natural numeral has its value, any other
number keeps its digits.
-/

namespace Switchboard

inductive Json where
  | null
  | bool (value : Bool)
  /-- A numeral without sign, fraction or exponent. -/
  | natural (value : Nat)
  /-- Any other number. -/
  | number (numeral : Json.Numeral)
  | string (text : String)
  | array (items : List Json)
  | object (members : List (String × Json))
  /-- A text of the right form that has no value: an escaped surrogate without its partner, a
  number beyond every finite double, or nesting that is too deep. -/
  | unreadable

namespace Json

mutual

/-- Nothing inside the value is unreadable. -/
def readable : Json → Bool
  | .unreadable => false
  | .array items => readableItems items
  | .object members => readableMembers members
  | _ => true

def readableItems : List Json → Bool
  | [] => true
  | item :: rest => readable item && readableItems rest

def readableMembers : List (String × Json) → Bool
  | [] => true
  | (_, value) :: rest => readable value && readableMembers rest

end

def ofUInt8 (n : UInt8) : Json := .natural n.toNat

def ofUInt32 (n : UInt32) : Json := .natural n.toNat

def ofUInt64 (n : UInt64) : Json := .natural n.toNat

/-- Bytes are written as the array of their numbers. -/
def ofBytes (bytes : List UInt8) : Json := .array (bytes.map ofUInt8)

end Json

end Switchboard
