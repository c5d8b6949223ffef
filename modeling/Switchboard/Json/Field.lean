import Switchboard.Bytes
import Switchboard.Enumerated
import Switchboard.Json
/-!
# Typed values in JSON

What a JSON value must be to stand for a number of a given width, a flag, a text, bytes or a member
of a closed table, and how the fields of a record are found: by name in an object, where members of
other names are passed over and a repeated name is refused, or by place in an array.
-/

namespace Switchboard.Json

/-- A natural number below a bound. -/
def below? (bound : Nat) : Json → Option Nat
  | .natural value => if value < bound then some value else none
  | _ => none

def uint8? (value : Json) : Option UInt8 := (value.below? 256).map UInt8.ofNat

def uint32? (value : Json) : Option UInt32 := (value.below? 4294967296).map UInt32.ofNat

def uint64? (value : Json) : Option UInt64 := (value.below? 18446744073709551616).map UInt64.ofNat

def flag? : Json → Option Bool
  | .bool value => some value
  | _ => none

def text? : Json → Option String
  | .string text => some text
  | _ => none

/-- Bytes are given as the array of their numbers. -/
def bytes? : Json → Option Bytes
  | .array items => items.mapM uint8?
  | _ => none

def block? (n : Nat) (value : Json) : Option (Block n) := value.bytes?.bind (Block.ofBytes? n)

/-- A value of a closed table: its name, or an object whose only member has that name and the value
null. -/
def choice? {α : Type} [Enumerated α] : Json → Option α
  | .string name => Enumerated.ofName? name
  | .object [(name, .null)] => Enumerated.ofName? name
  | _ => none

/-- Like `choice?`; the only member may also be an empty object. -/
def looseChoice? {α : Type} [Enumerated α] : Json → Option α
  | .object [(name, .object [])] => Enumerated.ofName? name
  | value => value.choice?

/-- The value of the one member with this name, if there is one; a repeated name is refused. -/
def member? (members : List (String × Json)) (name : String) : Option (Option Json) :=
  match members.filter (·.1 == name) with
  | [] => some none
  | [(_, value)] => some (some value)
  | _ => none

/-- The fields of a record with these names, in their order. A field is missing if an object has no
member for it, or if an array ends before it; an array must not go on after the last. -/
def fields? (names : List String) : Json → Option (List (Option Json))
  | .object members => names.mapM (member? members)
  | .array items =>
    if names.length < items.length then none
    else some (items.map some ++ List.replicate (names.length - items.length) none)
  | _ => none

def allFields? (names : List String) (value : Json) : Option (List Json) :=
  (value.fields? names).bind (·.mapM id)

/-- A field that has a default: what it reads as if it is there, and the default if it is not. -/
def orDefault {α : Type} (read : Json → Option α) (default : α) : Option Json → Option α
  | none => some default
  | some value => read value

end Switchboard.Json
