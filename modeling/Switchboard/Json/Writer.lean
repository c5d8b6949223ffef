import Switchboard.Json
import Switchboard.Text.Decimal
import Switchboard.Text.Hex
/-!
# Writing JSON

The compact text of a JSON value: no blanks, members in their order. In strings only the quote, the
backslash and the control characters below the space are escaped, the five that have a letter of
their own by that letter and the others by four hexadecimal digits.
-/

namespace Switchboard.Json

/-- How a character stands inside a string. -/
def escape (c : Char) : List Char :=
  if c = '"' then ['\\', '"']
  else if c = '\\' then ['\\', '\\']
  else if c = '\x08' then ['\\', 'b']
  else if c = '\t' then ['\\', 't']
  else if c = '\n' then ['\\', 'n']
  else if c = '\x0c' then ['\\', 'f']
  else if c = '\r' then ['\\', 'r']
  else if c.toNat < 32 then
    ['\\', 'u', '0', '0', Hex.digit (c.toNat / 16), Hex.digit (c.toNat % 16)]
  else [c]

def quoted (text : String) : List Char := '"' :: (text.toList.flatMap escape ++ ['"'])

mutual

/-- The compact text of a value. What is unreadable is written as null. -/
def write : Json → List Char
  | .null => ['n', 'u', 'l', 'l']
  | .bool true => ['t', 'r', 'u', 'e']
  | .bool false => ['f', 'a', 'l', 's', 'e']
  | .natural value => Decimal.digits value
  | .number numeral => numeral.write
  | .string text => quoted text
  | .array [] => ['[', ']']
  | .array (item :: rest) => '[' :: (write item ++ writeItems rest)
  | .object [] => ['\x7b', '\x7d']
  | .object ((name, value) :: rest) =>
    '\x7b' :: (quoted name ++ ':' :: (write value ++ writeMembers rest))
  | .unreadable => ['n', 'u', 'l', 'l']

/-- The items after the first, up to the closing bracket. -/
def writeItems : List Json → List Char
  | [] => [']']
  | item :: rest => ',' :: (write item ++ writeItems rest)

def writeMembers : List (String × Json) → List Char
  | [] => ['\x7d']
  | (name, value) :: rest => ',' :: (quoted name ++ ':' :: (write value ++ writeMembers rest))

end

/-- The compact text of a value as a string. -/
def text (value : Json) : String := String.ofList value.write

end Switchboard.Json
