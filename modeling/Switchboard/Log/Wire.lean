import Switchboard.Json
import Switchboard.Log
/-!
# Log entries as JSON

An entry is written as the object of its level, in capitals, its message and its named values.
-/

namespace Switchboard.Log

def Value.toJson : Value → Json
  | .number n => .natural n
  | .flag b => .bool b
  | .text s => .string s

def Entry.toJson (entry : Entry) : Json :=
  .object [("level", .string entry.level.name.toUpper), ("message", .string entry.message),
    ("fields", .object (entry.fields.map fun (name, value) => (name, value.toJson)))]

end Switchboard.Log
