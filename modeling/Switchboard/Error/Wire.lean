import Switchboard.Error
import Switchboard.Json
/-!
# Errors as JSON

An error is written as an object: its name under `error`, its message, its causes under `chain`,
and its parts. A violation and an option at fault have no causes. The causes are given from
outside, because a bridge error has one more of them when it comes wrapped into a call error.
-/

namespace Switchboard

open Switchboard.Json (ofUInt32 ofUInt64)

def Json.ofTexts (texts : List String) : Json := .array (texts.map .string)

namespace Violation

def Part.toJson : Part → Json
  | .text s => .string s
  | .number n => .natural n
  | .handle h => .string h.text
  | .file id => ofUInt32 id.raw

def members (violation : Violation) : List (String × Json) :=
  ("error", .string violation.name) :: ("message", .string violation.message) ::
    violation.parts.map fun (name, part) => (name, part.toJson)

def toJson (violation : Violation) : Json := .object violation.members

end Violation

namespace OptionFault

def members (fault : OptionFault) : List (String × Json) :=
  [("error", .string "InvalidField"), ("message", .string fault.message),
    ("field", .string fault.field), ("reason", .string fault.reason)]

def toJson (fault : OptionFault) : Json := .object fault.members

end OptionFault

namespace BridgeError

def name : BridgeError → String
  | .notFound _ => "InstanceNotFound"
  | .poisoned _ => "SessionPoisoned"
  | .capacityExhausted _ => "CapacityExhausted"
  | .lockPoisoned _ => "LockPoisoned"
  | .invalidOptions _ => "InvalidOptions"
  | .contract _ => "Contract"
  | .encode _ => "Encode"

/-- The part an error has besides its message and causes. -/
def part : BridgeError → String × Json
  | .notFound handle => ("handle", .string handle.text)
  | .poisoned handle => ("handle", .string handle.text)
  | .capacityExhausted limit => ("limit", ofUInt64 limit)
  | .lockPoisoned scope => ("scope", .string scope.name)
  | .invalidOptions fault => ("source", fault.toJson)
  | .contract violation => ("source", violation.toJson)
  | .encode error => ("batch_len", .natural error.batchLength)

def members (causes : List String) (error : BridgeError) : List (String × Json) :=
  [("error", .string error.name), ("message", .string error.message),
    ("chain", Json.ofTexts causes), error.part]

def toJson (error : BridgeError) : Json := .object (error.members error.causes)

end BridgeError

namespace CallError

def members (causes : List String) : CallError → List (String × Json)
  | .bridge error => error.members causes
  | .failed failure =>
    [("error", .string "Failed"), ("message", .string (failed failure).message),
      ("operation", .string failure.operation.name), ("kind", .string failure.reason.name),
      ("code", ofUInt32 failure.code), ("chain", Json.ofTexts causes)]

def toJson (error : CallError) : Json := .object (error.members error.causes)

end CallError

end Switchboard
