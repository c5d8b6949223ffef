import Switchboard.Handle
import Switchboard.Text.Quoted
import Switchboard.Transfer.FileId
/-!
# Contract violations

Ways in which an engine, or a caller that kills twice, breaks what this library relies on. A
violation by an engine is final for its session.
-/

namespace Switchboard

inductive Violation where
  /-- A number outside the table of an enumeration. -/
  | unknownValue (kind : String) (value : UInt32)
  /-- A failure code outside the operation's catalogue. -/
  | unexpectedCode (operation : String) (code : UInt32)
  | alreadyKilled (handle : Handle)
  /-- A file notification for a transfer that is not live. -/
  | missingTransfer (friend : UInt32) (file : FileId)
  /-- A new transfer where one is live. -/
  | duplicateTransfer (friend : UInt32) (file : FileId)
  /-- File data past the declared size. -/
  | transferOverrun (friend : UInt32) (file : FileId) (position length size : UInt64)
  /-- A file notification of the other addressing scheme. -/
  | addressingMismatch (notification : String)
  /-- A file number that does not fit into eight bits. -/
  | indexOutOfRange (value : UInt32)
  deriving DecidableEq, Repr

namespace Violation

def message : Violation → String
  | .unknownValue _ _ => "native enum value outside the known table"
  | .unexpectedCode _ _ => "native error code outside the operation's catalogue"
  | .alreadyKilled _ => "session already killed"
  | .missingTransfer _ _ => "file notification for an unknown transfer"
  | .duplicateTransfer _ _ => "file transfer already exists"
  | .transferOverrun _ _ _ _ _ => "file data past the end of the transfer"
  | .addressingMismatch _ => "file notification does not match the engine's addressing"
  | .indexOutOfRange _ => "legacy file index out of range"

/-! ## Names and parts -/

def name : Violation → String
  | .unknownValue _ _ => "UnknownEnumValue"
  | .unexpectedCode _ _ => "UnexpectedErrorCode"
  | .alreadyKilled _ => "AlreadyKilled"
  | .missingTransfer _ _ => "MissingTransfer"
  | .duplicateTransfer _ _ => "DuplicateTransfer"
  | .transferOverrun _ _ _ _ _ => "TransferOverrun"
  | .addressingMismatch _ => "AddressingMismatch"
  | .indexOutOfRange _ => "LegacyIndexOutOfRange"

/-- What a part of a violation can be. -/
inductive Part where
  | text (s : String)
  | number (n : Nat)
  | handle (h : Handle)
  | file (id : FileId)
  deriving DecidableEq, Repr

def parts : Violation → List (String × Part)
  | .unknownValue kind value => [("kind", .text kind), ("value", .number value.toNat)]
  | .unexpectedCode operation code =>
    [("operation", .text operation), ("code", .number code.toNat)]
  | .alreadyKilled handle => [("handle", .handle handle)]
  | .missingTransfer friend file =>
    [("friend_number", .number friend.toNat), ("file_number", .file file)]
  | .duplicateTransfer friend file =>
    [("friend_number", .number friend.toNat), ("file_number", .file file)]
  | .transferOverrun friend file position length size =>
    [("friend_number", .number friend.toNat), ("file_number", .file file),
      ("position", .number position.toNat), ("length", .number length.toNat),
      ("size", .number size.toNat)]
  | .addressingMismatch notice => [("notification", .text notice)]
  | .indexOutOfRange value => [("value", .number value.toNat)]

/-! ## The text of the value itself -/

/-- A value with named parts: its name, and each part as name, colon and text. -/
def record (name : String) (parts : List (String × String)) : String :=
  name ++ " \x7b " ++ ", ".intercalate (parts.map fun (name, text) => name ++ ": " ++ text) ++
    " \x7d"

def Part.details : Part → String
  | .text s => Text.quote s
  | .number n => toString n
  | .handle h =>
    record "Handle"
      [("slot", toString h.slot.toNat), ("generation", toString h.generation.toNat)]
  | .file id => "FileId(" ++ id.text ++ ")"

/-- The violation with all its parts, as log entries show it. -/
def details (violation : Violation) : String :=
  record violation.name (violation.parts.map fun (name, part) => (name, part.details))

end Violation

end Switchboard
