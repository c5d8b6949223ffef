import Switchboard.Text.Extending
import Switchboard.Text.Unprintable
/-!
# Quoted text

A text in double quotes, with everything escaped that a reader could not see or would take for a
part of something else: the quote and the backslash themselves, characters that do not print, and
characters that print on the one before them.
-/

namespace Switchboard.Text

/-- The character can be seen, and stands by itself. -/
def standsAlone (c : Char) : Bool := !unprintable.has c.toNat && !extending.has c.toNat

def quoteChar (c : Char) : List Char :=
  if c = '"' then ['\\', '"']
  else if c = '\\' then ['\\', '\\']
  else if c = '\t' then ['\\', 't']
  else if c = '\n' then ['\\', 'n']
  else if c = '\r' then ['\\', 'r']
  else if c.toNat = 0 then ['\\', '0']
  else if standsAlone c then [c]
  else ['\\', 'u', '\x7b'] ++ Nat.toDigits 16 c.toNat ++ ['\x7d']

def quote (text : String) : String :=
  String.ofList ('"' :: (text.toList.flatMap quoteChar ++ ['"']))

end Switchboard.Text
