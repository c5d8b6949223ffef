/-!
# Log entries

What a step leaves in the log: how severe it is, a fixed message, and named values.
-/

namespace Switchboard.Log

/-- How severe an entry is, from the most severe. -/
inductive Level where
  | error
  | warn
  | info
  | debug
  | trace
  deriving DecidableEq, Repr

namespace Level

def rank : Level → Nat
  | .error => 0
  | .warn => 1
  | .info => 2
  | .debug => 3
  | .trace => 4

def name : Level → String
  | .error => "error"
  | .warn => "warn"
  | .info => "info"
  | .debug => "debug"
  | .trace => "trace"

def all : List Level := [.error, .warn, .info, .debug, .trace]

def ofName? (text : String) : Option Level := all.find? (fun level => level.name == text)

/-- An entry of this level shows in a log that is kept at the level `limit`. -/
def showsAt (limit level : Level) : Bool := level.rank ≤ limit.rank

end Level

inductive Value where
  | number (n : Nat)
  | flag (b : Bool)
  | text (s : String)
  deriving DecidableEq, Repr

structure Entry where
  level : Level
  message : String
  fields : List (String × Value)
  deriving DecidableEq, Repr

end Switchboard.Log
