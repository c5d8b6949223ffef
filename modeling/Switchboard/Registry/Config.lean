/-!
# Registry limits
-/

namespace Switchboard

namespace Registry

/-- How many sessions a registry holds at most, and how many waiting events of one session are
worth a warning. -/
structure Config where
  maxSessions : UInt64 := 4096
  warnThreshold : UInt64 := 65536
  deriving DecidableEq, Repr

end Registry

end Switchboard
