import DiscoveryClient.Log.Output

/-!
# Handlers

The logger at the root of the client's loggers hands what it writes to its
handlers.  A configuration takes away the handler of the configuration before it
and adds one of its own; handlers that the host program has added stay.
-/

namespace DiscoveryClient.Log

/-- A handler, which differs from any other by its number. -/
structure Handler where
  number : Nat
  isConsole : Bool
  deriving DecidableEq, Repr

structure Handlers where
  /-- Those of the logger, the one added last at the end. -/
  installed : List Handler := []
  own : Option Handler := none
  made : Nat := 0
  /-- Are events handed on to the handlers of the host program? -/
  propagates : Bool := true
  deriving Repr, Inhabited

namespace Handlers

def others (handlers : Handlers) : List Handler :=
  handlers.own.elim handlers.installed handlers.installed.erase

/-- Put a new handler in the place of the one that the latest configuration added. -/
def install (handlers : Handlers) (output : Output) : Handlers :=
  let handler : Handler := { number := handlers.made, isConsole := output.isConsole }
  { installed := handlers.others ++ [handler]
    own := some handler
    made := handlers.made + 1
    propagates := false }

end Handlers

end DiscoveryClient.Log
