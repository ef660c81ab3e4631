import DiscoveryClient.Log.Line
import DiscoveryClient.Settings.Validation

/-!
# Log output

The client's events go to one handler at the root of its loggers, which has a
threshold and a way of writing lines.  Both come from the bootstrap settings;
a level that is not known counts as `INFO`, and any format but `console` gives
records.
-/

namespace DiscoveryClient.Log

/-- The threshold of the handler and its way of writing. -/
structure Output where
  threshold : Nat := 20
  isConsole : Bool := false
  deriving DecidableEq, Repr, Inhabited

namespace Output

/-- The logger at the root of the client's loggers. -/
def rootName : String := "discovery_sdk"

/-- The severities that level names stand for. -/
def severities : List (String × Nat) :=
  [ ("CRITICAL", 50), ("FATAL", 50), ("ERROR", 40), ("WARN", 30), ("WARNING", 30),
    ("INFO", 20), ("DEBUG", 10), ("NOTSET", 0) ]

def severity (level : String) : Nat :=
  (severities.lookup (Text.upper level)).getD 20

/-- The output for a level and a format. -/
def make (level format : String) : Output where
  threshold := severity level
  isConsole := format = "console"

def ofSettings (settings : Settings) : Output :=
  make settings.logLevel settings.logFormat

/-- The client's loggers are the root and those below it. -/
def isOwn (logger : String) : Bool :=
  logger = rootName || (rootName ++ ".").toList.isPrefixOf logger.toList

/-- The least severity that is written.  A threshold of zero leaves it to the
threshold of the host program, which lets warnings through. -/
def leastSeverity (output : Output) : Nat :=
  if output.threshold = 0 then Level.warning.number else output.threshold

def admits (output : Output) (event : Event) : Bool :=
  isOwn event.logger && output.leastSeverity ≤ event.level.number

/-- The lines that an event leaves, if it is admitted. -/
def write (output : Output) (event : Event) : List Line :=
  if !output.admits event then []
  else if output.isConsole then (Console.lines event).map .console
  else [.record event]

end Output

end DiscoveryClient.Log
