import DiscoveryClient.Counters
import DiscoveryClient.Failure
import DiscoveryClient.FileTree
import DiscoveryClient.Log.Logged
import DiscoveryClient.Path.Reported
import DiscoveryClient.Properties.Binding
import DiscoveryClient.Text.Utf8
import DiscoveryClient.Value.Equality

/-!
# Property files

A file source serves the bindings of two files: a base file and, over it, the
file of one environment.  The name of the environment is served too, as the
value that it is; the path of its file shows its text.  A reload builds the whole
mapping before it replaces the served one, so a file that cannot be read leaves
the served mapping as it was.  A missing file is empty; only the base file is
missed with a warning.
-/

namespace DiscoveryClient

open Log

structure FileSource where
  environment : Value
  basePath : Path
  environmentPath : Path
  served : Mapping Value := .empty
  isWatched : Bool := false
  deriving Inhabited

namespace FileSource

def loggerName : String := "discovery_sdk.tier0_core.properties"

/-- The key under which the name of the environment is served. -/
def environmentKey : String := "archaius.deployment.environment"

/-- The paths of the files of one name and environment; nothing is served yet. -/
def place (name : String) (environment : Value) (directory : String) : FileSource :=
  let directory := Path.ofText directory
  { environment
    basePath := directory.join (.ofText (name ++ ".properties"))
    environmentPath :=
      directory.join (.ofText (name ++ "-" ++ environment.display ++ ".properties")) }

/-! ## Events of the log -/

def missingFile (path : Path) : Event where
  level := .warning
  logger := loggerName
  name := .text "properties.file.missing"
  fields :=
    [ ("path", .text path.text),
      ("hint", .text
        "may be okay if the configuration is installed with a different mechanism") ]

def reloaded (changed : Bool) (size : Nat) : Event where
  level := .debug
  logger := loggerName
  name := .text "properties.reloaded"
  fields := [("changed", .bool changed), ("keys", .int size)]

def reloadFailed (error : ClientError) : Event where
  level := .error
  logger := loggerName
  name := .text "properties.reload.failed"
  fields :=
    [("code", error.code), ("detail", error.detail)] ++ error.metadata.entries

def watchUnavailable (directory : Path) : Event where
  level := .warning
  logger := loggerName
  name := .text "properties.watch.unavailable"
  fields := [("path", .text directory.text)]

def watchStarted (directory : Path) (interval : Value) : Event where
  level := .info
  logger := loggerName
  name := .text "properties.watch.started"
  fields := [("path", .text directory.text), ("interval_seconds", interval)]

/-! ## Reloading -/

/-- The error about a file that exists and cannot be read. -/
def unreadable (path : Path) (reason : String) : ClientError :=
  .make .propertySource (some (.text ("Cannot read property file " ++ path.text ++ ": " ++ reason)))
    .null (.text path.text) .empty

/-- The bindings of one file; a file that does not exist has none. -/
def readBindings (tree : FileTree) (path : Path) : Except Failure (Mapping Value) :=
  match tree.readBytes path with
  | .error fault => .error (.file fault path.text)
  | .ok none => .ok .empty
  | .ok (some (.error report)) => .error (.own (unreadable path report.message))
  | .ok (some (.ok bytes)) =>
      match Text.Utf8.decode bytes with
      | .ok text => .ok ((PropertyText.values text).map .text)
      | .error fault => .error (.own (unreadable path fault.message))

/-- The name of the environment, overridden by the base file, overridden by the
file of the environment. -/
def cascade (tree : FileTree) (source : FileSource) : Except Failure (Mapping Value) := do
  let base ← readBindings tree source.basePath
  let overlay ← readBindings tree source.environmentPath
  pure (((Mapping.empty.insert environmentKey source.environment).merge base).merge overlay)

/-- Warn if there is no base file. -/
def warnIfMissing (tree : FileTree) (source : FileSource) : Logged Unit :=
  match tree.readBytes source.basePath with
  | .ok none => Logged.log (missingFile source.basePath)
  | _ => pure ()

/-- Read all files again.  The answer tells whether the served mapping changed. -/
def reload (tree : FileTree) (source : FileSource) :
    Logged (FileSource × Except Failure Bool) := do
  warnIfMissing tree source
  match cascade tree source with
  | .error failure => pure (source, .error failure)
  | .ok mapping => do
      let changed := !mapping.sameBy Value.agrees source.served
      Logged.log (reloaded changed mapping.size)
      pure ({ source with served := mapping }, .ok changed)

/-- A source with its files read. -/
def load (tree : FileTree) (name : String) (environment : Value) (directory : String) :
    Logged (Except Failure FileSource) := do
  let (source, outcome) ← reload tree (place name environment directory)
  pure (outcome.map fun _ => source)

/-! ## Watching -/

inductive ChangeKind where
  | created
  | modified
  | deleted
  | moved
  | opened
  | closed
  | closedWithoutWriting
  deriving DecidableEq, Repr, Inhabited

namespace ChangeKind

def ofName? : String → Option ChangeKind
  | "created" => some .created
  | "modified" => some .modified
  | "deleted" => some .deleted
  | "moved" => some .moved
  | "opened" => some .opened
  | "closed" => some .closed
  | "closed_no_write" => some .closedWithoutWriting
  | _ => none

/-- Directories are never reported to be opened or closed. -/
def concernsDirectories : ChangeKind → Bool
  | .opened | .closed | .closedWithoutWriting => false
  | _ => true

/-- Changes that can have given a file other bytes. -/
def mayAlter : ChangeKind → Bool
  | .opened | .closedWithoutWriting => false
  | _ => true

end ChangeKind

/-- A change that the file system reports; only a move has a destination. -/
structure Change where
  kind : ChangeKind
  ofDirectory : Bool := false
  path : ReportedPath
  destination : ReportedPath := .empty
  deriving DecidableEq, Repr

/-- The change of a type with paths of any values, of which the first may be reported
as bytes.  Of a change that cannot have given a file other bytes the paths are not
looked at; otherwise they must be texts, and a destination that says nothing is none. -/
def Change.ofValues (type : String) (ofDirectory asBytes : Bool) (path destination : Value) :
    Except Failure Change :=
  let report (path : String) : ReportedPath :=
    if asBytes then .bytes (Text.Utf8.encode path) else .text path
  match ChangeKind.ofName? type with
  | none => .error .noSuchOperation
  | some kind =>
      if ofDirectory && !kind.concernsDirectories then .error .noSuchOperation
      else if ofDirectory || !kind.mayAlter then
        .ok { kind, ofDirectory, path := report path.display }
      else do
        let path ← path.toText
        let destination ← destination.filled?.elim (.ok "") Value.toText
        .ok { kind, ofDirectory, path := report path, destination := .text destination }

/-- Is the last name of the path the name of one of the two files? -/
def names (source : FileSource) (path : ReportedPath) : Bool :=
  match path.lastName? with
  | some name =>
      source.basePath.baseName? = some name || source.environmentPath.baseName? = some name
  | none => false

/-- Is the change one to reload after? -/
def concerns (source : FileSource) (change : Change) : Bool :=
  !change.ofDirectory && change.kind.mayAlter &&
    (source.names change.path || source.names change.destination)

/-- Reload after a change that concerns the source.  A file that cannot be read is
logged and the mapping served before is kept; only a path that the system refuses
is passed on. -/
def onChange (tree : FileTree) (source : FileSource) (change : Change) :
    Logged (FileSource × Except Failure (Option ReloadResult)) := do
  if source.concerns change then
    match ← source.reload tree with
    | (source, .ok true) => pure (source, .ok (some .changed))
    | (source, .ok false) => pure (source, .ok (some .unchanged))
    | (source, .error (.own error)) => do
        Logged.log (reloadFailed error)
        pure (source, .ok (some .failed))
    | (source, .error failure) => pure (source, .error failure)
  else pure (source, .ok none)

/-- Is an interval zero or less?  NaN is not, and only numbers can be compared. -/
def isTooShort : Value → Except Failure Bool
  | .bool seconds => .ok !seconds
  | .int seconds => .ok (seconds ≤ 0)
  | .float seconds => .ok (!seconds.isPositive && !seconds.isNaN)
  | _ => .error .wrongType

/-- Can an observer wait so long?  Truth values pass for numbers elsewhere, not here. -/
def canWait : Value → Bool
  | .bool _ => false
  | _ => true

/-- Watch the directory of the files, unless it is watched already or missing. -/
def watch (tree : FileTree) (interval : Value) (source : FileSource) :
    Logged (FileSource × Except Failure Unit) := do
  match isTooShort interval with
  | .error failure => pure (source, .error failure)
  | .ok true => pure (source, .error (.refusedValue "interval_seconds must be positive"))
  | .ok false =>
      let directory := source.basePath.parent
      if source.isWatched then pure (source, .ok ())
      else match tree.isDirectory directory with
        | .error fault => pure (source, .error (.file fault directory.text))
        | .ok true =>
            if canWait interval then do
              Logged.log (watchStarted directory interval)
              pure ({ source with isWatched := true }, .ok ())
            else pure (source, .error .wrongType)
        | .ok false => do
            Logged.log (watchUnavailable directory)
            pure (source, .ok ())

/-- Stop watching. -/
def close (source : FileSource) : FileSource :=
  { source with isWatched := false }

end FileSource

end DiscoveryClient
