import DiscoveryClient.Mapping
import DiscoveryClient.Text.Line
import DiscoveryClient.Value

/-!
# Failures

The client has four classes of error of its own.  Each error carries a stable
code, a detail and further fields for the log.  Collaborators (metadata,
providers, clocks, tasks, file systems) may fail in ways of their own, which
are known by the name of their kind and a message.
-/

namespace DiscoveryClient

inductive ErrorClass where
  | discovery
  | configuration
  | propertySource
  | metadataUnavailable
  deriving DecidableEq, Repr, Inhabited

namespace ErrorClass

def name : ErrorClass → String
  | .discovery => "DiscoveryError"
  | .configuration => "ConfigurationError"
  | .propertySource => "PropertySourceError"
  | .metadataUnavailable => "MetadataUnavailableError"

/-- The code of errors that are given none. -/
def code : ErrorClass → String
  | .discovery => "discovery_error"
  | .configuration => "configuration_error"
  | .propertySource => "property_source_error"
  | .metadataUnavailable => "metadata_unavailable"

def detail : ErrorClass → String
  | .propertySource => "Property source could not be loaded."
  | _ => "An unexpected discovery client error occurred."

def all : List ErrorClass :=
  [.discovery, .configuration, .propertySource, .metadataUnavailable]

def ofName? (name : String) : Option ErrorClass :=
  all.find? fun kind => kind.name = name

end ErrorClass

/-- An error of the client.  Only property source errors have a path; for the
others, and when none is given, it is null. -/
structure ClientError where
  kind : ErrorClass
  code : Value
  detail : Value
  path : Value
  metadata : Mapping Value
  deriving Inhabited

namespace ClientError

/-- A code that says nothing counts as none.  The path of a property source
error joins its metadata. -/
def make (kind : ErrorClass) (detail : Option Value) (code path : Value)
    (metadata : Mapping Value) : ClientError :=
  let path := if kind = .propertySource then path else .null
  { kind
    code := code.filled?.getD (.text kind.code)
    detail := detail.getD (.text kind.detail)
    path
    metadata := if path.isNull then metadata else metadata.insert "path" path }

def detailed (kind : ErrorClass) (detail : String) (metadata : Mapping Value) : ClientError :=
  make kind (some (.text detail)) .null .null metadata

def argumentNames (kind : ErrorClass) : List String :=
  if kind = .propertySource then ["detail", "code", "path"] else ["detail", "code"]

/-- The error made from arguments by position and by name, unless there are too
many or one is given twice.  Further names are metadata. -/
def ofArguments? (kind : ErrorClass) (positional : List Value) (named : List (String × Value)) :
    Option ClientError :=
  let names := argumentNames kind
  let placed := names.zip positional
  let given := named.map Prod.fst
  if names.length < positional.length || given.contains "self" ||
      placed.any (given.contains ·.1) then none
  else
    let look (name : String) : Option Value := (placed ++ named).lookup name
    some (make kind (look "detail") ((look "code").getD .null) ((look "path").getD .null)
      (.ofList (named.filter fun entry => !names.contains entry.1)))

def document (error : ClientError) : Value :=
  .dict [("error", .dict
    (((Mapping.empty.insert "code" error.code).insert "detail" error.detail).merge
      error.metadata).entries)]

end ClientError

inductive FileFault where
  | missing
  | taken
  | notDirectory
  | isDirectory
  | nameTooLong
  | embeddedNull
  deriving DecidableEq, Repr, Inhabited

namespace FileFault

def kind : FileFault → String
  | .missing => "FileNotFoundError"
  | .taken => "FileExistsError"
  | .notDirectory => "NotADirectoryError"
  | .isDirectory => "IsADirectoryError"
  | .nameTooLong => "OSError"
  | .embeddedNull => "ValueError"

/-- The number by which systems report the fault, if they get to see the path, and
its text. -/
def reason : FileFault → String
  | .missing => "[Errno 2] No such file or directory"
  | .taken => "[Errno 17] File exists"
  | .notDirectory => "[Errno 20] Not a directory"
  | .isDirectory => "[Errno 21] Is a directory"
  | .nameTooLong => "[Errno 36] File name too long"
  | .embeddedNull => "embedded null byte"

def message (fault : FileFault) (path : String) : String :=
  if fault = .embeddedNull then fault.reason else fault.reason ++ ": " ++ Text.quoted path

end FileFault

inductive Failure where
  /-- A failure of a collaborator, by the name of its kind and what it was raised with. -/
  | foreign (kind : String) (argument : Value)
  | own (error : ClientError)
  | refusedValue (reason : String)
  /-- A value that cannot be written, as an integer in it has too many digits. -/
  | tooManyDigits
  | wrongType
  | noSuchOperation
  /-- An operation that nothing has, with the value that names it. -/
  | unknownOperation (operation : Value)
  | outOfRange
  /-- A time so late that the system's calendar has no date for it. -/
  | dateTooLate
  /-- A clock that was to be read more often than it has times. -/
  | clockExhausted
  | file (fault : FileFault) (path : String)
  | missingKey (key : Value)
  | outOfMemory
  | undecodableFile (reason : String)
  | metricTaken
  deriving Inhabited

namespace Failure

def kind : Failure → String
  | .foreign kind _ => kind
  | .own error => error.kind.name
  | .refusedValue _ | .tooManyDigits => "ValueError"
  | .wrongType => "TypeError"
  | .noSuchOperation => "AttributeError"
  | .unknownOperation _ => "AssertionError"
  | .outOfRange => "OverflowError"
  | .dateTooLate => "OSError"
  | .clockExhausted => "RuntimeError"
  | .file fault _ => fault.kind
  | .missingKey _ => "KeyError"
  | .outOfMemory => "MemoryError"
  | .undecodableFile _ => "UnicodeDecodeError"
  | .metricTaken => "DuplicateTimeseries"

/-- Kinds whose messages are not part of any record. -/
def unwordedKinds : List String :=
  ["TypeError", "AttributeError", "OverflowError"]

def isUnworded (failure : Failure) : Bool :=
  unwordedKinds.contains failure.kind

/-- The message; that of a failed look-up shows the kind of the missing key. -/
def message : Failure → String
  | .foreign kind argument => if kind = "KeyError" then argument.literal else argument.display
  | .own error => error.detail.display
  | .refusedValue reason | .undecodableFile reason => reason
  | .tooManyDigits =>
      "Exceeds the limit (4300 digits) for integer string conversion; " ++
        "use sys.set_int_max_str_digits() to increase the limit"
  | .wrongType | .noSuchOperation | .outOfRange | .outOfMemory => ""
  | .dateTooLate => "[Errno 75] Value too large for defined data type"
  | .clockExhausted => "clock exhausted"
  | .file fault path => fault.message path
  | .unknownOperation operation => operation.display
  | .missingKey key => key.literal
  | .metricTaken => "Duplicated timeseries in CollectorRegistry"

def sourceTextKinds : List String :=
  ["SyntaxError", "IndentationError", "TabError"]

/-- A failure about source text whose message says nothing. -/
def isSpeechless : Failure → Bool
  | .foreign kind argument => sourceTextKinds.contains kind && !argument.isFilled
  | _ => false

def qualifiedKind : Failure → String
  | .own error => "discovery_sdk.tier0_core.errors." ++ error.kind.name
  | failure => failure.kind

/-- The kind and the message, or the kind alone if the message is empty. -/
def report (failure : Failure) : String :=
  if failure.isSpeechless then failure.qualifiedKind ++ ": <no detail available>"
  else if failure.message ≠ "" then failure.qualifiedKind ++ ": " ++ failure.message
  else failure.qualifiedKind

/-- The line that stands for a failure in a log entry: the last line of its
report, which for the unworded kinds is cut to the kind. -/
def summary (failure : Failure) : String :=
  let line := Text.lastLine failure.report.toList
  let kind := String.ofList (line.takeWhile (· ≠ ':'))
  if unwordedKinds.contains kind then kind else String.ofList line

def shown : Failure → String
  | .foreign kind argument => kind ++ "(" ++ argument.literal ++ ")"
  | .missingKey key => "KeyError(" ++ key.literal ++ ")"
  | .unknownOperation operation => "AssertionError(" ++ operation.literal ++ ")"
  | .own error => error.kind.name ++ "(" ++ error.detail.literal ++ ")"
  | failure => failure.kind ++ "(" ++ Text.quoted failure.message ++ ")"

def kindAliases : List (String × String) :=
  [("IOError", "OSError"), ("EnvironmentError", "OSError")]

/-- Kinds that cannot be made from a message alone, with what they say about it. -/
def demandingKinds : List (String × String) :=
  [ ("UnicodeDecodeError", "function takes exactly 5 arguments (1 given)"),
    ("UnicodeEncodeError", "function takes exactly 5 arguments (1 given)"),
    ("UnicodeTranslateError", "function takes exactly 4 arguments (1 given)"),
    ("ExceptionGroup", "BaseExceptionGroup.__new__() takes exactly 2 arguments (1 given)"),
    ("BaseExceptionGroup", "BaseExceptionGroup.__new__() takes exactly 2 arguments (1 given)") ]

def ofKind (kind : String) (argument : Value) : Failure :=
  match ErrorClass.ofName? kind, demandingKinds.lookup kind with
  | some kind, _ => .own (.make kind (some argument) .null .null .empty)
  | none, some complaint => .foreign "TypeError" (.text complaint)
  | none, none => .foreign ((kindAliases.lookup kind).getD kind) argument

def systemKinds : List String :=
  [ "OSError", "BlockingIOError", "BrokenPipeError", "ChildProcessError",
    "ConnectionAbortedError", "ConnectionError", "ConnectionRefusedError",
    "ConnectionResetError", "FileExistsError", "FileNotFoundError", "InterruptedError",
    "IsADirectoryError", "NotADirectoryError", "PermissionError", "ProcessLookupError",
    "TimeoutError", "gaierror", "herror" ]

def isSystem (failure : Failure) : Bool :=
  systemKinds.contains failure.kind

end Failure

/-- The text that a value is, where no other value will do. -/
def Value.toText : Value → Except Failure String
  | .text content => .ok content
  | _ => .error .wrongType

def Value.written (value : Value) : Except Failure String :=
  match value.text? with
  | some content => .ok content
  | none => .error .tooManyDigits

end DiscoveryClient
