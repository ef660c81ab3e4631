import DiscoveryClient.Failure
import DiscoveryClient.Log.Context
import DiscoveryClient.Log.Handlers
import DiscoveryClient.Log.Template
import DiscoveryClient.Settings.Bootstrap
import DiscoveryClient.Value.Equality

/-!
# Logging sessions

A session configures the output and logs under it: structured events, failures
that were caught, and plain messages of the host program's own log calls.
Blocks with context may be nested, and a block is left with the context it was
entered with, also when a step inside it fails.
-/

namespace DiscoveryClient.Log

inductive Configuration where
  /-- The settings of the process, or the built-in ones if those are invalid. -/
  | process
  | arguments (values : List (String × Value))
  /-- A level and a format taken as they are. -/
  | unchecked (level format : Option Value)

inductive Trouble where
  | failure (failure : Failure)
  | settings (problem : SettingSources.Problem)

inductive SessionStep where
  | configure (configuration : Configuration)
  /-- An event whose name is a template for arguments. -/
  | log (event : Event) (arguments : List Value)
  | caught (failure : Failure) (logger : String) (message : Value) (fields : List Field)
  | plain (level : Level) (logger message : String) (arguments : List Value)
  | context (fields : List Field) (steps : List SessionStep)
  /-- A call that logs nothing, and may fail. -/
  | silent (failure : Option Failure)

instance : Inhabited SessionStep := ⟨.silent none⟩

def SessionStep.failing (failure : Failure) : SessionStep :=
  .silent (some failure)

/-- The logger of a name; a name that says nothing is that of the root of the
client's loggers. -/
def loggerName (name : Value) : Except Failure String :=
  match name.filled? with
  | none => .ok Output.rootName
  | some (.text name) => .ok name
  | some _ => .error .wrongType

/-- Names that every call of a logger uses itself. -/
def callNames : List String :=
  ["event", "self"]

def usesCallName (fields : List Field) : Bool :=
  callNames.any fun name => (fields.lookup name).isSome

def otherOperations : List String :=
  ["bind", "log", "new", "get_effective_level"]

/-- Operations that are put off when they are called, and log nothing until they
are waited for. -/
def deferredOperations : List String :=
  [ "adebug", "ainfo", "amsg", "awarning", "awarn", "aerror", "aexception", "acritical",
    "afatal" ]

/-- The outcome of an operation that logs nothing.  A logger has no fields bound to
it, so none can be taken off, which is a fault unless it is only tried. -/
def silentOutcome (operation : String) (message : Value) (arguments : List Value)
    (fields : List Field) : Option Failure :=
  let has (name : String) : Bool := (fields.lookup name).isSome
  let allowedIf (fits : Bool) : Option Failure := if fits then none else some .wrongType
  if otherOperations.contains operation then some .wrongType
  else if deferredOperations.contains operation then allowedIf (!usesCallName fields)
  else match operation with
    | "alog" => allowedIf (!has "self" && !has "level" && arguments.isEmpty = has "event")
    | "is_enabled_for" => allowedIf (message.isNumber && arguments.isEmpty && fields.isEmpty)
    | "unbind" =>
        some (if fields.isEmpty && message.isFixed then .missingKey message else .wrongType)
    | "try_unbind" => allowedIf fields.isEmpty
    | _ => some .noSuchOperation

def SessionStep.ofOperation (operation logger : String) (message : Value)
    (arguments : List Value) (fields : List Field) : SessionStep :=
  match Level.ofOperation? operation with
  | some level =>
      let event : Event := { level, logger, name := message, fields }
      .log (if operation = "exception" then event.asking else event) arguments
  | none => .silent (silentOutcome operation message arguments fields)

inductive SessionAnswer where
  | nothing
  | configured (threshold : Nat) (handlers : Handlers)
  | context (fields : List Field)

structure Session extends Bootstrap where
  output : Output := {}
  handlers : Handlers := {}
  context : Context := .empty
  lines : List Line := []

namespace Session

def outputOf (bootstrap : Bootstrap) : Configuration → Except Trouble Output × Bootstrap
  | .process =>
      let (answer, bootstrap) := bootstrap.settingsOrInitial
      ((answer.map Output.ofSettings).mapError .failure, bootstrap)
  | .arguments values =>
      let answer := { bootstrap.sources with arguments := values }.settings
      ((answer.map Output.ofSettings).mapError .settings, bootstrap)
  | .unchecked level format =>
      match level.getD SettingField.logLevel.default with
      | .text level =>
          (.ok (.make level ((format.getD SettingField.logFormat.default).display)), bootstrap)
      | _ => (.error (.failure .noSuchOperation), bootstrap)

def install (session : Session) (output : Output) : Session :=
  { session with output, handlers := session.handlers.install output }

def write (session : Session) (event : Event) : Session :=
  { session with
    lines := session.lines ++ session.output.write (event.within session.context.entries) }

def writingName : String := "method_name"

/-- The field that takes the place of the record of a plain message. -/
def recordName : String := "_record"

def bound? (session : Session) (event : Event) (name : String) : Option Value :=
  (event.field? name).or (session.context.get? name)

/-- Log an event whose name is a template.  Events below the threshold are not
filled in. -/
def logEvent (session : Session) (event : Event) (arguments : List Value) :
    Session × Except Trouble SessionAnswer :=
  let fail (failure : Failure) : Session × Except Trouble SessionAnswer :=
    (session, .error (.failure failure))
  if usesCallName event.fields then fail .wrongType
  else if event.level.number < session.output.threshold then (session, .ok .nothing)
  else
    match Template.fillValue arguments event.name with
    | .error failure => fail failure
    | .ok name =>
        if (event.field? writingName).isSome then fail .wrongType
        else if (session.bound? event recordName).any fun value => !value.isNull then
          fail .noSuchOperation
        else (session.write { event with name }, .ok .nothing)

mutual

def step (session : Session) : SessionStep → Session × Except Trouble SessionAnswer
  | .configure configuration =>
      match outputOf session.toBootstrap configuration with
      | (.error trouble, bootstrap) =>
          ({ session with toBootstrap := bootstrap }, .error trouble)
      | (.ok output, bootstrap) =>
          let session := { session with toBootstrap := bootstrap }.install output
          (session, .ok (.configured output.threshold session.handlers))
  | .log event arguments => session.logEvent event arguments
  | .caught failure logger message fields =>
      session.logEvent
        (Event.catching failure.summary { level := .error, logger, name := message, fields }) []
  | .plain level logger message arguments =>
      match Template.fill message arguments with
      | .error _ => (session, .ok .nothing)
      | .ok name => (session.write { level, logger, name := .text name, fields := [] }, .ok .nothing)
  | .context fields body =>
      let bound := Mapping.ofList fields
      let (inside, outcome) :=
        steps { session with context := Context.enter bound session.context } body
      let context := Context.leave bound session.context inside.context
      ({ inside with context }, outcome.map fun () => .context context.entries)
  | .silent none => (session, .ok .nothing)
  | .silent (some failure) => (session, .error (.failure failure))

/-- Steps one after another, up to the first that fails. -/
def steps (session : Session) : List SessionStep → Session × Except Trouble Unit
  | [] => (session, .ok ())
  | first :: rest =>
      match step session first with
      | (session, .error trouble) => (session, .error trouble)
      | (session, .ok _) => steps session rest

end

structure Entry where
  answer : Except Trouble SessionAnswer
  lines : List Line

def run (session : Session) : List SessionStep → List Entry
  | [] => []
  | first :: rest =>
      let (next, answer) := step { session with lines := [] } first
      { answer, lines := next.lines } :: run next rest

end Session

end DiscoveryClient.Log
