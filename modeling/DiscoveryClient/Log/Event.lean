import DiscoveryClient.Failure
import DiscoveryClient.Text.Letter
import DiscoveryClient.Value

/-!
# Log events

An event has a level, the name of its logger, a dotted name of its own and
fields.  What is written for it hides the values of secret-looking fields, and
gives the level, the logger and the event's name precedence over fields of
those names.  An event whose name is null has none of its own and takes one from
the fields around it.

An event may be logged while a failure is handled.  It then shows the failure in
its field `exception`, unless its field `exc_info` says otherwise; that field is
never written itself.
-/

namespace DiscoveryClient.Log

inductive Level where
  | debug
  | info
  | warning
  | error
  | critical
  deriving DecidableEq, Repr, Inhabited

namespace Level

def all : List Level :=
  [.debug, .info, .warning, .error, .critical]

def name : Level → String
  | .debug => "debug"
  | .info => "info"
  | .warning => "warning"
  | .error => "error"
  | .critical => "critical"

/-- Severity on the scale of log thresholds. -/
def number : Level → Nat
  | .debug => 10
  | .info => 20
  | .warning => 30
  | .error => 40
  | .critical => 50

/-- The level that a logger's operation of a name logs at. -/
def ofOperation? : String → Option Level
  | "debug" => some .debug
  | "info" | "msg" => some .info
  | "warning" | "warn" => some .warning
  | "error" | "exception" => some .error
  | "critical" | "fatal" => some .critical
  | _ => none

/-- The highest level that a severity reaches, and the lowest for those below. -/
def ofNumber (severity : Int) : Level :=
  ((all.reverse.find? fun level => level.number ≤ severity)).getD .debug

end Level

abbrev Field := String × Value

structure Event where
  level : Level
  logger : String
  /-- A dotted text as a rule. -/
  name : Value
  fields : List Field
  /-- The line that stands for the failure that is being handled. -/
  caught : Option String := none
  deriving Inhabited

/-! ## Secrets -/

/-- Endings of the names whose values are secret, in lower case. -/
def secretEndings : List String :=
  ["password", "passwd", "secret"]

def isSecret (name : String) : Bool :=
  secretEndings.any fun ending => ending.toList.isSuffixOf (Text.lower name).toList

/-- What is written in place of a secret value. -/
def redacted : Value := .text "[REDACTED]"

def redactField (field : Field) : Field :=
  if isSecret field.1 then (field.1, redacted) else field

/-- Hide the values of secret fields and keep everything else as it is. -/
def redact (fields : List Field) : List Field :=
  fields.map redactField

/-- Hide secret values among entries whose names may be any values.  Names must be
values that never change, and then texts. -/
def redactEntries (entries : List (Value × Value)) : Except Failure (List Field) :=
  if !entries.all fun entry => entry.1.isFixed then .error .wrongType
  else
    let named := entries.filterMap fun entry =>
      match entry.1 with
      | .text name => some (name, entry.2)
      | _ => none
    if named.length < entries.length then .error .noSuchOperation
    else .ok (redact (Mapping.ofList named).entries)

@[simp] theorem redactField_fst (field : Field) : (redactField field).1 = field.1 := by
  unfold redactField
  split <;> rfl

theorem redactField_idem (field : Field) :
    redactField (redactField field) = redactField field := by
  unfold redactField
  split <;> simp_all

/-! ## Context -/

/-- Add the fields of a context, except those that the event has itself. -/
def Event.within (context : List Field) (event : Event) : Event :=
  { event with
    fields := event.fields ++
      context.filter fun field => !(event.fields.map Prod.fst).contains field.1 }

@[simp] theorem Event.within_nil (event : Event) : event.within [] = event := by
  simp [within]

/-! ## Failures -/

/-- The field that asks for the failure that is being handled. -/
def askingField : String := "exc_info"

/-- The field that shows it. -/
def exceptionField : String := "exception"

def Event.field? (event : Event) (name : String) : Option Value :=
  event.fields.lookup name

/-- The event asking for the failure, unless it has an answer of its own. -/
def Event.asking (event : Event) : Event :=
  { event with
    fields := event.fields ++
      if (event.field? askingField).isSome then [] else [(askingField, .bool true)] }

/-- The event as logged while a failure is handled. -/
def Event.catching (summary : String) (event : Event) : Event :=
  { event.asking with caught := some summary }

/-- Does the event ask for the failure that is being handled? -/
def Event.asksForFailure (event : Event) : Bool :=
  (event.field? askingField).any Value.isFilled

/-- The failure that the event shows. -/
def Event.shownFailure? (event : Event) : Option String :=
  if event.asksForFailure then event.caught else none

/-- What the event shows as its exception. -/
def Event.exception? (event : Event) : Option Value :=
  (event.shownFailure?.map .text).or (event.field? exceptionField)

/-! ## Writing -/

/-- The field that the name of an event is written in. -/
def nameField : String := "event"

/-- Names that an event fills in itself. -/
def reservedNames : List String :=
  [nameField, "level", "logger", "timestamp"]

/-- Names of the bookkeeping between a logger and its output. -/
def internalNames : List String :=
  ["_record", "_from_structlog", askingField]

/-- The fields that are written as they are, secret ones apart. -/
def Event.plainFields (event : Event) : List Field :=
  redact (event.fields.filter fun field =>
    !(reservedNames ++ internalNames ++ [exceptionField]).contains field.1)

/-- The fields that are written beside the event's own name, level and logger. -/
def Event.writtenFields (event : Event) : List Field :=
  event.plainFields ++ (event.exception?.map (exceptionField, ·)).toList

/-- The name that is written, if there is one. -/
def Event.writtenName? (event : Event) : Option Value :=
  if event.name.isNull then event.field? nameField else some event.name

/-- What is written of the event, apart from its time. -/
def Event.entries (event : Event) : List Field :=
  (event.writtenName?.map (nameField, ·)).toList ++
    [("level", .text event.level.name), ("logger", .text event.logger)] ++ event.writtenFields

/-- The event as a document. -/
def Event.document (event : Event) : Value :=
  .dict event.entries

end DiscoveryClient.Log
