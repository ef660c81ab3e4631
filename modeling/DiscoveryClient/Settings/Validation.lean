import DiscoveryClient.Failure
import DiscoveryClient.Number.Numeral

/-!
# Bootstrap settings

The few values that are needed before any property can be read.  Each field is
validated by itself: `Settings.validate` either gives settings whose level and
format are in their normal letter case, or one violation for each field that
cannot be accepted, in the order of the fields.
-/

namespace DiscoveryClient

structure Settings where
  /-- The first part of every property key. -/
  scope : String
  /-- The name of the property files. -/
  filesName : String
  environment : String
  directory : String
  watchSeconds : Double
  logLevel : String
  logFormat : String
  deriving DecidableEq, Inhabited

inductive SettingField where
  | scope
  | filesName
  | environment
  | directory
  | watchSeconds
  | logLevel
  | logFormat
  deriving DecidableEq, Repr, Inhabited

namespace SettingField

def all : List SettingField :=
  [.scope, .filesName, .environment, .directory, .watchSeconds, .logLevel, .logFormat]

/-- The name of the field as an argument. -/
def name : SettingField → String
  | .scope => "namespace"
  | .filesName => "props_name"
  | .environment => "environment"
  | .directory => "config_dir"
  | .watchSeconds => "watch_interval_seconds"
  | .logLevel => "log_level"
  | .logFormat => "log_format"

/-- The value of a field that no source sets. -/
def default : SettingField → Value
  | .scope => .text "eureka."
  | .filesName => .text "eureka-client"
  | .environment => .text "test"
  | .directory => .text "."
  | .watchSeconds => .float .zero
  | .logLevel => .text "INFO"
  | .logFormat => .text "json"

end SettingField

/-- Why the value of a field is not accepted. -/
inductive Violation where
  | notText
  | empty
  | notNumber
  | unreadableNumber
  | negative
  | scopeWithoutDot (scope : String)
  | unknownLevel (level : String)
  | unknownFormat (format : String)
  deriving DecidableEq, Repr

namespace Violation

def kind : Violation → String
  | .notText => "string_type"
  | .empty => "string_too_short"
  | .notNumber => "float_type"
  | .unreadableNumber => "float_parsing"
  | .negative => "greater_than_equal"
  | .scopeWithoutDot _ | .unknownLevel _ | .unknownFormat _ => "value_error"

def message : Violation → String
  | .notText => "Input should be a valid string"
  | .empty => "String should have at least 1 character"
  | .notNumber => "Input should be a valid number"
  | .unreadableNumber => "Input should be a valid number, unable to parse string as a number"
  | .negative => "Input should be greater than or equal to 0"
  | .scopeWithoutDot scope =>
      "Value error, namespace must be empty or end with '.', got " ++ Text.quoted scope
  | .unknownLevel level =>
      "Value error, log_level must be one of " ++
        "['CRITICAL', 'DEBUG', 'ERROR', 'INFO', 'WARNING'], got " ++ Text.quoted level
  | .unknownFormat format =>
      "Value error, log_format must be one of \x7b'console', 'json'\x7d, got " ++
        Text.quoted format

end Violation

namespace Settings

/-! ## Fields -/

def levelNames : List String :=
  ["DEBUG", "INFO", "WARNING", "ERROR", "CRITICAL"]

def formatNames : List String :=
  ["json", "console"]

def asText : Value → Except Violation String
  | .text text => .ok text
  | _ => .error .notText

def nonEmpty (text : String) : Except Violation String :=
  if text = "" then .error .empty else .ok text

/-- A scope is empty or ends with a dot. -/
def checkScope (scope : String) : Except Violation String :=
  if scope = "" ∨ scope.toList.getLast? = some '.' then .ok scope
  else .error (.scopeWithoutDot scope)

/-- A level is the name of one, in any letter case. -/
def checkLevel (level : String) : Except Violation String :=
  if levelNames.contains (Text.upper level) then .ok (Text.upper level)
  else .error (.unknownLevel level)

/-- A format is the name of one, in any letter case. -/
def checkFormat (format : String) : Except Violation String :=
  if formatNames.contains (Text.lower format) then .ok (Text.lower format)
  else .error (.unknownFormat format)

/-- Numbers and truth values stand for themselves, texts for what they denote. -/
def asNumber : Value → Except Violation Double
  | .bool value => .ok (if value then .one else .zero)
  | .int value => (Double.ofInt? value).elim (.error .notNumber) .ok
  | .float value => .ok value
  | .text text => (Numeral.setting? text.toList).elim (.error .unreadableNumber) .ok
  | _ => .error .notNumber

/-- A waiting time is not less than zero. -/
def checkSeconds (seconds : Double) : Except Violation Double :=
  if seconds.isNonNegative then .ok seconds else .error .negative

def scopeOf (raw : Value) : Except Violation String := asText raw >>= checkScope

def nameOf (raw : Value) : Except Violation String := asText raw >>= nonEmpty

def secondsOf (raw : Value) : Except Violation Double := asNumber raw >>= checkSeconds

def levelOf (raw : Value) : Except Violation String := asText raw >>= checkLevel

def formatOf (raw : Value) : Except Violation String := asText raw >>= checkFormat

/-! ## Validation -/

/-- The violation of one field, if its value is not accepted. -/
def violation? (field : SettingField) (raw : Value) : Option Violation :=
  let found {α : Type} : Except Violation α → Option Violation
    | .ok _ => none
    | .error violation => some violation
  match field with
  | .scope => found (scopeOf raw)
  | .filesName | .environment => found (nameOf raw)
  | .directory => found (asText raw)
  | .watchSeconds => found (secondsOf raw)
  | .logLevel => found (levelOf raw)
  | .logFormat => found (formatOf raw)

abbrev Violations := List (SettingField × Violation)

/-- The violations of all fields, in order. -/
def violations (raw : SettingField → Value) : Violations :=
  SettingField.all.filterMap fun field => (violation? field (raw field)).map (field, ·)

/-- The settings that raw values stand for, when every field accepts its value. -/
def build (raw : SettingField → Value) : Except Violation Settings := do
  let scope ← scopeOf (raw .scope)
  let filesName ← nameOf (raw .filesName)
  let environment ← nameOf (raw .environment)
  let directory ← asText (raw .directory)
  let watchSeconds ← secondsOf (raw .watchSeconds)
  let logLevel ← levelOf (raw .logLevel)
  let logFormat ← formatOf (raw .logFormat)
  pure { scope, filesName, environment, directory, watchSeconds, logLevel, logFormat }

/-- Settings, or the violations of all fields. -/
def validate (raw : SettingField → Value) : Except Violations Settings :=
  match build raw with
  | .ok settings => .ok settings
  | .error _ => .error (violations raw)

/-- Are the files to be watched? -/
def watches (settings : Settings) : Bool :=
  settings.watchSeconds.isPositive

/-- The settings as a document, under the names of the fields. -/
def document (settings : Settings) : Value :=
  .dict [
    (SettingField.scope.name, .text settings.scope),
    (SettingField.filesName.name, .text settings.filesName),
    (SettingField.environment.name, .text settings.environment),
    (SettingField.directory.name, .text settings.directory),
    (SettingField.watchSeconds.name, .float settings.watchSeconds),
    (SettingField.logLevel.name, .text settings.logLevel),
    (SettingField.logFormat.name, .text settings.logFormat),
    ("watch_enabled", .bool settings.watches)]

/-- The settings when no source sets anything. -/
def initial : Settings where
  scope := "eureka."
  filesName := "eureka-client"
  environment := "test"
  directory := "."
  watchSeconds := .zero
  logLevel := "INFO"
  logFormat := "json"

end Settings

end DiscoveryClient
