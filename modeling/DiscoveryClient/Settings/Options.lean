import DiscoveryClient.Failure
import DiscoveryClient.Path
import DiscoveryClient.Settings.CommandLine
import DiscoveryClient.Text.Encoding

/-!
# Options of the bootstrap settings

Variables and settings files are read in one way, and there are neither secrets
nor a command line, unless arguments ask for something else.  The arguments that do
so have names of their own, which begin with a low line and are never the names of
fields.

What such an argument asks for may make no sense.  That is found out only when it
is made use of, so the options keep the failure until then.
-/

namespace DiscoveryClient

def SettingOptions.filePath : Path := .ofText ".env"

structure SettingOptions where
  lead : String := "DISCOVERY_"
  /-- Why variables cannot have names, if they cannot. -/
  nameless : Option Failure := none
  /-- The settings files, of which a later one overrides an earlier one. -/
  files : Except Failure (List Value) := .ok [.text SettingOptions.filePath.text]
  encoding : Except Failure Text.Encoding := .ok (.utf8 false)
  secrets : Except Failure (List Value) := .ok []
  /-- Is a variable with an empty text taken for none? -/
  skipsEmpty : Bool := false
  isExact : Bool := false
  /-- The text of a variable that stands for null. -/
  nullText : Option Value := none
  commandLine : Except Failure CommandLine.Reading := .ok {}
  /-- The value on the command line that stands for null. -/
  nullWord : Value := .text "null"
  deriving Inhabited

namespace SettingOptions

def noValue (field : SettingField) (source : String) : Failure :=
  .foreign "SettingsError" (.text
    ("error getting value for field \"" ++ field.name ++ "\" from source \"" ++ source ++ "\""))

/-- What the names of variables begin with, and why there are no names if there are
none.  Only a value that has a length is taken at first. -/
def leadOf : Value → Except Failure (String × Option Failure)
  | .text lead => .ok (lead, none)
  | value =>
      if value.elements?.isSome then .ok ("", some (noValue .scope "EnvSettingsSource"))
      else .error .wrongType

/-- Is a value asked for that no number of parts can be?  Names have no parts, so
that any number is followed. -/
def isNoCount (value : Option Value) : Bool :=
  (value.bind Value.filled?).any fun value => value.elements?.isSome

def pathsOf : Value → Except Failure (List Value)
  | .null => .ok []
  | .text path => .ok [.text path]
  | value => value.elements?.elim (.error .wrongType) .ok

def encodingOf : Value → Except Failure Text.Encoding
  | .text name =>
      (Text.Encoding.ofName name).mapError fun fault =>
        if fault = .embeddedNull then .refusedValue fault.message
        else .foreign "LookupError" (.text fault.message)
  | _ => .error .wrongType

/-- The words that a value is; nothing and a flag are none.  An item that says
nothing is the empty word. -/
def wordsOf (value : Value) : Except Failure (List String) :=
  let refusal (type : String) : Except Failure (List String) :=
    .error (.foreign "SettingsError" (.text
      ("cli_parse_args must be a list or tuple of strings, received <class '" ++ type ++ "'>")))
  match value with
  | .null | .bool _ => .ok []
  | .int number => if number = 0 then .ok [] else refusal "int"
  | .float number => if number.isZero then .ok [] else refusal "float"
  | .text _ => refusal "str"
  | .dict _ => refusal "dict"
  | .list items | .tuple items =>
      items.mapM fun item =>
        match item with
        | .text word => .ok word
        | item => if item.isFilled then .error .wrongType else .ok ""

/-- The failure of a command line that is refused: the end of the program, or of
the settings alone. -/
def commandFailure (endsProgram : Bool) (fault : CommandLine.Fault) : Failure :=
  if endsProgram then .foreign "SystemExit" (.int 2)
  else .foreign "SettingsError" (.text ("error parsing CLI: " ++ fault.message))

def commandLineOf (isExact isLenient endsProgram : Bool) (value : Value) :
    Except Failure CommandLine.Reading := do
  let words ← wordsOf value
  let words := if isExact then words else words.map CommandLine.unifyCase
  (if isLenient then CommandLine.read words else CommandLine.readAll words).mapError
    (commandFailure endsProgram)

/-- The options that arguments ask for; an option that is null is not asked for,
except for the files. -/
def ofArguments (arguments : List (String × Value)) : Except Failure SettingOptions := do
  let asked? (name : String) : Option Value :=
    (arguments.lookup name).filter fun value => !value.isNull
  let isOn (name : String) : Bool := (asked? name).any Value.isFilled
  let isExact := isOn "_case_sensitive"
  let endsProgram := (asked? "_cli_exit_on_error").all Value.isFilled
  let standard : SettingOptions := {}
  if isNoCount (asked? "_env_nested_max_split") then .error .wrongType
  let (lead, nameless) ← (asked? "_env_prefix").elim (.ok (standard.lead, none)) leadOf
  .ok {
    lead
    nameless
    files := (arguments.lookup "_env_file").elim standard.files pathsOf
    encoding := (asked? "_env_file_encoding").elim standard.encoding encodingOf
    secrets := (asked? "_secrets_dir").elim standard.secrets pathsOf
    skipsEmpty := isOn "_env_ignore_empty"
    isExact
    nullText := asked? "_env_parse_none_str"
    commandLine := (asked? "_cli_parse_args").elim standard.commandLine
      (commandLineOf isExact (isOn "_cli_ignore_unknown_args") endsProgram)
    nullWord := (((asked? "_env_parse_none_str").bind Value.filled?).or
      ((asked? "_cli_parse_none_str").bind Value.filled?)).getD standard.nullWord }

def names (options : SettingOptions) (field : SettingField) (name : String) : Bool :=
  if options.isExact then name = options.lead ++ field.name
  else Text.lower name = Text.lower (options.lead ++ field.name)

def commandValue? (options : SettingOptions) (reading : CommandLine.Reading)
    (field : SettingField) : Option Value :=
  (reading.value? field).map fun word =>
    match options.nullWord with
    | .text null => if word = null then .null else .text word
    | _ => .text word

def valueOf? (options : SettingOptions) (text : String) : Option Value :=
  if options.skipsEmpty && text = "" then none
  else
    match options.nullText with
    | some (.text null) => some (if text = null then .null else .text text)
    | _ => some (.text text)

@[simp] theorem valueOf?_standard (text : String) :
    ({} : SettingOptions).valueOf? text = some (.text text) := rfl

end SettingOptions

end DiscoveryClient
