import DiscoveryClient.FileTree
import DiscoveryClient.Path.Home
import DiscoveryClient.Properties.Binding
import DiscoveryClient.Properties.Interpolation
import DiscoveryClient.Settings.Options
import DiscoveryClient.Settings.Secrets

/-!
# Sources of the bootstrap settings

Each field is set by the first of five sources that has a value for it: a command
line, an argument, an environment variable, a line of a settings file, or a secret.
Names are compared without regard to letter case.  A settings file may refer to
environment variables and to its own earlier lines.
-/

namespace DiscoveryClient

/-- The sources; settings files and secrets are looked up in a working directory. -/
structure SettingSources where
  arguments : List (String × Value) := []
  environment : Mapping String := .empty
  tree : FileTree := {}
  deriving Inhabited

namespace SettingSources

inductive Problem where
  | refused (failure : Failure)
  | invalid (violations : Settings.Violations)

def locate (sources : SettingSources) (value : Value) : Except Failure Path := do
  (Path.ofText (← value.toText)).expandHome sources.environment

/-! ## Settings files -/

/-- Expand the values one after another.  A reference means an earlier line of
the file, or else an environment variable. -/
def expandLines (environment : Mapping String) :
    Mapping (Option String) → List (String × Option String) → Mapping (Option String)
  | done, [] => done
  | done, (name, value) :: rest =>
      let look (name : String) : Option String :=
        match done.get? name with
        | some value => some (value.getD "")
        | none => environment.get? name
      let value := value.map fun text =>
        String.ofList (Interpolation.expand look text.toList)
      expandLines environment (done.insert name value) rest

def unreadable (problem : Text.Unreadable) : Failure :=
  if problem.isAboutBytes then .undecodableFile problem.message
  else .foreign "UnicodeError" (.text problem.message)

def linesOf (environment : Mapping String) (encoding : Text.Encoding) (bytes : List UInt8) :
    Except Failure (Mapping (Option String)) :=
  ((encoding.decode bytes).mapError unreadable).map fun text =>
    expandLines environment .empty (PropertyText.lines text)

/-- A line by its name; a name alone on its line has no text. -/
abbrev SettingLine := String × Option String

/-- The lines of a file; one that does not exist has none, however it is written. -/
def linesAt (sources : SettingSources) (encoding : Except Failure Text.Encoding) (path : Path) :
    Except Failure (List SettingLine) :=
  match sources.tree.readBytes path with
  | .error fault => .error (.file fault path.text)
  | .ok none => .ok []
  | .ok (some content) => do
      let bytes ← content.mapError SystemReport.failure
      .ok (← linesOf sources.environment (← encoding) bytes).entries

def lines (sources : SettingSources) (options : SettingOptions) :
    Except Failure (List SettingLine) := do
  let files ← (← options.files).mapM fun file => do
    sources.linesAt options.encoding (← sources.locate file)
  .ok files.flatten

/-- Does a line count?  One without a text does, and sets nothing. -/
def counts (options : SettingOptions) (line : SettingLine) : Bool :=
  line.2.all fun text => (options.valueOf? text).isSome

/-- The value of the last line of a field that counts; of names that differ in letter
case alone, that is the last one. -/
def lastValue? (options : SettingOptions) (field : SettingField) (lines : List SettingLine) :
    Option Value :=
  let last := lines.reverse.find? fun line => options.names field line.1 && counts options line
  last.bind fun line => line.2.bind options.valueOf?

/-- The argument of a name, which is the first in any spelling. -/
def argument? (sources : SettingSources) (field : SettingField) : Option Value :=
  (sources.arguments.find? fun entry => Text.lower entry.1 = field.name).map Prod.snd

def environmentValue? (sources : SettingSources) (options : SettingOptions)
    (field : SettingField) : Option Value :=
  lastValue? options field (sources.environment.entries.map fun (name, text) => (name, some text))

def secrets (sources : SettingSources) (options : SettingOptions) :
    Except Failure (List (SettingField × String)) := do
  Secrets.all sources.tree options (← (← options.secrets).mapM sources.locate)

structure Contents where
  lines : List SettingLine := []
  command : CommandLine.Reading := {}
  secrets : List (SettingField × String) := []

/-- Read the settings files, the command line and the secrets, in this order. -/
def contents (sources : SettingSources) (options : SettingOptions) : Except Failure Contents := do
  let lines ← sources.lines options
  let command ← options.commandLine
  options.nameless.elim (.ok ()) .error
  .ok { lines, command, secrets := ← sources.secrets options }

def raw (sources : SettingSources) (options : SettingOptions) (contents : Contents)
    (field : SettingField) : Value :=
  let values :=
    [ options.commandValue? contents.command field,
      sources.argument? field,
      sources.environmentValue? options field,
      lastValue? options field contents.lines,
      (contents.secrets.lookup field).map Value.text ]
  (values.findSome? id).getD field.default

/-- The raw values of all fields, unless a source cannot be read. -/
def gather (sources : SettingSources) : Except Failure (SettingField → Value) := do
  let options ← SettingOptions.ofArguments sources.arguments
  .ok (sources.raw options (← sources.contents options))

def settings (sources : SettingSources) : Except Problem Settings := do
  (Settings.validate (← sources.gather.mapError .refused)).mapError .invalid

end SettingSources

end DiscoveryClient
