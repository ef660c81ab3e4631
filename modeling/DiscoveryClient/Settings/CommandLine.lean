import DiscoveryClient.Settings.Validation
import DiscoveryClient.Text.Blank
import DiscoveryClient.Text.Digit
import DiscoveryClient.Text.Letter

/-!
# Command line of the bootstrap settings

The words of a command line set fields by options: two hyphens and the name of
the field, with the value in the next word or after an equals sign.  Of several
values of one field the last one counts.  A word that is neither an option nor
the value of one is unknown.

`read` gives the values and the unknown words, each in the order of the words.
It fails only at an option without a value.
-/

namespace DiscoveryClient.CommandLine

/-- What the words of a command line say. -/
structure Reading where
  values : List (SettingField × String) := []
  unknown : List String := []
  deriving DecidableEq

/-- Why a command line is refused. -/
inductive Fault where
  | missingValue (field : SettingField)
  | unknownWords (words : List String)
  deriving DecidableEq

/-- The option that sets a field. -/
def optionOf (field : SettingField) : String :=
  "--" ++ field.name

namespace Fault

def message : Fault → String
  | .missingValue field => "argument " ++ optionOf field ++ ": expected one argument"
  | .unknownWords words => "unrecognized arguments: " ++ " ".intercalate words

end Fault

/-! ## Words -/

/-- A word whose option is in lower case.  Of a word that begins with a hyphen, only
the first line counts from the end of the option on. -/
def unifyCase (word : String) : String :=
  let option := word.toList.takeWhile fun c => !(Text.isBlank c || c == '=')
  match option with
  | '-' :: _ :: _ =>
      let rest := (word.toList.drop option.length).takeWhile (· ≠ '\n')
      Text.lower (String.ofList option) ++ String.ofList rest
  | _ => word

/-- The field of an option. -/
def fieldOf? (word : String) : Option SettingField :=
  SettingField.all.find? fun field => optionOf field = word

/-- The field that a word sets, with the value that stands in the word itself. -/
def settingOf? (word : String) : Option (SettingField × Option String) :=
  match fieldOf? word with
  | some field => some (field, none)
  | none =>
      let option := word.toList.takeWhile (· ≠ '=')
      match word.toList.drop option.length with
      | [] => none
      | _ :: value =>
          (fieldOf? (String.ofList option)).map fun field => (field, some (String.ofList value))

/-- Are the characters those of an unsigned number without an exponent? -/
def isUnsigned (text : List Char) : Bool :=
  let areDigits (text : List Char) : Bool := text.all fun c => (Text.digitValue? c).isSome
  let whole := text.takeWhile (· ≠ '.')
  match text.drop whole.length with
  | [] => !whole.isEmpty && areDigits whole
  | _ :: places => areDigits whole && !places.isEmpty && areDigits places

/-- Can a word be the value of the option before it?  One that begins with a hyphen
can be if it is nothing else, a number, or has a space in it and sets nothing. -/
def isValue (word : String) : Bool :=
  match word.toList with
  | [] | ['-'] => true
  | '-' :: rest =>
      word ≠ "--" && (settingOf? word).isNone && (isUnsigned rest || rest.contains ' ')
  | _ => true

/-! ## Reading -/

namespace Reading

def addValue (field : SettingField) (value : String) (reading : Reading) : Reading :=
  { reading with values := (field, value) :: reading.values }

def addUnknown (word : String) (reading : Reading) : Reading :=
  { reading with unknown := word :: reading.unknown }

/-- The last value of a field. -/
def value? (reading : Reading) (field : SettingField) : Option String :=
  reading.values.reverse.lookup field

end Reading

/-- Read words.  No options stand after a word of two hyphens. -/
def read : List String → Except Fault Reading
  | [] => .ok {}
  | [word] =>
      match settingOf? word with
      | none => .ok { unknown := [word] }
      | some (field, some value) => .ok { values := [(field, value)] }
      | some (field, none) => .error (.missingValue field)
  | word :: next :: rest =>
      if word = "--" then .ok { unknown := word :: next :: rest }
      else
        match settingOf? word with
        | none => (read (next :: rest)).map (·.addUnknown word)
        | some (field, some value) => (read (next :: rest)).map (·.addValue field value)
        | some (field, none) =>
            if isValue next then (read rest).map (·.addValue field next)
            else .error (.missingValue field)

/-- Read words of which none may be unknown. -/
def readAll (words : List String) : Except Fault Reading := do
  let reading ← read words
  if reading.unknown.isEmpty then .ok reading else .error (.unknownWords reading.unknown)

end DiscoveryClient.CommandLine
