import DiscoveryClient.Log.Event

/-!
# Written log lines

An event is written as a record of its fields, or as a coloured line for a
terminal: the time, the level, the name of the event if it has one, its logger,
and the fields in alphabetical order.  A field without a name leads the line.  A stack
and an exception stand on lines of their own behind it; they must be texts, or
nothing is written at all.
-/

namespace DiscoveryClient.Log

/-- A line of the log. -/
inductive Line where
  | record (event : Event)
  | console (text : String)

/-- What a line shows, apart from the time of a record. -/
def Line.shown : Line → Value
  | .record event => event.document
  | .console text => .text text

namespace Console

/-- Stands for the time at which the line was written. -/
def time : String := "<time>"

def escape (code : String) : String := "\x1b[" ++ code ++ "m"

def reset : String := escape "0"

def bold : String := escape "1"

def levelColour : Level → String
  | .debug | .info => escape "32"
  | .warning => escape "33"
  | .error | .critical => escape "31"

/-- Fill up with spaces to a width. -/
def padRight (width : Nat) (text : String) : String :=
  text ++ String.ofList (List.replicate (width - text.length) ' ')

/-- Characters that put a text between quotes. -/
def needsQuotes (c : Char) : Bool :=
  [' ', '\t', '=', '\r', '\n', '"', '\''].contains c

def valueText : Value → String
  | .text text => if text.toList.any needsQuotes then Text.quoted text else text
  | value => value.literal

def fieldText (field : Field) : String :=
  escape "36" ++ field.1 ++ reset ++ "=" ++ escape "35" ++ valueText field.2 ++ reset

def nameText (name : Value) : String :=
  bold ++ padRight 30 name.display ++ reset

/-- The name of a logger between brackets. -/
def loggerText (name : String) : String :=
  "[" ++ reset ++ bold ++ escape "34" ++ name ++ reset ++ "]" ++ reset

/-- The field without a name, which leads the line. -/
def leadingField : String := ""

/-- The field that is shown like a logger. -/
def loggerField : String := "logger_name"

/-- The field that is written on lines of its own. -/
def stackField : String := "stack"

/-- The fields in the line behind the loggers, in alphabetical order. -/
def lineFields (event : Event) : List Field :=
  (event.plainFields.filter fun field =>
    !([leadingField, loggerField, stackField].contains field.1)).mergeSort
      fun left right => left.1 ≤ right.1

/-- The line of an event. -/
def line (event : Event) : String :=
  let field? (name : String) : List Value := (event.plainFields.lookup name).toList
  " ".intercalate
    ((field? leadingField).map (fun value => fieldText (leadingField, value)) ++
      [ escape "2" ++ time ++ reset,
        "[" ++ levelColour event.level ++ bold ++ padRight 9 event.level.name ++ reset ++ "]" ] ++
      (event.writtenName?.map nameText).toList ++
      [loggerText event.logger] ++
      (field? loggerField).map (fun value => loggerText value.display) ++
      (lineFields event).map fieldText)

/-- The text of a field for lines of its own; there is none if the value is absent
or null, and any value but a text is refused. -/
def ownText? : Option Value → Option (Option String)
  | none | some .null => some none
  | some (.text text) => some (some text)
  | some _ => none

/-- Stands between a stack and an exception. -/
def divider : String :=
  "\n\n" ++ String.ofList (List.replicate 79 '=') ++ "\n"

/-- What stands behind the line of an event. -/
def detail? (event : Event) : Option String := do
  let stack ← ownText? (event.plainFields.lookup stackField)
  let exception ← ownText? event.exception?
  let isDivided := event.asksForFailure || ((event.field? exceptionField).any fun value => !value.isNull)
  let own (text : String) : String := "\n" ++ text
  some ((stack.map fun stack => own stack ++ if isDivided then divider else "").getD "" ++
    (exception.map own).getD "")

/-- The lines of an event. -/
def lines (event : Event) : List String :=
  match detail? event with
  | some detail => (line event ++ detail).splitOn "\n"
  | none => []

end Console

end DiscoveryClient.Log
