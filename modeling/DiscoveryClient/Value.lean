import DiscoveryClient.Number.Numeral
import DiscoveryClient.Number.Shortest
import DiscoveryClient.Text.Quoted

/-!
# Dynamic values

Property stores, error details and log fields hold values of any shape.  A
value has two texts: `literal` shows its kind, with text between quotes, and
`display` is the same except that a text stands for itself.

Both write every integer out.  Integers with more digits than numerals may have
are held and compared, but never written: a value that would show one has no
text, and `text?` is `display` for the others.
-/

namespace DiscoveryClient

inductive Value where
  | null
  | bool (value : Bool)
  | int (value : Int)
  | float (value : Double)
  | text (value : String)
  | list (items : List Value)
  | tuple (items : List Value)
  | dict (entries : List (String × Value))
  deriving Inhabited, Repr

namespace Value

/-- Texts one after another, with `, ` between neighbours. -/
def commaSeparated : List String → String
  | [] => ""
  | [item] => item
  | item :: next :: rest => item ++ ", " ++ commaSeparated (next :: rest)

mutual

/-- The text that shows the kind of the value. -/
def literal : Value → String
  | .null => "None"
  | .bool true => "True"
  | .bool false => "False"
  | .int value => toString value
  | .float value => value.text
  | .text value => Text.quoted value
  | .list items => "[" ++ commaSeparated (literals items) ++ "]"
  | .tuple [item] => "(" ++ literal item ++ ",)"
  | .tuple items => "(" ++ commaSeparated (literals items) ++ ")"
  | .dict entries => "\x7b" ++ commaSeparated (entryLiterals entries) ++ "\x7d"

def literals : List Value → List String
  | [] => []
  | item :: rest => literal item :: literals rest

def entryLiterals : List (String × Value) → List String
  | [] => []
  | (key, value) :: rest => (Text.quoted key ++ ": " ++ literal value) :: entryLiterals rest

end

/-- The text that stands for the value where text is wanted. -/
def display : Value → String
  | .text value => value
  | value => value.literal

mutual

/-- No integer in the value has too many digits, its sign aside. -/
def isWritable : Value → Bool
  | .int value => (Nat.toDigits 10 value.natAbs).length ≤ Numeral.maxIntegerDigits
  | .list items | .tuple items => areWritable items
  | .dict entries => entriesAreWritable entries
  | _ => true

def areWritable : List Value → Bool
  | [] => true
  | item :: rest => isWritable item && areWritable rest

def entriesAreWritable : List (String × Value) → Bool
  | [] => true
  | (_, value) :: rest => isWritable value && entriesAreWritable rest

end

/-- The text of the value, unless an integer in it has too many digits. -/
def text? (value : Value) : Option String :=
  if value.isWritable then some value.display else none

def isNull : Value → Bool
  | .null => true
  | _ => false

/-- A value that says something: neither null nor false, not zero, and not empty. -/
def isFilled : Value → Bool
  | .null => false
  | .bool value => value
  | .int value => value != 0
  | .float value => !value.isZero
  | .text value => value != ""
  | .list items | .tuple items => !items.isEmpty
  | .dict entries => !entries.isEmpty

/-- The value, if it says something. -/
def filled? (value : Value) : Option Value :=
  if value.isFilled then some value else none

/-- The items that a value runs through: those of a list, the characters of a
text, the names of a mapping. -/
def elements? : Value → Option (List Value)
  | .list items | .tuple items => some items
  | .text value => some (value.toList.map fun c => .text (String.singleton c))
  | .dict entries => some (entries.map fun entry => .text entry.1)
  | _ => none

mutual

/-- A value that never changes, so that it can be looked up. -/
def isFixed : Value → Bool
  | .list _ | .dict _ => false
  | .tuple items => areFixed items
  | _ => true

def areFixed : List Value → Bool
  | [] => true
  | item :: rest => isFixed item && areFixed rest

end

/-- The texts of a list. -/
def texts (items : List String) : Value :=
  .list (items.map .text)

/-- A text, or nothing. -/
def ofText? : Option String → Value
  | some value => .text value
  | none => .null

@[simp] theorem display_text (value : String) : display (.text value) = value := rfl

@[simp] theorem text?_text (value : String) : text? (.text value) = some value := rfl

theorem text?_eq_none_iff {value : Value} : value.text? = none ↔ value.isWritable = false := by
  simp [text?]

theorem text?_eq_some_iff {value : Value} {text : String} :
    value.text? = some text ↔ value.isWritable = true ∧ value.display = text := by
  simp [text?]

@[simp] theorem filled?_null : filled? .null = none := rfl

@[simp] theorem elements?_texts (items : List String) :
    elements? (texts items) = some (items.map .text) := rfl

end Value

end DiscoveryClient
