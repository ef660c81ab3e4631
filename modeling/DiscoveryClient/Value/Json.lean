import DiscoveryClient.Mapping
import DiscoveryClient.Number.Numeral
import DiscoveryClient.Value

/-!
# Values as JSON text

Values are exchanged as JSON text.  Written text is ASCII: every other
character is written as one or two escaped code units.  Entries keep their
order in both directions, and of several entries of one key the last is read.
Tuples are written as lists.  Doubles that are no decimals have names of their
own, in both directions.
-/

namespace DiscoveryClient.Json

/-! ## Writing -/

/-- One code unit as an escape. -/
def unitEscape (unit : Nat) : List Char :=
  '\\' :: 'u' :: Text.hexDigits 4 unit

/-- Characters with an escape of their own, and the letters of their escapes. -/
def shortEscapes : List (Char × Char) :=
  [ ('"', '"'), ('\\', '\\'), ('\n', 'n'), ('\r', 'r'), ('\t', 't'), ('\x08', 'b'),
    ('\x0c', 'f') ]

def escapeChar (c : Char) : List Char :=
  match shortEscapes.lookup c with
  | some letter => ['\\', letter]
  | none =>
      if ' ' ≤ c ∧ c ≤ '~' then [c]
      else if c.toNat < 0x10000 then unitEscape c.toNat
      else
        let offset := c.toNat - 0x10000
        unitEscape (0xd800 + offset / 0x400) ++ unitEscape (0xdc00 + offset % 0x400)

def stringText (text : String) : String :=
  String.ofList ('"' :: (text.toList.flatMap escapeChar ++ ['"']))

def numberText : Double → String
  | .nan _ => "NaN"
  | .infinite true => "-Infinity"
  | .infinite false => "Infinity"
  | number => number.text

mutual

/-- The JSON text of a value. -/
def text : Value → String
  | .null => "null"
  | .bool true => "true"
  | .bool false => "false"
  | .int value => toString value
  | .float value => numberText value
  | .text value => stringText value
  | .list items | .tuple items => "[" ++ Value.commaSeparated (itemTexts items) ++ "]"
  | .dict entries => "\x7b" ++ Value.commaSeparated (entryTexts entries) ++ "\x7d"

def itemTexts : List Value → List String
  | [] => []
  | item :: rest => text item :: itemTexts rest

def entryTexts : List (String × Value) → List String
  | [] => []
  | (key, value) :: rest => (stringText key ++ ": " ++ text value) :: entryTexts rest

end

/-! ## Reading -/

def isBlank (c : Char) : Bool :=
  [' ', '\t', '\n', '\r'].contains c

def hexDigitValue? (c : Char) : Option Nat :=
  (Text.asciiDigitValue? c).or
    (if 'a' ≤ c ∧ c ≤ 'f' then some (c.toNat - 87)
      else if 'A' ≤ c ∧ c ≤ 'F' then some (c.toNat - 55)
      else none)

/-- The number that hexadecimal digits denote. -/
def hexValue (digits : List Char) : Nat :=
  (digits.filterMap hexDigitValue?).foldl (fun value digit => 16 * value + digit) 0

/-- The units of a string up to its closing quote, and what follows it. -/
def stringUnits? : List Char → Option (List Nat × List Char)
  | [] => none
  | '"' :: rest => some ([], rest)
  | '\\' :: 'u' :: a :: b :: c :: d :: rest =>
      (stringUnits? rest).map fun (units, rest) => (hexValue [a, b, c, d] :: units, rest)
  | '\\' :: letter :: rest =>
      let escaped := (shortEscapes.find? fun escape => escape.2 = letter).map Prod.fst
      (stringUnits? rest).map fun (units, rest) => ((escaped.getD letter).toNat :: units, rest)
  | c :: rest => (stringUnits? rest).map fun (units, rest) => (c.toNat :: units, rest)

/-- Join the two halves of each pair of units that stands for one character. -/
def joinUnits : List Nat → List Char
  | [] => []
  | [unit] => [Char.ofNat unit]
  | high :: low :: rest =>
      if 0xd800 ≤ high ∧ high < 0xdc00 ∧ 0xdc00 ≤ low ∧ low < 0xe000 then
        Char.ofNat (0x10000 + (high - 0xd800) * 0x400 + (low - 0xdc00)) :: joinUnits rest
      else Char.ofNat high :: joinUnits (low :: rest)

/-- The rest of a string behind its opening quote. -/
def readString? (text : List Char) : Option (String × List Char) :=
  (stringUnits? text).map fun (units, rest) => (String.ofList (joinUnits units), rest)

def isNumberChar (c : Char) : Bool :=
  (Text.asciiDigitValue? c).isSome || ['-', '+', '.', 'e', 'E'].contains c

/-- A number is an integer unless it has a point or an exponent. -/
def readNumber? (text : List Char) : Option (Value × List Char) :=
  let figures := text.takeWhile isNumberChar
  let rest := text.dropWhile isNumberChar
  if figures.any ['.', 'e', 'E'].contains then
    (Numeral.decimal? Text.asciiDigitValue? figures).map fun value => (.float value, rest)
  else
    let (negative, digits) := Numeral.sign figures
    let magnitude : Int := Text.ofDigits (digits.filterMap Text.asciiDigitValue?)
    some (.int (if negative then -magnitude else magnitude), rest)

/-- What is read where no number is written: the same thing everywhere, and none
that a computation gives. -/
def notANumber : Double := .nan 1

mutual

/-- Read a value, descending no more than `depth` characters. -/
def readValue? : (depth : Nat) → List Char → Option (Value × List Char)
  | 0, _ => none
  | depth + 1, text =>
      match text.dropWhile isBlank with
      | 'n' :: 'u' :: 'l' :: 'l' :: rest => some (.null, rest)
      | 't' :: 'r' :: 'u' :: 'e' :: rest => some (.bool true, rest)
      | 'f' :: 'a' :: 'l' :: 's' :: 'e' :: rest => some (.bool false, rest)
      | 'N' :: 'a' :: 'N' :: rest => some (.float notANumber, rest)
      | 'I' :: 'n' :: 'f' :: 'i' :: 'n' :: 'i' :: 't' :: 'y' :: rest =>
          some (.float (.infinite false), rest)
      | '-' :: 'I' :: 'n' :: 'f' :: 'i' :: 'n' :: 'i' :: 't' :: 'y' :: rest =>
          some (.float (.infinite true), rest)
      | '"' :: rest => (readString? rest).map fun (text, rest) => (.text text, rest)
      | '[' :: rest =>
          match rest.dropWhile isBlank with
          | ']' :: rest => some (.list [], rest)
          | rest => (readItems? depth rest).map fun (items, rest) => (.list items, rest)
      | '\x7b' :: rest =>
          match rest.dropWhile isBlank with
          | '\x7d' :: rest => some (.dict [], rest)
          | rest =>
              (readEntries? depth rest).map fun (entries, rest) =>
                (.dict (Mapping.ofList entries).entries, rest)
      | text => readNumber? text

/-- The items of a list up to its end. -/
def readItems? : (depth : Nat) → List Char → Option (List Value × List Char)
  | 0, _ => none
  | depth + 1, text => do
      let (item, rest) ← readValue? depth text
      match rest.dropWhile isBlank with
      | ']' :: rest => some ([item], rest)
      | ',' :: rest =>
          let (items, rest) ← readItems? depth rest
          some (item :: items, rest)
      | _ => none

/-- The entries of an object up to its end. -/
def readEntries? : (depth : Nat) → List Char → Option (List (String × Value) × List Char)
  | 0, _ => none
  | depth + 1, text =>
      match text.dropWhile isBlank with
      | '"' :: rest => do
          let (key, rest) ← readString? rest
          match rest.dropWhile isBlank with
          | ':' :: rest =>
              let (value, rest) ← readValue? depth rest
              match rest.dropWhile isBlank with
              | '\x7d' :: rest => some ([(key, value)], rest)
              | ',' :: rest =>
                  let (entries, rest) ← readEntries? depth rest
                  some ((key, value) :: entries, rest)
              | _ => none
          | _ => none
      | _ => none

end

/-- The value at the beginning of a text. -/
def read? (text : String) : Option Value :=
  (readValue? (text.length + 1) text.toList).map Prod.fst

end DiscoveryClient.Json
