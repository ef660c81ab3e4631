import DiscoveryClient.Number.Double
import DiscoveryClient.Text.Blank
import DiscoveryClient.Text.Digit
import DiscoveryClient.Text.Letter

/-!
# Numerals

Texts that denote numbers.  Integer text is an optional sign and decimal
digits of any script, with single underscores allowed between digits and at
most 4300 digits.  Decimal text adds a point, an exponent and the words for
infinity and NaN; the bootstrap settings read a stricter ASCII variant of it.
-/

namespace DiscoveryClient.Numeral

/-- An optional sign and what follows it. -/
def sign : List Char → Bool × List Char
  | '-' :: rest => (true, rest)
  | '+' :: rest => (false, rest)
  | text => (false, text)

/-! ## Integers -/

/-- Digits with single underscores between them, the text being empty or
beginning with a digit. -/
def integerDigits? : List Char → Option (List Nat)
  | [] => some []
  | c :: rest =>
      match Text.digitValue? c, rest with
      | none, _ => none
      | some digit, '_' :: next :: more =>
          (integerDigits? (next :: more)).map (digit :: ·)
      | some digit, rest => (integerDigits? rest).map (digit :: ·)

/-- Longest integer text that is read. -/
def maxIntegerDigits : Nat := 4300

/-- The integer that a text denotes, blanks at both ends aside. -/
def integer? (text : List Char) : Option Int :=
  let (negative, digits) := sign (Text.trim text)
  match integerDigits? digits with
  | none | some [] => none
  | some figures =>
      if maxIntegerDigits < figures.length then none
      else
        let magnitude : Int := Text.ofDigits figures
        some (if negative then -magnitude else magnitude)

/-! ## Decimals -/

/-- Leading digits of a text and the rest. -/
def takeDigits (value? : Char → Option Nat) : List Char → List Nat × List Char
  | [] => ([], [])
  | c :: rest =>
      match value? c with
      | none => ([], c :: rest)
      | some digit =>
          let (digits, rest) := takeDigits value? rest
          (digit :: digits, rest)

/-- The exponent after the digits, which is zero when there is none. -/
def exponent? (value? : Char → Option Nat) : List Char → Option Int
  | [] => some 0
  | c :: rest =>
      if c = 'e' ∨ c = 'E' then
        let (negative, digits) := sign rest
        match takeDigits value? digits with
        | ([], _) => none
        | (figures, []) =>
            let magnitude : Int := Text.ofDigits figures
            some (if negative then -magnitude else magnitude)
        | _ => none
      else none

/-- Digits with an optional point among or around them, then an exponent. -/
def unsigned? (value? : Char → Option Nat) (negative : Bool) (text : List Char) :
    Option Double :=
  let (whole, rest) := takeDigits value? text
  let (fraction, rest) :=
    match rest with
    | '.' :: rest => takeDigits value? rest
    | rest => ([], rest)
  if whole.isEmpty && fraction.isEmpty then none
  else
    (exponent? value? rest).map fun exponent =>
      Double.ofDecimal negative (Text.ofDigits (whole ++ fraction)) (exponent - fraction.length)

/-- A signed decimal, or a signed word for infinity or NaN in any letter case. -/
def decimal? (value? : Char → Option Nat) (text : List Char) : Option Double :=
  let (negative, magnitude) := sign text
  let word := String.ofList (magnitude.map Char.toLower)
  if word = "inf" ∨ word = "infinity" then some (.infinite negative)
  else if word = "nan" then some (.nan 0)
  else unsigned? value? negative magnitude

/-- Remove single underscores between digits; any other underscore is refused. -/
def joinDigits? : (afterDigit : Bool) → List Char → Option (List Char)
  | _, [] => some []
  | afterDigit, '_' :: rest =>
      match rest with
      | next :: _ =>
          if afterDigit && (Text.digitValue? next).isSome then joinDigits? false rest else none
      | [] => none
  | _, c :: rest => (joinDigits? (Text.digitValue? c).isSome rest).map (c :: ·)

/-- The double that a text denotes, white space at both ends aside. -/
def double? (text : List Char) : Option Double :=
  (joinDigits? false (Text.trimBy Text.isWhiteSpace text)).bind (decimal? Text.digitValue?)

/-- No underscore at either end and no two in a row. -/
def looselyJoined : List Char → Bool
  | [] => true
  | ['_'] => false
  | '_' :: '_' :: _ => false
  | _ :: rest => looselyJoined rest

/-- The double that a setting's text denotes: ASCII digits only.  White space
at both ends is allowed when there is no underscore; single underscores inside
the text are ignored when there is no such white space. -/
def setting? (text : List Char) : Option Double :=
  match decimal? Text.asciiDigitValue? (Text.trimBy Text.isWhiteSpace text) with
  | some double => some double
  | none =>
      if text.head? ≠ some '_' ∧ looselyJoined text = true then
        decimal? Text.asciiDigitValue? (text.filter (· ≠ '_'))
      else none

end DiscoveryClient.Numeral
