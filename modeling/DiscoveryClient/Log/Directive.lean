import DiscoveryClient.Failure
import DiscoveryClient.Number.Places
import DiscoveryClient.Number.Quantity

/-!
# Directives of message templates

A directive says how an argument is shown: `s` as it is, `r` with its kind and
`a` the same in ASCII, `d`, `i` and `u` as a whole number, `o` and `x` in base
eight and sixteen, `f`, `e` and `g` as a decimal, `c` as one character.  Capital
letters give capital digits.

Its flags turn the padding to the right side, ask for a sign or a blank before
numbers, for the mark of the base or the decimal point, and for zeros in place of
blanks.  The width is the least length of the text; the precision is the greatest
length of a text, the least number of digits of an integer, and the number of
places of a decimal.
-/

namespace DiscoveryClient.Log

structure Flags where
  toTheLeft : Bool := false
  plus : Bool := false
  blank : Bool := false
  marked : Bool := false
  zeros : Bool := false
  deriving DecidableEq, Repr, Inhabited

namespace Flags

def characters : List Char := ['-', '+', ' ', '#', '0']

/-- The flags that characters stand for, in any order. -/
def ofChars (chars : List Char) : Flags where
  toTheLeft := chars.contains '-'
  plus := chars.contains '+'
  blank := chars.contains ' '
  marked := chars.contains '#'
  zeros := chars.contains '0'

end Flags

structure Directive where
  flags : Flags
  width : Nat
  precision : Option Nat
  letter : Char
  /-- Where the letter stands in the template. -/
  place : Nat
  deriving DecidableEq, Repr, Inhabited

namespace Directive

/-- The parts of a text under a directive: sign, mark of the base, and the rest. -/
structure Parts where
  sign : List Char := []
  mark : List Char := []
  body : List Char
  isNumber : Bool := false

/-! ## Whole numbers -/

def truncate : Double → Except Failure Int
  | .nan _ => .error (.refusedValue "cannot convert float NaN to integer")
  | .infinite _ => .error .outOfRange
  | .finite negative mantissa exponent =>
      let (numerator, denominator) := Double.ratio mantissa exponent
      let whole : Int := numerator / denominator
      .ok (if negative then -whole else whole)

def whole : Value → Except Failure Int
  | .bool value => .ok (if value then 1 else 0)
  | .int value => .ok value
  | .float value => truncate value
  | _ => .error .wrongType

def integral : Value → Except Failure Int
  | .float _ => .error .wrongType
  | value => whole value

/-- The sign of a number: a minus, or what the flags ask for. -/
def signOf (flags : Flags) (negative : Bool) : List Char :=
  if negative then ['-'] else if flags.plus then ['+'] else if flags.blank then [' '] else []

def maxDigits : Nat := Nat.pow 2 31 - 4

/-- An integer in some base, with at least as many digits as the precision says. -/
def integerParts (directive : Directive) (base : Nat) (mark : List Char) (value : Int) :
    Except Failure Parts :=
  let digits := directive.precision.getD 0
  if maxDigits < digits then .error .outOfRange
  else
    .ok {
      sign := signOf directive.flags (value < 0)
      mark := if directive.flags.marked then mark else []
      body := Shortest.padLeft digits (Nat.toDigits base value.natAbs)
      isNumber := true }

def capital (parts : Parts) : Parts :=
  { parts with
    mark := parts.mark.map Char.toUpper
    body := parts.body.map Char.toUpper }

/-! ## Decimals and texts -/

/-- Decimals have six places unless the precision says otherwise. -/
def decimalParts (directive : Directive) (style : Places.Style) (value : Double) : Parts where
  sign := signOf directive.flags value.hasMinus
  body := Places.magnitude style directive.flags.marked (directive.precision.getD 6) value
  isNumber := true

def textParts (directive : Directive) (text : String) : Parts where
  body := text.toList.take (directive.precision.getD text.length)

def characterParts : Value → Except Failure Parts
  | .text text =>
      match text.toList with
      | [c] => .ok { body := [c] }
      | _ => .error .wrongType
  | value => do
      let code ← integral value
      if 0 ≤ code ∧ code < 0x110000 then .ok { body := [Char.ofNat code.toNat] }
      else .error .outOfRange

/-- How messages about templates show a letter. -/
def shownLetter (letter : Char) : Char :=
  if 31 ≤ letter.toNat ∧ letter.toNat ≤ 126 then letter else '?'

/-- An unknown letter is reported with its code and its place in the template. -/
def unknownLetter (letter : Char) (place : Nat) : Failure :=
  .refusedValue ("unsupported format character '" ++ String.singleton (shownLetter letter) ++
    "' (0x" ++ String.ofList (Nat.toDigits 16 letter.toNat) ++ ") at index " ++ toString place)

def parts (directive : Directive) (argument : Value) : Except Failure Parts :=
  let decimal (style : Places.Style) : Except Failure Parts :=
    (Quantity.ofNumber argument).map (decimalParts directive style)
  match directive.letter with
  | 's' => .ok (textParts directive argument.display)
  | 'r' => .ok (textParts directive argument.literal)
  | 'a' => .ok (textParts directive (Text.asciiOnly argument.literal))
  | 'd' | 'i' | 'u' => (whole argument).bind (integerParts directive 10 [])
  | 'o' => (integral argument).bind (integerParts directive 8 ['0', 'o'])
  | 'x' => (integral argument).bind (integerParts directive 16 ['0', 'x'])
  | 'X' => ((integral argument).bind (integerParts directive 16 ['0', 'x'])).map capital
  | 'f' => decimal .fixed
  | 'e' => decimal .exponent
  | 'g' => decimal .general
  | 'F' => (decimal .fixed).map capital
  | 'E' => (decimal .exponent).map capital
  | 'G' => (decimal .general).map capital
  | 'c' => characterParts argument
  | letter => .error (unknownLetter letter directive.place)

/-! ## Padding -/

/-- Parts put together and filled up to a width.  Zeros go between the mark and the
digits of a number, blanks to one of the sides. -/
def layOut (flags : Flags) (width : Nat) (parts : Parts) : List Char :=
  let front := parts.sign ++ parts.mark
  let missing := width - (front ++ parts.body).length
  if flags.toTheLeft then front ++ parts.body ++ List.replicate missing ' '
  else if flags.zeros && parts.isNumber then front ++ List.replicate missing '0' ++ parts.body
  else List.replicate missing ' ' ++ front ++ parts.body

/-- Lengths from here on are not tried. -/
def maxExtent : Nat := Nat.pow 2 31

def text (directive : Directive) (argument : Value) : Except Failure (List Char) := do
  let parts ← directive.parts argument
  if maxExtent ≤ directive.width then .error .outOfMemory
  else .ok (layOut directive.flags directive.width parts)

end Directive

end DiscoveryClient.Log
