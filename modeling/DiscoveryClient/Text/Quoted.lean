import DiscoveryClient.Text.Printable

/-!
# Quoted text

How a text is shown inside a message or inside the text of a list: between
single quotes, or between double quotes when it holds a single quote and no
double quote.  The quote in use, the backslash and every unprintable character
are written as escapes.
-/

namespace DiscoveryClient.Text

/-- `width` lower-case hexadecimal digits, with leading zeros. -/
def hexDigits : (width : Nat) → Nat → List Char
  | 0, _ => []
  | width + 1, value => hexDigits width (value / 16) ++ [Nat.digitChar (value % 16)]

/-- A character as the digits of its code point. -/
def codeEscape (c : Char) : List Char :=
  if c.toNat < 0x100 then '\\' :: 'x' :: hexDigits 2 c.toNat
  else if c.toNat < 0x10000 then '\\' :: 'u' :: hexDigits 4 c.toNat
  else '\\' :: 'U' :: hexDigits 8 c.toNat

/-- The form of one character between the quotes `quote`. -/
def escapeChar (quote c : Char) : List Char :=
  if c = quote ∨ c = '\\' then ['\\', c]
  else if c = '\t' then ['\\', 't']
  else if c = '\n' then ['\\', 'n']
  else if c = '\r' then ['\\', 'r']
  else if isPrintable c then [c]
  else codeEscape c

def quoteFor (text : List Char) : Char :=
  if '\'' ∈ text ∧ '"' ∉ text then '"' else '\''

def quotedChars (text : List Char) : List Char :=
  quoteFor text :: (text.flatMap (escapeChar (quoteFor text)) ++ [quoteFor text])

/-- The text between quotes, with escapes. -/
def quoted (text : String) : String :=
  String.ofList (quotedChars text.toList)

/-- The text with an escape for every character that is not ASCII. -/
def asciiOnly (text : String) : String :=
  String.ofList (text.toList.flatMap fun c => if c.toNat < 0x80 then [c] else codeEscape c)

end DiscoveryClient.Text
