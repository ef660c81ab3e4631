/-!
# Blank characters

Trimming, the split between a key and its value, and comments in property
text all use one class of blank characters: every Unicode space and separator
together with the ASCII controls that separate lines, columns, files, groups,
records and units.  Decimal numbers are trimmed by the narrower class that
leaves the four ASCII separators out.
-/

namespace DiscoveryClient.Text

/-- The Unicode property of white space. -/
def isWhiteSpace (c : Char) : Bool :=
  let code := c.toNat
  (0x09 ≤ code && code ≤ 0x0d) || code == 0x20 || code == 0x85 || code == 0xa0 ||
    code == 0x1680 || (0x2000 ≤ code && code ≤ 0x200a) || code == 0x2028 ||
    code == 0x2029 || code == 0x202f || code == 0x205f || code == 0x3000

/-- White space, or one of the four ASCII separators. -/
def isBlank (c : Char) : Bool :=
  isWhiteSpace c || (0x1c ≤ c.toNat && c.toNat ≤ 0x1f)

/-- A blank that does not end the line. -/
def isInlineBlank (c : Char) : Bool :=
  isBlank c && c != '\n'

/-- Drop the longest tail whose characters all satisfy `drop`. -/
def trimEndBy (drop : Char → Bool) (text : List Char) : List Char :=
  (text.reverse.dropWhile drop).reverse

def trimBy (drop : Char → Bool) (text : List Char) : List Char :=
  trimEndBy drop (text.dropWhile drop)

/-- The text without the blanks at both ends. -/
def trim (text : List Char) : List Char :=
  trimBy isBlank text

def trimEnd (text : List Char) : List Char :=
  trimEndBy isBlank text

@[simp] theorem trimEndBy_nil (drop : Char → Bool) : trimEndBy drop [] = [] := rfl

/-- Trimming removes a tail of characters to be dropped and nothing else. -/
theorem trimEndBy_append_takeWhile (drop : Char → Bool) (text : List Char) :
    trimEndBy drop text ++ (text.reverse.takeWhile drop).reverse = text := by
  rw [trimEndBy, ← List.reverse_append, List.takeWhile_append_dropWhile,
    List.reverse_reverse]

end DiscoveryClient.Text
