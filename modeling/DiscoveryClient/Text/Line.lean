/-!
# Lines of text

A text is divided into lines at line feeds, carriage returns, vertical tabs,
form feeds, the ASCII separators of files, groups and records, and the Unicode
line and paragraph separators.  A carriage return and a line feed together end
one line.
-/

namespace DiscoveryClient.Text

def endsLine (c : Char) : Bool :=
  let code := c.toNat
  (0x0a ≤ code && code ≤ 0x0d) || (0x1c ≤ code && code ≤ 0x1e) || code == 0x85 ||
    code == 0x2028 || code == 0x2029

/-- The text without the end of its last line. -/
def dropLineEnd (text : List Char) : List Char :=
  match text.reverse with
  | '\n' :: '\r' :: rest => rest.reverse
  | c :: rest => if endsLine c then rest.reverse else text
  | [] => []

/-- The last line of a text. -/
def lastLine (text : List Char) : List Char :=
  ((dropLineEnd text).reverse.takeWhile fun c => !endsLine c).reverse

end DiscoveryClient.Text
