/-!
# Letter case

Keywords of the client (levels, formats, truth values, secret field names and
names of environment variables) are ASCII words compared without regard to
case.  The case mappings below are the full Unicode ones as far as their
result contains an ASCII character; every other character is left alone, since
its mapping could not make the text equal to, or end in, an ASCII word.
-/

namespace DiscoveryClient.Text

/-- The lower-case form, which for the dotted capital I has two characters. -/
def lowerChar (c : Char) : List Char :=
  if c.isUpper then [c.toLower]
  else if c = '\u0130' then ['i', '\u0307']
  else if c = '\u212a' then ['k']
  else [c]

/-- The upper-case form, which for ligatures has several characters. -/
def upperChar (c : Char) : List Char :=
  if c.isLower then [c.toUpper]
  else match c with
    | '\u00df' => ['S', 'S']
    | '\u0131' => ['I']
    | '\u0149' => ['\u02bc', 'N']
    | '\u017f' => ['S']
    | '\u01f0' => ['J', '\u030c']
    | '\u1e96' => ['H', '\u0331']
    | '\u1e97' => ['T', '\u0308']
    | '\u1e98' => ['W', '\u030a']
    | '\u1e99' => ['Y', '\u030a']
    | '\u1e9a' => ['A', '\u02be']
    | '\ufb00' => ['F', 'F']
    | '\ufb01' => ['F', 'I']
    | '\ufb02' => ['F', 'L']
    | '\ufb03' => ['F', 'F', 'I']
    | '\ufb04' => ['F', 'F', 'L']
    | '\ufb05' => ['S', 'T']
    | '\ufb06' => ['S', 'T']
    | _ => [c]

def lower (text : String) : String :=
  String.ofList (text.toList.flatMap lowerChar)

def upper (text : String) : String :=
  String.ofList (text.toList.flatMap upperChar)

@[simp] theorem toList_lower (text : String) :
    (lower text).toList = text.toList.flatMap lowerChar := by
  simp [lower]

end DiscoveryClient.Text
