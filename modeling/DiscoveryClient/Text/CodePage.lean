import DiscoveryClient.Text.Decoding

/-!
# Code pages

A code page gives every byte at most one character.  Where it has none, its table
holds U+FFFE, which is no character.
-/

namespace DiscoveryClient.Text

/-- The characters of all bytes, in order. -/
structure CodePage where
  characters : Array Char
  deriving Inhabited

namespace CodePage

/-- What tables hold where there is no character. -/
def noCharacter : Char := '\ufffe'

def ofText (text : String) : CodePage :=
  ⟨text.toList.toArray⟩

/-- The code page that has ASCII first, and then a text. -/
def extended (text : String) : CodePage :=
  ⟨((List.range 128).map Char.ofNat ++ text.toList).toArray⟩

def character? (page : CodePage) (byte : UInt8) : Option Char :=
  page.characters[byte.toNat]?.filter fun c => c ≠ noCharacter

def front (page : CodePage) (lead : UInt8) (_ : List UInt8) : Front :=
  match page.character? lead with
  | some c => .ok ([c], 0)
  | none => .error (1, .unassigned)

def decode (page : CodePage) (bytes : List UInt8) : Decoded :=
  decodeBy "charmap" page.front 0 bytes

end CodePage

end DiscoveryClient.Text
