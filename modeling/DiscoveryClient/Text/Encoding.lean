import DiscoveryClient.Text.CodePage.Table
import DiscoveryClient.Text.EastAsian
import DiscoveryClient.Text.Encoding.Name
import DiscoveryClient.Text.Escape
import DiscoveryClient.Text.Punycode
import DiscoveryClient.Text.Utf7
import DiscoveryClient.Text.Utf8
import DiscoveryClient.Text.Wide

/-!
# Encodings

An encoding is found by its name, and reads bytes as text.  Wide encodings of no
certain byte order need a byte order mark.
-/

namespace DiscoveryClient.Text

inductive Encoding where
  | ascii
  | latin
  /-- UTF-8, and whether a byte order mark in front of the text is dropped. -/
  | utf8 (isMarked : Bool)
  | utf16 (order : Option ByteOrder)
  | utf32 (order : Option ByteOrder)
  | utf7
  | codePage (page : CodePage)
  | eastAsian (name : String) (reading : EastAsian)
  /-- All escapes, or those of code points alone. -/
  | escape (isFull : Bool)
  | punycode
  /-- The encoding that reads nothing at all. -/
  | undefined
  deriving Inhabited

inductive Unreadable where
  | bytes (fault : DecodingFault)
  /-- There is no byte order mark, for an encoding in units of so many bits. -/
  | unmarked (bits : Nat)
  | punycode (fault : Punycode.Fault)
  | undefined
  deriving DecidableEq, Repr

namespace Unreadable

def message : Unreadable → String
  | .bytes fault => fault.message
  | .unmarked bits => "UTF-" ++ toString bits ++ " stream does not start with BOM"
  | .punycode fault => fault.message
  | .undefined => "undefined encoding"

/-- Are single bytes to blame? -/
def isAboutBytes : Unreadable → Bool
  | .bytes _ | .punycode (.bytes _) => true
  | _ => false

end Unreadable

inductive EncodingFault where
  | unknown (name : String)
  /-- Encodings between bytes and bytes, or text and text. -/
  | notOfText (name : String)
  | embeddedNull
  deriving DecidableEq, Repr

def EncodingFault.message : EncodingFault → String
  | .unknown name => "unknown encoding: " ++ name
  | .notOfText name =>
      "'" ++ name ++ "' is not a text encoding; use codecs.open() to handle arbitrary codecs"
  | .embeddedNull => "embedded null character"

namespace Encoding

/-! ## Reading -/

/-- A text in units of so many bits behind its byte order mark, which takes some bytes.
Without a mark the text is read all the same, so bytes that are wrong are found. -/
def decodeMarked (bits width : Nat) (splitMark : List UInt8 → Option (ByteOrder × List UInt8))
    (decodeFrom : ByteOrder → Nat → List UInt8 → Decoded) (bytes : List UInt8) :
    Except Unreadable (List Char) :=
  match splitMark bytes with
  | some (order, rest) => (decodeFrom order width rest).mapError .bytes
  | none =>
      match decodeFrom .little 0 bytes with
      | .error fault => .error (.bytes fault)
      | .ok text => if bytes.isEmpty then .ok text else .error (.unmarked bits)

def decode : Encoding → List UInt8 → Except Unreadable (List Char)
  | .ascii, bytes => (decodeAscii bytes).mapError .bytes
  | .latin, bytes => .ok (decodeLatin bytes)
  | .utf8 false, bytes => (Utf8.decode bytes).mapError .bytes
  | .utf8 true, bytes => (Utf8.decodeMarked bytes).mapError .bytes
  | .utf16 (some order), bytes => (Utf16.decodeFrom order 0 bytes).mapError .bytes
  | .utf16 none, bytes => decodeMarked 16 2 Utf16.splitMark Utf16.decodeFrom bytes
  | .utf32 (some order), bytes => (Utf32.decodeFrom order 0 bytes).mapError .bytes
  | .utf32 none, bytes => decodeMarked 32 4 Utf32.splitMark Utf32.decodeFrom bytes
  | .utf7, bytes => (Utf7.decode bytes).mapError .bytes
  | .codePage page, bytes => (page.decode bytes).mapError .bytes
  | .eastAsian name reading, bytes => (reading.decode name bytes).mapError .bytes
  | .escape true, bytes => (Escape.decode bytes).mapError .bytes
  | .escape false, bytes => (Escape.decodePlain bytes).mapError .bytes
  | .punycode, bytes => (Punycode.decode bytes).mapError .punycode
  | .undefined, _ => .error .undefined

/-! ## Names -/

def named : List (String × Encoding) :=
  [ ("ascii", .ascii), ("idna", .ascii), ("charmap", .latin), ("latin_1", .latin),
    ("utf_8", .utf8 false), ("utf_8_sig", .utf8 true),
    ("utf_16", .utf16 none), ("utf_16_le", .utf16 (some .little)),
    ("utf_16_be", .utf16 (some .big)),
    ("utf_32", .utf32 none), ("utf_32_le", .utf32 (some .little)),
    ("utf_32_be", .utf32 (some .big)),
    ("utf_7", .utf7), ("unicode_escape", .escape true), ("raw_unicode_escape", .escape false),
    ("punycode", .punycode), ("undefined", .undefined) ]

def notOfText : List String :=
  [ "base64_codec", "bz2_codec", "hex_codec", "quopri_codec", "rot_13", "uu_codec",
    "zlib_codec" ]

/-- What a name names, which is nothing if the name leads to no text. -/
def find? (name : String) : Option (Option Encoding) :=
  if notOfText.contains name then some none
  else
    ((named.lookup name).or (((CodePage.named.lookup name).map codePage).or
      ((EastAsian.named.lookup name).map (eastAsian name)))).map some

/-- The encoding of the system, which has a name of its own. -/
def systemName : String := "locale"

def ofName (name : String) : Except EncodingFault Encoding :=
  if name = systemName then .ok (.utf8 false)
  else if name.toList.contains '\x00' then .error .embeddedNull
  else
    match (EncodingName.candidates name).findSome? find? with
    | some (some encoding) => .ok encoding
    | some none => .error (.notOfText name)
    | none => .error (.unknown name)

end Encoding

end DiscoveryClient.Text
