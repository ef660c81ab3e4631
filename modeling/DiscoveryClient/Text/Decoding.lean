import DiscoveryClient.Text.Quoted

/-!
# Bytes that are no text

An encoding turns bytes into text.  The first bytes that it has no character
for end the reading: the fault names the encoding, says where these bytes are
and how many, and what is wrong with them.

`decodeWith` reads a whole text by a function that reads its first character.
-/

namespace DiscoveryClient.Text

/-- What is wrong with bytes. -/
inductive DecodingFlaw where
  | startByte
  | continuationByte
  | endOfData
  | outsideAscii
  | unassigned
  | truncated
  | loneLowSurrogate
  | loneHighSurrogate
  | surrogate
  | beyondUnicode
  | directCharacter
  | shiftMark
  | partialUnit
  | paddingBits
  | openShift
  | truncatedEscape (form : String)
  | finalBackslash
  | namedEscape
  | unknownName
  | escapeBeyondUnicode
  | longEscapeBeyondUnicode
  | illegalSequence
  | incompleteSequence
  deriving DecidableEq, Repr

def DecodingFlaw.message : DecodingFlaw → String
  | .startByte => "invalid start byte"
  | .continuationByte => "invalid continuation byte"
  | .endOfData => "unexpected end of data"
  | .outsideAscii => "ordinal not in range(128)"
  | .unassigned => "character maps to <undefined>"
  | .truncated => "truncated data"
  | .loneLowSurrogate => "illegal encoding"
  | .loneHighSurrogate => "illegal UTF-16 surrogate"
  | .surrogate => "code point in surrogate code point range(0xd800, 0xe000)"
  | .beyondUnicode => "code point not in range(0x110000)"
  | .directCharacter => "unexpected special character"
  | .shiftMark => "ill-formed sequence"
  | .partialUnit => "partial character in shift sequence"
  | .paddingBits => "non-zero padding bits in shift sequence"
  | .openShift => "unterminated shift sequence"
  | .truncatedEscape form => "truncated \\" ++ form ++ " escape"
  | .finalBackslash => "\\ at end of string"
  | .namedEscape => "malformed \\N character escape"
  | .unknownName => "unknown Unicode character name"
  | .escapeBeyondUnicode => "illegal Unicode character"
  | .longEscapeBeyondUnicode => "\\Uxxxxxxxx out of range"
  | .illegalSequence => "illegal multibyte sequence"
  | .incompleteSequence => "incomplete multibyte sequence"

/-- The first bytes that are no text. -/
structure DecodingFault where
  encoding : String
  position : Nat
  lead : UInt8
  length : Nat
  flaw : DecodingFlaw
  deriving DecidableEq, Repr

def DecodingFault.message (fault : DecodingFault) : String :=
  let place :=
    if fault.length = 1 then
      "byte 0x" ++ String.ofList (hexDigits 2 fault.lead.toNat) ++
        " in position " ++ toString fault.position
    else
      "bytes in position " ++ toString fault.position ++ "-" ++
        toString (fault.position + fault.length - 1)
  "'" ++ fault.encoding ++ "' codec can't decode " ++ place ++ ": " ++ fault.flaw.message

abbrev Decoded := Except DecodingFault (List Char)

/-- What stands at the front of bytes: characters, and the number of bytes behind the
first that belong to them; or the number of bytes that are wrong, and how. -/
abbrev Front := Except (Nat × DecodingFlaw) (List Char × Nat)

/-- The same for an encoding in which bytes may change what others mean: the state
behind them comes with the characters. -/
abbrev SwitchedFront (σ : Type) := Except (Nat × DecodingFlaw) (List Char × Nat × σ)

/-- Decode the bytes that stand at `position` of the whole text, front by front. -/
def decodeWith {σ : Type} (encoding : String) (front : σ → UInt8 → List UInt8 → SwitchedFront σ)
    (position : Nat) (state : σ) : List UInt8 → Decoded
  | [] => .ok []
  | lead :: rest =>
      match front state lead rest with
      | .error (length, flaw) => .error ⟨encoding, position, lead, length, flaw⟩
      | .ok (text, further, state) =>
          (text ++ ·) <$>
            decodeWith encoding front (position + 1 + further) state (rest.drop further)
termination_by bytes => bytes.length
decreasing_by
  simp only [List.length_drop, List.length_cons]
  omega

/-- Decode bytes that always mean the same. -/
def decodeBy (encoding : String) (front : UInt8 → List UInt8 → Front) (position : Nat)
    (bytes : List UInt8) : Decoded :=
  decodeWith encoding (fun () lead rest => (front lead rest).map fun (text, further) =>
    (text, further, ())) position () bytes

/-! ## Bytes of one character each -/

/-- The first half of most encodings. -/
def asciiFront (lead : UInt8) (_ : List UInt8) : Front :=
  if lead < 0x80 then .ok ([Char.ofNat lead.toNat], 0) else .error (1, .outsideAscii)

def decodeAscii (bytes : List UInt8) : Decoded :=
  decodeBy "ascii" asciiFront 0 bytes

/-- Every byte is the character of its number. -/
def decodeLatin (bytes : List UInt8) : List Char :=
  bytes.map fun byte => Char.ofNat byte.toNat

end DiscoveryClient.Text
