import DiscoveryClient.Text.Decoding

/-!
# Escapes in bytes

Two encodings write characters that they have no byte for as escapes, which a
backslash begins: the full one knows short names, octal and hexadecimal numbers;
the plain one knows only the two longer hexadecimal numbers.  All other bytes
are the characters of their numbers.

Characters cannot be named in full: no name is known.
-/

namespace DiscoveryClient.Text.Escape

def hexDigit? (byte : UInt8) : Option Nat :=
  let code := byte.toNat
  if 0x30 ≤ code && code ≤ 0x39 then some (code - 0x30)
  else if 0x41 ≤ code && code ≤ 0x46 then some (code - 0x41 + 10)
  else if 0x61 ≤ code && code ≤ 0x66 then some (code - 0x61 + 10)
  else none

def isOctal (byte : UInt8) : Bool :=
  0x30 ≤ byte && byte ≤ 0x37

/-- The hexadecimal digits at the front, as many as are wanted at most. -/
def hexRun (wanted : Nat) (bytes : List UInt8) : List Nat :=
  ((bytes.take wanted).map hexDigit?).takeWhile Option.isSome |>.filterMap id

/-- The character of a number; single surrogates have none of their own. -/
def character (code : Nat) : Char :=
  if 0xd800 ≤ code && code < 0xe000 then '\ufffd' else Char.ofNat code

/-- The character of a hexadecimal number behind a backslash and a letter. -/
def hexFront (wanted : Nat) (form : String) (excess : DecodingFlaw) (bytes : List UInt8) :
    Front :=
  let digits := hexRun wanted bytes
  let code := digits.foldl (fun code digit => code * 16 + digit) 0
  if digits.length < wanted then .error (2 + digits.length, .truncatedEscape form)
  else if 0x110000 ≤ code then .error (2 + wanted, excess)
  else .ok ([character code], 1 + wanted)

/-- A character by its name, of which none is known. -/
def nameFront : List UInt8 → Front
  | 0x7b :: 0x7d :: _ => .error (3, .namedEscape)
  | 0x7b :: rest =>
      let name := rest.takeWhile (· ≠ 0x7d)
      if name.length = rest.length then .error (3 + name.length, .namedEscape)
      else .error (4 + name.length, .unknownName)
  | _ => .error (2, .namedEscape)

/-- What short names behind a backslash mean; an escaped line end means nothing. -/
def shortNames : List (Char × List Char) :=
  [ ('\n', []), ('\\', ['\\']), ('\'', ['\'']), ('"', ['"']), ('a', ['\x07']), ('b', ['\x08']),
    ('t', ['\t']), ('n', ['\n']), ('v', ['\x0b']), ('f', ['\x0c']), ('r', ['\r']) ]

def backslash : UInt8 := 0x5c

/-- The character at the front, with all escapes. -/
def front (lead : UInt8) (rest : List UInt8) : Front :=
  let plain := Char.ofNat lead.toNat
  if lead ≠ backslash then .ok ([plain], 0)
  else match rest with
    | [] => .error (1, .finalBackslash)
    | kind :: rest =>
        let letter := Char.ofNat kind.toNat
        match shortNames.lookup letter, letter with
        | some text, _ => .ok (text, 1)
        | none, 'x' => hexFront 2 "xXX" .escapeBeyondUnicode rest
        | none, 'u' => hexFront 4 "uXXXX" .escapeBeyondUnicode rest
        | none, 'U' => hexFront 8 "UXXXXXXXX" .escapeBeyondUnicode rest
        | none, 'N' => nameFront rest
        | none, _ =>
            if isOctal kind then
              let digits := kind :: (rest.take 2).takeWhile isOctal
              let code := digits.foldl (fun code digit => code * 8 + (digit.toNat - 0x30)) 0
              .ok ([Char.ofNat code], digits.length)
            else .ok ([plain, letter], 1)

/-- The character at the front, with the two escapes of code points alone. -/
def plainFront (lead : UInt8) (rest : List UInt8) : Front :=
  let plain := Char.ofNat lead.toNat
  if lead ≠ backslash then .ok ([plain], 0)
  else match rest with
    | [] => .ok ([plain], 0)
    | kind :: rest =>
        match Char.ofNat kind.toNat with
        | 'u' => hexFront 4 "uXXXX" .longEscapeBeyondUnicode rest
        | 'U' => hexFront 8 "UXXXXXXXX" .longEscapeBeyondUnicode rest
        | letter => .ok ([plain, letter], 1)

def decode (bytes : List UInt8) : Decoded :=
  decodeBy "unicodeescape" front 0 bytes

def decodePlain (bytes : List UInt8) : Decoded :=
  decodeBy "rawunicodeescape" plainFront 0 bytes

end DiscoveryClient.Text.Escape
