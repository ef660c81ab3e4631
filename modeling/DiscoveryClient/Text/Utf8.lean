import DiscoveryClient.Text.Decoding

/-!
# Reading UTF-8

Files are read as UTF-8 unless another encoding is asked for.  The first
ill-formed sequence ends the reading: its position, the number of bytes that
still formed a valid beginning, and what is wrong with it are reported.
-/

namespace DiscoveryClient.Text.Utf8

/-- An ill-formed sequence. -/
def fault (position : Nat) (lead : UInt8) (length : Nat) (flaw : DecodingFlaw) :
    DecodingFault :=
  { encoding := "utf-8", position, lead, length, flaw }

def isContinuation (byte : UInt8) : Bool :=
  0x80 ≤ byte && byte < 0xc0

/-- Second bytes that lead neither to an overlong form, nor to a surrogate, nor
beyond the last code point. -/
def allowsSecond (lead second : UInt8) : Bool :=
  isContinuation second &&
    !(lead == 0xe0 && second < 0xa0) && !(lead == 0xed && 0xa0 ≤ second) &&
    !(lead == 0xf0 && second < 0x90) && !(lead == 0xf4 && 0x90 ≤ second)

def payload (byte : UInt8) : Nat :=
  byte.toNat % 64

/-- Decode the bytes that stand at `position` of the whole text. -/
def decodeFrom (position : Nat) : List UInt8 → Decoded
  | [] => .ok []
  | lead :: rest =>
      if lead < 0x80 then
        (Char.ofNat lead.toNat :: ·) <$> decodeFrom (position + 1) rest
      else if lead < 0xc2 || 0xf4 < lead then
        .error (fault position lead 1 .startByte)
      else match rest with
        | [] => .error (fault position lead 1 .endOfData)
        | second :: rest =>
            if !allowsSecond lead second then
              .error (fault position lead 1 .continuationByte)
            else if lead < 0xe0 then
              (Char.ofNat (lead.toNat % 32 * 64 + payload second) :: ·) <$>
                decodeFrom (position + 2) rest
            else match rest with
              | [] => .error (fault position lead 2 .endOfData)
              | third :: rest =>
                  if !isContinuation third then
                    .error (fault position lead 2 .continuationByte)
                  else if lead < 0xf0 then
                    (Char.ofNat ((lead.toNat % 16 * 64 + payload second) * 64 +
                      payload third) :: ·) <$> decodeFrom (position + 3) rest
                  else match rest with
                    | [] => .error (fault position lead 3 .endOfData)
                    | fourth :: rest =>
                        if !isContinuation fourth then
                          .error (fault position lead 3 .continuationByte)
                        else
                          (Char.ofNat (((lead.toNat % 8 * 64 + payload second) * 64 +
                            payload third) * 64 + payload fourth) :: ·) <$>
                            decodeFrom (position + 4) rest

def decode (bytes : List UInt8) : Decoded :=
  decodeFrom 0 bytes

/-- Decode bytes with a byte order mark in front, which is dropped and not counted in
positions.  The mark may be missing; the beginning of one, all alone, says nothing. -/
def decodeMarked : List UInt8 → Decoded
  | [0xef] | [0xef, 0xbb] => .ok []
  | 0xef :: 0xbb :: 0xbf :: rest => decode rest
  | bytes => decode bytes

def encode (text : String) : List UInt8 :=
  text.toList.flatMap String.utf8EncodeChar

end DiscoveryClient.Text.Utf8
