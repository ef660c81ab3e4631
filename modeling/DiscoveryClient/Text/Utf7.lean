import DiscoveryClient.Text.Wide

/-!
# Reading UTF-7

UTF-7 keeps ASCII characters and writes others in shifted sections: a plus sign,
UTF-16 units in digits of six bits each, and any character that is no digit.  A
minus sign that ends a section is dropped; a plus and a minus sign together are
a plus sign.

A section may end with up to five bits that are zero.  Single surrogates are
text to this encoding; the replacement character stands for them.
-/

namespace DiscoveryClient.Text.Utf7

/-- The six bits that a byte is in a shifted section. -/
def digit? (byte : UInt8) : Option Nat :=
  let code := byte.toNat
  if 0x41 ≤ code && code ≤ 0x5a then some (code - 0x41)
  else if 0x61 ≤ code && code ≤ 0x7a then some (code - 0x61 + 26)
  else if 0x30 ≤ code && code ≤ 0x39 then some (code - 0x30 + 52)
  else if code = 0x2b then some 62
  else if code = 0x2f then some 63
  else none

/-- Bytes that stand for themselves outside of shifted sections. -/
def isDirect (byte : UInt8) : Bool :=
  byte < 0x80 && byte ≠ 0x2b

/-- A shifted section that is not read to its end. -/
structure Shift where
  /-- Where the section begins. -/
  start : Nat
  /-- The bits that do not make a unit yet, and their number. -/
  bits : Nat := 0
  count : Nat := 0
  /-- The first unit of a pair whose second has not come. -/
  high : Option Nat := none

namespace Shift

/-- The character of a single surrogate. -/
def replacement : Char := '\ufffd'

/-- Take a unit: the characters that are complete, and the rest. -/
def push (shift : Shift) (unit : Nat) : List Char × Shift :=
  let alone (before : List Char) : List Char × Shift :=
    if isHighSurrogate unit then (before, { shift with high := some unit })
    else if isLowSurrogate unit then (before ++ [replacement], { shift with high := none })
    else (before ++ [Char.ofNat unit], { shift with high := none })
  match shift.high with
  | some high =>
      if isLowSurrogate unit then
        ([Char.ofNat (joinSurrogates high unit)], { shift with high := none })
      else alone [replacement]
  | none => alone []

/-- Take a digit. -/
def digit (shift : Shift) (value : Nat) : List Char × Shift :=
  let bits := shift.bits * 64 + value
  let count := shift.count + 6
  if count < 16 then ([], { shift with bits, count })
  else
    let rest := Nat.pow 2 (count - 16)
    push { shift with bits := bits % rest, count := count - 16 } (bits / rest)

/-- What is wrong with a section that ends here, if anything is. -/
def flaw? (shift : Shift) : Option DecodingFlaw :=
  if 6 ≤ shift.count then some .partialUnit
  else if shift.bits ≠ 0 then some .paddingBits
  else none

end Shift

def fault (position : Nat) (lead : UInt8) (length : Nat) (flaw : DecodingFlaw) :
    DecodingFault :=
  { encoding := "utf7", position, lead, length, flaw }

/-- The first byte of every shifted section. -/
def plus : UInt8 := 0x2b

/-- Decode the bytes that stand at `position` of the whole text, in a section or
outside of one. -/
def decodeFrom (position : Nat) : Option Shift → List UInt8 → Decoded
  | none, [] => .ok []
  | some shift, [] =>
      if shift.high.isSome || shift.flaw?.isSome then
        .error (fault shift.start plus (position - shift.start) .openShift)
      else .ok []
  | none, 0x2b :: 0x2d :: rest => ('+' :: ·) <$> decodeFrom (position + 2) none rest
  | none, byte :: rest =>
      if byte = plus then
        match rest with
        | next :: _ =>
            if (digit? next).isSome then
              decodeFrom (position + 1) (some { start := position }) rest
            else .error (fault position byte 2 .shiftMark)
        | [] => decodeFrom (position + 1) (some { start := position }) rest
      else if isDirect byte then
        (Char.ofNat byte.toNat :: ·) <$> decodeFrom (position + 1) none rest
      else .error (fault position byte 1 .directCharacter)
  | some shift, byte :: rest =>
      match digit? byte with
      | some value =>
          let (text, shift) := shift.digit value
          (text ++ ·) <$> decodeFrom (position + 1) (some shift) rest
      | none =>
          match shift.flaw? with
          | some flaw => .error (fault shift.start plus (position + 1 - shift.start) flaw)
          | none =>
              let lost := if shift.high.isSome && isDirect byte then [Shift.replacement] else []
              if byte = 0x2d then (lost ++ ·) <$> decodeFrom (position + 1) none rest
              else if isDirect byte then
                (lost ++ [Char.ofNat byte.toNat] ++ ·) <$> decodeFrom (position + 1) none rest
              else .error (fault position byte 1 .directCharacter)

def decode (bytes : List UInt8) : Decoded :=
  decodeFrom 0 none bytes

end DiscoveryClient.Text.Utf7
