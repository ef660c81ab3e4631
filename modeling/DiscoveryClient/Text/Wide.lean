import DiscoveryClient.Text.Decoding

/-!
# Encodings in wide units

UTF-16 has units of two bytes, and two units for a character beyond the first
65536; UTF-32 has units of four bytes.  The bytes of a unit stand in one of two
orders, which a byte order mark in front of the text may tell.
-/

namespace DiscoveryClient.Text

inductive ByteOrder where
  | little
  | big
  deriving DecidableEq, Repr, Inhabited

namespace ByteOrder

/-- The end of the names of encodings in this order. -/
def suffix : ByteOrder → String
  | .little => "-le"
  | .big => "-be"

/-- The number that bytes in this order are. -/
def number (order : ByteOrder) (bytes : List UInt8) : Nat :=
  let digits := match order with
    | .little => bytes.reverse
    | .big => bytes
  digits.foldl (fun number byte => number * 256 + byte.toNat) 0

end ByteOrder

/-- The first units of the pairs that are one character. -/
def isHighSurrogate (unit : Nat) : Bool :=
  0xd800 ≤ unit && unit < 0xdc00

/-- The second units of the pairs that are one character. -/
def isLowSurrogate (unit : Nat) : Bool :=
  0xdc00 ≤ unit && unit < 0xe000

/-- The code point of a pair of units. -/
def joinSurrogates (high low : Nat) : Nat :=
  0x10000 + (high - 0xd800) * 0x400 + (low - 0xdc00)

namespace Utf16

/-- The character at the front. -/
def front (order : ByteOrder) (lead : UInt8) : List UInt8 → Front
  | [] => .error (1, .truncated)
  | second :: rest =>
      let unit := order.number [lead, second]
      if isLowSurrogate unit then .error (2, .loneLowSurrogate)
      else if isHighSurrogate unit then
        match rest with
        | third :: fourth :: _ =>
            let low := order.number [third, fourth]
            if isLowSurrogate low then .ok ([Char.ofNat (joinSurrogates unit low)], 3)
            else .error (2, .loneHighSurrogate)
        | rest => .error (2 + rest.length, .endOfData)
      else .ok ([Char.ofNat unit], 1)

def decodeFrom (order : ByteOrder) (position : Nat) (bytes : List UInt8) : Decoded :=
  decodeBy ("utf-16" ++ order.suffix) (front order) position bytes

/-- The order that a mark in front of the text tells, and the text. -/
def splitMark : List UInt8 → Option (ByteOrder × List UInt8)
  | 0xff :: 0xfe :: rest => some (.little, rest)
  | 0xfe :: 0xff :: rest => some (.big, rest)
  | _ => none

end Utf16

namespace Utf32

/-- The character at the front. -/
def front (order : ByteOrder) (lead : UInt8) : List UInt8 → Front
  | second :: third :: fourth :: _ =>
      let unit := order.number [lead, second, third, fourth]
      if isHighSurrogate unit || isLowSurrogate unit then .error (4, .surrogate)
      else if 0x110000 ≤ unit then .error (4, .beyondUnicode)
      else .ok ([Char.ofNat unit], 3)
  | rest => .error (1 + rest.length, .truncated)

def decodeFrom (order : ByteOrder) (position : Nat) (bytes : List UInt8) : Decoded :=
  decodeBy ("utf-32" ++ order.suffix) (front order) position bytes

/-- The order that a mark in front of the text tells, and the text. -/
def splitMark : List UInt8 → Option (ByteOrder × List UInt8)
  | 0xff :: 0xfe :: 0 :: 0 :: rest => some (.little, rest)
  | 0 :: 0 :: 0xfe :: 0xff :: rest => some (.big, rest)
  | _ => none

end Utf32

end DiscoveryClient.Text
