import DiscoveryClient.Text.Decoding

/-!
# Reading Punycode

Punycode writes the ASCII characters of a text first, and behind the last hyphen
where the other characters are inserted.  Each insertion is one number in digits
of base 36 whose weights adapt to the numbers before.
-/

namespace DiscoveryClient.Text.Punycode

/-- Why a text cannot be read. -/
inductive Fault where
  | bytes (fault : DecodingFault)
  | incomplete
  | digit (c : Char)
  | beyondUnicode (code : Nat)
  deriving DecidableEq, Repr

/-- Numbers in lower-case hexadecimal digits. -/
def Fault.message : Fault → String
  | .bytes fault => fault.message
  | .incomplete => "incomplete punicode string"
  | .digit c => "Invalid extended code point '" ++ String.singleton c ++ "'"
  | .beyondUnicode code => "Invalid character U+" ++ String.ofList (Nat.toDigits 16 code)

/-- Digits at or above the threshold of their place are followed by others. -/
def threshold (place bias : Nat) : Nat :=
  min 26 (max 1 (36 * (place + 1) - bias))

def digit? (c : Char) : Option Nat :=
  if 'A' ≤ c ∧ c ≤ 'Z' then some (c.toNat - 'A'.toNat)
  else if '0' ≤ c ∧ c ≤ '9' then some (c.toNat - '0'.toNat + 26)
  else none

/-- The number at the front, and the digits behind it. -/
def number (bias : Nat) : (place weight sum : Nat) → List Char → Except Fault (Nat × List Char)
  | _, _, _, [] => .error .incomplete
  | place, weight, sum, c :: rest =>
      match digit? c with
      | none => .error (.digit c)
      | some digit =>
          let sum := sum + digit * weight
          let limit := threshold place bias
          if digit < limit then .ok (sum, rest)
          else number bias (place + 1) (weight * (36 - limit)) sum rest

/-- Scale a number down until it is small: the rest, and how often. -/
def scale : (fuel delta : Nat) → Nat × Nat
  | 0, delta => (delta, 0)
  | fuel + 1, delta =>
      if delta ≤ 455 then (delta, 0)
      else
        let (delta, times) := scale fuel (delta / 35)
        (delta, times + 1)

/-- The bias behind a number, by the length of the text so far. -/
def adapt (delta : Nat) (isFirst : Bool) (length : Nat) : Nat :=
  let delta := if isFirst then delta / 700 else delta / 2
  let delta := delta + delta / length
  let (delta, times) := scale delta delta
  36 * times + 36 * delta / (delta + 38)

theorem number_shortens {bias place weight sum value : Nat} {digits rest : List Char}
    (read : number bias place weight sum digits = .ok (value, rest)) :
    rest.length < digits.length := by
  induction digits generalizing place weight sum with
  | nil => simp [number] at read
  | cons c digits induction =>
      simp only [number] at read
      split at read
      · simp at read
      · split at read
        · simp only [Except.ok.injEq, Prod.mk.injEq] at read
          simp [read.2]
        · exact Nat.lt_succ_of_lt (induction read)

/-- Insert the characters that digits describe.  `slot` counts the places passed so
far, from the place behind the last insertion on. -/
def insertAll (isFirst : Bool) (code slot bias : Nat) (text digits : List Char) :
    Except Fault (List Char) :=
  match digits with
  | [] => .ok text
  | c :: rest =>
      match _read : number bias 0 1 0 (c :: rest) with
      | .error fault => .error fault
      | .ok (delta, digits) =>
          let slot := slot + delta
          let code := code + slot / (text.length + 1)
          let place := slot % (text.length + 1)
          if 0x110000 ≤ code then .error (.beyondUnicode code)
          else
            let inserted := if 0xd800 ≤ code ∧ code < 0xe000 then '\ufffd' else Char.ofNat code
            let text := text.take place ++ inserted :: text.drop place
            insertAll false code (place + 1) (adapt delta isFirst text.length) text digits
termination_by digits.length
decreasing_by
  exact number_shortens _read

/-- The bytes before the last hyphen, and those behind it. -/
def split (bytes : List UInt8) : List UInt8 × List UInt8 :=
  let behind := (bytes.reverse.takeWhile (· ≠ 0x2d)).reverse
  (bytes.take (bytes.length - behind.length - 1), behind)

def decode (bytes : List UInt8) : Except Fault (List Char) := do
  let (before, behind) := split bytes
  let text ← (decodeAscii before).mapError .bytes
  let digits ← (decodeAscii behind).mapError .bytes
  insertAll true 0x80 0 72 text (digits.map Char.toUpper)

end DiscoveryClient.Text.Punycode
