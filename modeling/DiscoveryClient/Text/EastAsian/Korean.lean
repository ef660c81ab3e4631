import DiscoveryClient.Text.EastAsian.Korean.Table

/-!
# Korean encodings

The standard set has the syllables that are used most.  Wansung writes the others
as eight bytes, a filler and three letters; the unified code gives them cells of
their own, in order; Johab writes every syllable by the numbers of its letters.
-/

namespace DiscoveryClient.Text.EastAsian

/-! ## Syllables -/

/-- The letters that begin a syllable. -/
def leadLetters : List Char := "ㄱㄲㄴㄷㄸㄹㅁㅂㅃㅅㅆㅇㅈㅉㅊㅋㅌㅍㅎ".toList

/-- The letters that end a syllable. -/
def tailLetters : List Char := "ㄱㄲㄳㄴㄵㄶㄷㄹㄺㄻㄼㄽㄾㄿㅀㅁㅂㅄㅅㅆㅇㅈㅊㅋㅌㅍㅎ".toList

/-- The first consonant and the first vowel among the letters. -/
def firstConsonant : Nat := 0x3131

def firstVowel : Nat := 0x314f

/-- The first syllable, and how many there are. -/
def firstSyllable : Nat := 0xac00

def syllableCount : Nat := 11172

/-- The syllable of a beginning, a vowel and an end; the end 0 is none. -/
def syllable (lead vowel tail : Nat) : Char :=
  Char.ofNat (firstSyllable + (lead * 21 + vowel) * 28 + tail)

/-! ## Wansung -/

def ksX1001? (lead second : UInt8) : Option Char :=
  ksX1001.pair? 0xa1 lead second

/-- The syllable of the bytes behind a filler. -/
def composed? : List UInt8 → Option Char
  | 0xa4 :: lead :: 0xa4 :: vowel :: 0xa4 :: tail :: _ => do
      let letter (byte : UInt8) : Option Char :=
        (placeIn? byte [(0xa1, 0xbe)]).map fun place => Char.ofNat (firstConsonant + place)
      let lead ← (← letter lead) |> leadLetters.idxOf?
      let vowel ← placeIn? vowel [(0xbf, 0xd3)]
      let tail ←
        if tail = 0xd4 then some 0
        else ((letter tail).bind tailLetters.idxOf?).map (· + 1)
      some (syllable lead vowel tail)
  | _ => none

def eucKrFront : UInt8 → List UInt8 → Front :=
  extendAscii fun lead rest =>
    match rest with
    | 0xd4 :: letters =>
        if lead ≠ 0xa4 then pairFront ksX1001? lead rest
        else if letters.length < 6 then incomplete rest
        else (composed? letters).elim illegal fun c => .ok ([c], 7)
    | _ => pairFront ksX1001? lead rest

/-! ## The unified code -/

/-- The syllables that the standard set leaves out. -/
def otherSyllables : Thunk (Array Char) :=
  .mk fun _ =>
    let standard := (ksX1001.characters.map Char.toNat).filter fun code =>
      firstSyllable ≤ code && code < firstSyllable + syllableCount
    ((skipping firstSyllable syllableCount standard).map Char.ofNat).toArray

/-- The number of a syllable among those. -/
def syllableIndex? (lead second : UInt8) : Option Nat :=
  if 0x81 ≤ lead && lead ≤ 0xa0 then
    (placeIn? second [(0x41, 0x5a), (0x61, 0x7a), (0x81, 0xfe)]).map
      ((lead.toNat - 0x81) * 178 + ·)
  else if 0xa1 ≤ lead then
    (placeIn? second [(0x41, 0x5a), (0x61, 0x7a), (0x81, 0xa0)]).map
      (32 * 178 + (lead.toNat - 0xa1) * 84 + ·)
  else none

def cp949? (lead second : UInt8) : Option Char :=
  (ksX1001? lead second).or
    ((syllableIndex? lead second).bind fun index => otherSyllables.get[index]?)

def cp949Front : UInt8 → List UInt8 → Front :=
  extendAscii (pairFront cp949?)

/-! ## Johab -/

/-- The number of a letter, or none for the filler, if there is such a letter. -/
def johabLetter? (filler : Nat) (ranges : List (UInt8 × UInt8)) (code : Nat) :
    Option (Option Nat) :=
  if code = filler then some none else (placeIn? (UInt8.ofNat code) ranges).map some

/-- A syllable or a letter by its three numbers of five bits. -/
def johabSyllable? (lead second : UInt8) : Option Char := do
  let number := lead.toNat * 256 + second.toNat
  let lead ← johabLetter? 1 [(2, 20)] (number / 1024 % 32)
  let vowel ← johabLetter? 2 [(3, 7), (10, 15), (18, 23), (26, 29)] (number / 32 % 32)
  let tail ← johabLetter? 1 [(2, 17), (19, 29)] (number % 32)
  match lead, vowel, tail with
  | some lead, some vowel, tail => some (syllable lead vowel ((tail.map (· + 1)).getD 0))
  | some lead, none, none => leadLetters[lead]?
  | none, some vowel, none => some (Char.ofNat (firstVowel + vowel))
  | none, none, some tail => tailLetters[tail]?
  | none, none, none => some '\u3000'
  | _, _, _ => none

/-- The other characters of the standard set, two rows of it in one. -/
def johabSign? (lead second : UInt8) : Option Char := do
  let place ← placeIn? second [(0x31, 0x7e), (0x91, 0xfe)]
  let row ← placeIn? lead [(0xd9, 0xde), (0xe0, 0xf9)]
  -- the letters have numbers of their own
  if lead = 0xda && 0xa1 ≤ second && second ≤ 0xd3 then none
  else
    let row := if lead < 0xe0 then row * 2 else row * 2 + 29
    ksX1001.cell? (row + place / 94) (place % 94)

def johab? (lead second : UInt8) : Option Char :=
  if lead < 0xd8 then johabSyllable? lead second else johabSign? lead second

def johabFront : UInt8 → List UInt8 → Front :=
  extendAscii (pairFront johab?)

end DiscoveryClient.Text.EastAsian
