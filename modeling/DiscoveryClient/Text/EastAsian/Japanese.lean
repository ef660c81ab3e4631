import DiscoveryClient.Text.EastAsian.Japanese.Extended
import DiscoveryClient.Text.EastAsian.Japanese.Table

/-!
# Japanese encodings

Shift_JIS puts two rows of the standard set behind one byte and has half-width
letters of one byte; a vendor's extension adds rows and places for private use.
The extended Unix code writes rows and columns as they are, and half-width
letters and the supplement behind bytes of their own.

Both have a form for the extended standard, with its two planes.
-/

namespace DiscoveryClient.Text.EastAsian

/-- The half-width letter of a byte. -/
def halfWidth? (byte : UInt8) : Option Char :=
  if 0xa1 ≤ byte && byte ≤ 0xdf then some (Char.ofNat (0xfec0 + byte.toNat)) else none

/-! ## Shift_JIS -/

/-- The double row of a first byte, and the place of a second byte in it. -/
def shiftCell? (lead second : UInt8) : Option (Nat × Nat) := do
  let row ← placeIn? lead [(0x81, 0x9f), (0xe0, 0xfc)]
  let place ← placeIn? second [(0x40, 0x7e), (0x80, 0xfc)]
  some (row, place)

def shiftJis? (lead second : UInt8) : Option Char :=
  (shiftCell? lead second).bind fun (row, place) =>
    jisX0208.cell? (row * 2 + place / 94) (place % 94)

def shiftJisFront : UInt8 → List UInt8 → Front :=
  extendAscii fun lead rest =>
    match halfWidth? lead, placeIn? lead [(0x81, 0x9f), (0xe0, 0xea)] with
    | some c, _ => .ok ([c], 0)
    | none, none => illegal
    | none, some _ => pairFront shiftJis? lead rest

/-! ## The extension of a vendor -/

/-- Signs that the extension has in the place of others. -/
def cp932Signs : List Stretch :=
  [ ⟨0x81, 0x60, "～∥"⟩,
    ⟨0x81, 0x7c, "－"⟩,
    ⟨0x81, 0x91, "￠￡"⟩,
    ⟨0x81, 0xca, "￢"⟩ ]

/-- The characters of one byte that are no ASCII. -/
def cp932Single? (byte : UInt8) : Option Char :=
  if byte = 0x80 then some '\x80'
  else if byte = 0xa0 then some '\uf8f0'
  else if 0xfd ≤ byte then some (Char.ofNat (0xf8f1 + (byte.toNat - 0xfd)))
  else halfWidth? byte

def cp932? (lead second : UInt8) : Option Char :=
  (Stretch.find? cp932Signs lead second).or <|
    (shiftCell? lead second).bind fun (row, place) =>
      if 0xf0 ≤ lead && lead ≤ 0xf9 then
        some (Char.ofNat (0xe000 + (lead.toNat - 0xf0) * 188 + place))
      else
        (vendorJapanese.cell? row place).or
          (jisX0208.cell? (row * 2 + place / 94) (place % 94))

def cp932Front : UInt8 → List UInt8 → Front :=
  extendAscii fun lead rest =>
    (cp932Single? lead).elim (pairFront cp932? lead rest) fun c => .ok ([c], 0)

/-! ## The extended Unix code -/

def jisX0208? (lead second : UInt8) : Option Char :=
  jisX0208.pair? 0xa1 lead second

def eucJpFront : UInt8 → List UInt8 → Front :=
  extendAscii fun lead rest =>
    if lead = 0x8e then pairFront (fun _ second => halfWidth? second) lead rest
    else if lead = 0x8f then
      match rest with
      | second :: third :: _ =>
          (jisX0212.pair? 0xa1 second third).elim illegal fun c => .ok ([c], 2)
      | _ => incomplete rest
    else pairFront jisX0208? lead rest

/-! ## The extended standard -/

/-- Cells of the first plane that only a revision of the standard filled. -/
def revisedCells : List (Nat × Nat) :=
  [ (13, 0), (14, 93), (46, 51), (46, 93), (83, 6), (93, 89), (93, 90), (93, 91), (93, 92),
    (93, 93) ]

/-- Is a cell of the first plane empty because the revision does not count? -/
def isWithheld (isRevised : Bool) (cell : Nat × Nat) : Bool :=
  !isRevised && revisedCells.contains cell

/-- The text in a cell of the first plane. -/
def firstPlane? (isRevised : Bool) (row column : Nat) : Option (List Char) :=
  if isWithheld isRevised (row, column) then none
  else
    (((jisX0208.cell? row column).or (extendedFirst.cell? row column)).map fun c => [c]).or
      ((extendedPairs.lookup (row, column)).map String.toList)

/-- The text of two bytes.  Those of a cell that is withheld are wrong together. -/
def planeFront (isRevised : Bool) (cell? : UInt8 → UInt8 → Option (Nat × Nat))
    (text? : Nat × Nat → Option (List Char)) (lead : UInt8) (rest : List UInt8) : Front :=
  match rest with
  | [] => incomplete []
  | second :: _ =>
      match cell? lead second with
      | none => illegal
      | some cell =>
          if isWithheld isRevised cell then .error (2, .illegalSequence)
          else (text? cell).elim illegal fun text => .ok (text, 1)

/-- The character in a cell of the second plane, which one encoding had wrong at first. -/
def secondPlane? (isRevised : Bool) (row column : Nat) : Option Char :=
  if !isRevised && row = 92 && column = 26 then some '鬝'
  else extendedSecond.cell? row column

/-- The rows of the second plane behind the first plane, in their order. -/
def shiftedRows : List Nat :=
  [0, 7, 2, 3, 4, 11, 12, 13, 14] ++ List.range' 77 17

/-- The cell of two bytes, counted through both planes. -/
def shiftPlaneCell? (lead second : UInt8) : Option (Nat × Nat) :=
  (shiftCell? lead second).map fun (row, place) => (row * 2 + place / 94, place % 94)

/-- The text in a cell, which for one sign is a backslash. -/
def shiftJisX0213? (isRevised : Bool) : Nat × Nat → Option (List Char)
  | (0, 31) => some ['\\']
  | (row, column) =>
      if row < 94 then firstPlane? isRevised row column
      else
        (shiftedRows[row - 94]?).bind fun row =>
          (secondPlane? isRevised row column).map fun c => [c]

def shiftJisX0213Front (isRevised : Bool) (lead : UInt8) (rest : List UInt8) : Front :=
  if lead = 0x5c then .ok (['¥'], 0)
  else if lead = 0x7e then .ok (['‾'], 0)
  else
    extendAscii (fun lead rest =>
      match halfWidth? lead, placeIn? lead [(0x81, 0x9f), (0xe0, 0xfc)] with
      | some c, _ => .ok ([c], 0)
      | none, none => illegal
      | none, some _ =>
          planeFront isRevised shiftPlaneCell? (shiftJisX0213? isRevised) lead rest) lead rest

/-- The cell of two bytes. -/
def eucCell? (lead second : UInt8) : Option (Nat × Nat) :=
  if 0xa1 ≤ lead && 0xa1 ≤ second then some (lead.toNat - 0xa1, second.toNat - 0xa1) else none

/-- The text in a cell; the tilde is a wide one. -/
def eucJisX0213? (isRevised : Bool) : Nat × Nat → Option (List Char)
  | (1, 17) => some ['～']
  | (row, column) => firstPlane? isRevised row column

/-- The character behind the byte of the second plane, which shares its cells with the
supplement. -/
def eucSecond? (isRevised : Bool) (second third : UInt8) : Option Char :=
  (eucCell? second third).bind fun (row, column) =>
    (secondPlane? isRevised row column).or (jisX0212.cell? row column)

def eucJisX0213Front (isRevised : Bool) : UInt8 → List UInt8 → Front :=
  extendAscii fun lead rest =>
    if lead = 0x8e then pairFront (fun _ second => halfWidth? second) lead rest
    else if lead = 0x8f then
      match rest with
      | second :: third :: _ =>
          (eucSecond? isRevised second third).elim illegal fun c => .ok ([c], 2)
      | _ => incomplete rest
    else planeFront isRevised eucCell? (eucJisX0213? isRevised) lead rest

end DiscoveryClient.Text.EastAsian
