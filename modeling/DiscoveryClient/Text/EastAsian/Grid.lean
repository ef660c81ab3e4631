import DiscoveryClient.Text.Decoding

/-!
# Characters in rows and columns

The character sets of East Asia are laid out in rows and columns, which are
counted from zero here.  Whole rows without characters are left out; single
cells without one hold a full stop, which is in none of the sets.
-/

namespace DiscoveryClient.Text.EastAsian

/-- What a cell without a character holds. -/
def gap : Char := '.'

structure Grid where
  /-- How many columns a row has. -/
  width : Nat
  /-- Runs of rows: the number of the first row, and the cells of the rows. -/
  runs : List (Nat × Array Char)
  deriving Inhabited

namespace Grid

/-- A grid whose runs are written in lines of any length. -/
def ofLines (width : Nat) (runs : List (Nat × List String)) : Grid where
  width
  runs := runs.map fun (first, lines) => (first, (lines.flatMap String.toList).toArray)

/-- The character in a cell. -/
def cell? (grid : Grid) (row column : Nat) : Option Char :=
  if column < grid.width then
    (grid.runs.findSome? fun (first, cells) =>
      if first ≤ row then cells[(row - first) * grid.width + column]? else none).filter
        fun c => c ≠ gap
  else none

/-- The character of two bytes that count rows and columns from a number of their own. -/
def pair? (grid : Grid) (origin row column : UInt8) : Option Char :=
  if origin ≤ row && origin ≤ column then
    grid.cell? (row.toNat - origin.toNat) (column.toNat - origin.toNat)
  else none

/-- All characters of the grid, run after run. -/
def characters (grid : Grid) : List Char :=
  (grid.runs.flatMap fun run => run.2.toList).filter fun c => c ≠ gap

end Grid

/-! ## Stretches -/

/-- Characters at the second bytes from one on, behind the same first byte. -/
structure Stretch where
  lead : UInt8
  first : UInt8
  characters : String

namespace Stretch

def pair? (stretch : Stretch) (lead second : UInt8) : Option Char :=
  if stretch.lead = lead && stretch.first ≤ second then
    (stretch.characters.toList[second.toNat - stretch.first.toNat]?).filter fun c => c ≠ gap
  else none

/-- The character of two bytes in the first stretch that has one. -/
def find? (stretches : List Stretch) (lead second : UInt8) : Option Char :=
  stretches.findSome? fun stretch => stretch.pair? lead second

end Stretch

/-! ## Rules -/

/-- The place of a byte in ranges that are counted through. -/
def placeIn? (byte : UInt8) : List (UInt8 × UInt8) → Option Nat
  | [] => none
  | (first, last) :: ranges =>
      if first ≤ byte && byte ≤ last then some (byte.toNat - first.toNat)
      else (placeIn? byte ranges).map (· + (last.toNat - first.toNat + 1))

/-- The numbers from the first one on that are not in an ascending list, out of so many. -/
def skipping : (first count : Nat) → List Nat → List Nat
  | _, 0, _ => []
  | first, count + 1, [] => first :: skipping (first + 1) count []
  | first, count + 1, taken :: rest =>
      if taken = first then skipping (first + 1) count rest
      else first :: skipping (first + 1) count (taken :: rest)

/-! ## Fronts -/

/-- The bytes of a character, of which some are missing at the end of the text. -/
def incomplete (rest : List UInt8) : Front :=
  .error (1 + rest.length, .incompleteSequence)

def illegal : Front :=
  .error (1, .illegalSequence)

/-- The text of two bytes. -/
def textFront (pair? : UInt8 → UInt8 → Option (List Char)) (lead : UInt8) : List UInt8 → Front
  | [] => incomplete []
  | second :: _ => (pair? lead second).elim illegal fun text => .ok (text, 1)

/-- The character of two bytes. -/
def pairFront (pair? : UInt8 → UInt8 → Option Char) : UInt8 → List UInt8 → Front :=
  textFront fun lead second => (pair? lead second).map fun c => [c]

/-- ASCII bytes stand for themselves; what the others begin is read by another function. -/
def extendAscii (front : UInt8 → List UInt8 → Front) (lead : UInt8) (rest : List UInt8) :
    Front :=
  if lead < 0x80 then .ok ([Char.ofNat lead.toNat], 0) else front lead rest

end DiscoveryClient.Text.EastAsian
