import DiscoveryClient.Text.CodePage.Table
import DiscoveryClient.Text.EastAsian.Chinese
import DiscoveryClient.Text.EastAsian.Japanese
import DiscoveryClient.Text.EastAsian.Korean

/-!
# Encodings that switch between character sets

These encodings use bytes below 128 alone.  Escape sequences say which set the
bytes behind them are read by.  A sequence may fill one of three slots: the
first is in use unless a shift makes it the second, and the third is for single
characters.

Hanzi text has two modes, and switches by a tilde and a brace.
-/

namespace DiscoveryClient.Text.EastAsian

/-! ## Character sets -/

inductive CharacterSet where
  | ascii
  | latin
  | greek
  /-- Japanese letters of one byte: Roman ones and half-width ones. -/
  | roman
  | katakana
  /-- The Japanese standard set, which has a mark of its own for its first edition. -/
  | jisX0208 (isFirst : Bool)
  | jisX0212
  /-- The first plane of the extended Japanese standard, and whether it is revised. -/
  | firstPlane (isRevised : Bool)
  | secondPlane
  | ksX1001
  | gb2312
  deriving DecidableEq, Repr, Inhabited

namespace CharacterSet

/-- How many bytes a character has. -/
def width : CharacterSet → Nat
  | .ascii | .latin | .greek | .roman | .katakana => 1
  | _ => 2

/-- The set that the end of an escape sequence names, among those of one byte or those
of two. -/
def ofMark? (isDouble : Bool) (mark : UInt8) : Option CharacterSet :=
  match isDouble, Char.ofNat mark.toNat with
  | false, 'B' => some .ascii
  | false, 'A' => some .latin
  | false, 'F' => some .greek
  | false, 'J' => some .roman
  | false, 'I' => some .katakana
  | true, 'B' => some (.jisX0208 false)
  | true, '@' => some (.jisX0208 true)
  | true, 'D' => some .jisX0212
  | true, 'O' => some (.firstPlane false)
  | true, 'Q' => some (.firstPlane true)
  | true, 'P' => some .secondPlane
  | true, 'C' => some .ksX1001
  | true, 'A' => some .gb2312
  | _, _ => none

def single? (set : CharacterSet) (byte : UInt8) : Option Char :=
  match set with
  | .roman =>
      if byte = 0x5c then some '¥'
      else if byte = 0x7e then some '‾'
      else some (Char.ofNat byte.toNat)
  | .katakana => if 0x21 ≤ byte && byte ≤ 0x5f then halfWidth? (byte + 0x80) else none
  | _ => none

/-- The text of two bytes. -/
def pair? (set : CharacterSet) (lead second : UInt8) : Option (List Char) :=
  let of (grid : Grid) : Option (List Char) := (grid.pair? 0x21 lead second).map fun c => [c]
  match set with
  | .jisX0208 _ => of EastAsian.jisX0208
  | .jisX0212 => of EastAsian.jisX0212
  | .firstPlane isRevised =>
      if 0x21 ≤ lead && 0x21 ≤ second then
        firstPlane? isRevised (lead.toNat - 0x21) (second.toNat - 0x21)
      else none
  | .secondPlane => of extendedSecond
  | .ksX1001 => of EastAsian.ksX1001
  | .gb2312 => of EastAsian.gb2312
  | _ => none

/-- Bytes that got a Greek character only in a later edition. -/
def laterGreek : List UInt8 := [0x24, 0x25, 0x2a]

/-- The character of the upper half of a set. -/
def upper? (set : CharacterSet) (byte : UInt8) : Option Char :=
  if 0x80 ≤ byte then none
  else
    match set with
    | .ascii => some (Char.ofNat byte.toNat)
    | .latin => some (Char.ofNat (byte.toNat + 0x80))
    | .greek =>
        if laterGreek.contains byte then none else CodePage.iso88597.character? (byte + 0x80)
    | _ => none

end CharacterSet

/-! ## Escape sequences -/

/-- What an encoding with escape sequences knows. -/
structure Switching where
  /-- The sets besides ASCII. -/
  sets : List CharacterSet
  /-- Do two control characters shift between the first two slots? -/
  hasShifts : Bool := false
  /-- Is there a third slot? -/
  hasThird : Bool := false
  /-- May a prefix announce a revision of the Japanese standard set? -/
  hasRevision : Bool := true

/-- The sets in the slots, and what is in use. -/
structure SlotState where
  first : CharacterSet := .ascii
  second : CharacterSet := .ascii
  third : CharacterSet := .ascii
  isShifted : Bool := false
  /-- Is the text within an escape sequence of another kind, which is kept as it is? -/
  isForeign : Bool := false
  deriving Inhabited

namespace Switching

def escape : UInt8 := 0x1b

/-- Bytes that end an escape sequence. -/
def endsSequence (byte : UInt8) : Bool :=
  (0x41 ≤ byte && byte ≤ 0x5a) || byte = 0x40

/-- Bytes behind an escape that begin the choice of a set. -/
def beginsChoice (byte : UInt8) : Bool :=
  [0x28, 0x29, 0x24, 0x2e, 0x26].contains byte

/-- Escape sequences are at most so long. -/
def maxLength : Nat := 16

/-- The length of the escape sequence whose first bytes have been passed, or 0 if it
is too long.  The mark within a prefix does not end it. -/
def lengthFrom? (hasRevision : Bool) (passed : Nat) (bytes : List UInt8) : Option Nat :=
  if maxLength ≤ passed then some 0
  else
    match bytes with
    | [] => none
    | byte :: rest =>
        if endsSequence byte then some (passed + 1)
        else if hasRevision && byte = 0x26 && rest.head? = some 0x40 then
          lengthFrom? hasRevision (passed + 3) (rest.drop 2)
        else lengthFrom? hasRevision (passed + 1) rest
termination_by bytes.length

/-- Put a set into the slot that a byte names. -/
def fill? (switching : Switching) (state : SlotState) (slot : UInt8) (set : CharacterSet) :
    Option SlotState :=
  match Char.ofNat slot.toNat with
  | '(' => some { state with first := set }
  | ')' => some { state with second := set }
  | '.' => if switching.hasThird then some { state with third := set } else none
  | _ => none

/-- The state behind an escape sequence, by its bytes behind the escape. -/
def choose? (switching : Switching) (state : SlotState) (bytes : List UInt8) :
    Option SlotState := do
  let known (isDouble : Bool) (mark : UInt8) : Option CharacterSet :=
    (CharacterSet.ofMark? isDouble mark).filter fun set =>
      set = .ascii || switching.sets.contains set
  match bytes with
  | [0x24, mark] => switching.fill? state 0x28 (← known true mark)
  | [slot, mark] => switching.fill? state slot (← known false mark)
  | [0x24, slot, mark] =>
      if slot = 0x2e then none else switching.fill? state slot (← known true mark)
  | [_, _, 0x1b, 0x24, 0x42] =>
      if switching.hasRevision then switching.fill? state 0x28 (← known true 0x42) else none
  | _ => none

abbrev Step := SwitchedFront SlotState

def stop (length : Nat) (flaw : DecodingFlaw) : Step :=
  .error (length, flaw)

/-- A byte that stands for itself. -/
def keep (byte : UInt8) (state : SlotState) : Step :=
  .ok ([Char.ofNat byte.toNat], 0, state)

/-- What an escape begins. -/
def escapeFront (switching : Switching) (state : SlotState) (rest : List UInt8) : Step :=
  let all := 1 + rest.length
  match rest with
  | [] => stop all .incompleteSequence
  | kind :: behind =>
      if beginsChoice kind then
        match lengthFrom? switching.hasRevision 1 rest with
        | none => stop all .incompleteSequence
        | some 0 => stop 1 .illegalSequence
        | some length =>
            match switching.choose? state (rest.take (length - 1)) with
            | some state => .ok ([], length - 1, state)
            | none => stop length .illegalSequence
      else if switching.hasThird && kind = 0x4e then
        match behind with
        | [] => stop all .incompleteSequence
        | byte :: _ =>
            match state.third.upper? byte with
            | some c => .ok ([c], 2, state)
            | none => stop 3 .illegalSequence
      else keep escape { state with isForeign := true }

/-- The character of the set in use. -/
def setFront (state : SlotState) (lead : UInt8) (rest : List UInt8) : Step :=
  let set := if state.isShifted then state.second else state.first
  if set = .ascii then keep lead state
  else
    match set.width, rest with
    | 2, [] => stop 1 .incompleteSequence
    | 2, second :: _ =>
        (set.pair? lead second).elim (stop 2 .illegalSequence) fun text => .ok (text, 1, state)
    | _, _ => (set.single? lead).elim (stop 1 .illegalSequence) fun c => .ok ([c], 0, state)

/-- The character at the front. -/
def front (switching : Switching) (state : SlotState) (lead : UInt8) (rest : List UInt8) :
    Step :=
  if state.isForeign then keep lead { state with isForeign := !endsSequence lead }
  else if lead = escape then switching.escapeFront state rest
  else if switching.hasShifts && lead = 0x0f then .ok ([], 0, { state with isShifted := false })
  else if switching.hasShifts && lead = 0x0e then .ok ([], 0, { state with isShifted := true })
  else if lead = 0x0a then keep lead { state with isShifted := false }
  else if lead < 0x20 then keep lead state
  else if 0x80 ≤ lead then stop 1 .illegalSequence
  else setFront state lead rest

/-- The sets of most Japanese encodings. -/
def japanese : List CharacterSet :=
  [.jisX0208 false, .jisX0208 true, .roman]

/-- The encodings of this kind, by name. -/
def named : List (String × Switching) :=
  [ ("iso2022_kr", { sets := [.ksX1001], hasShifts := true, hasRevision := false }),
    ("iso2022_jp", { sets := japanese }),
    ("iso2022_jp_1", { sets := .jisX0212 :: japanese }),
    ("iso2022_jp_2", {
      sets := [.jisX0212, .ksX1001, .gb2312, .latin, .greek] ++ japanese
      hasThird := true }),
    ("iso2022_jp_3", { sets := [.jisX0208 false, .firstPlane false, .secondPlane] }),
    ("iso2022_jp_2004", { sets := [.jisX0208 false, .firstPlane true, .secondPlane] }),
    ("iso2022_jp_ext", { sets := [.jisX0212, .katakana] ++ japanese }) ]

end Switching

/-! ## Hanzi text -/

/-- The character at the front, in ASCII or in the Chinese standard set. -/
def hzFront (isChinese : Bool) (lead : UInt8) (rest : List UInt8) : SwitchedFront Bool :=
  if lead = 0x7e then
    match rest with
    | [] => .error (1, .incompleteSequence)
    | second :: _ =>
        match isChinese, Char.ofNat second.toNat with
        | false, '~' => .ok (['~'], 1, false)
        | false, '\x7b' => .ok ([], 1, true)
        | false, '\n' => .ok ([], 1, false)
        | true, '\x7d' => .ok ([], 1, false)
        | _, _ => .error (1, .illegalSequence)
  else if 0x80 ≤ lead then .error (1, .illegalSequence)
  else if isChinese then
    match rest with
    | [] => .error (1, .incompleteSequence)
    | second :: _ =>
        match CharacterSet.gb2312.pair? lead second with
        | some text => .ok (text, 1, true)
        | none => .error (1, .illegalSequence)
  else .ok ([Char.ofNat lead.toNat], 0, false)

end DiscoveryClient.Text.EastAsian
