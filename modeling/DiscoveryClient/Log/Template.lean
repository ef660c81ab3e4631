import DiscoveryClient.Log.Directive

/-!
# Templates of log messages

A message may be a template in which directives stand for arguments.  A
directive begins with a percent sign and ends with a letter; between them come
a name in parentheses, flags, a width, and a point with a precision, each of
which may be absent.  A width or precision of `*` is itself an argument.  The
letters `h`, `l` and `L` in front of the last one say nothing.  Two percent signs
stand for one.

A template is first read into pieces, whose last may be a directive that breaks
off, and then filled in from left to right, so the first fault from the left is
the one that is reported.
-/

namespace DiscoveryClient.Log.Template

/-- A width or precision of a directive. -/
inductive Extent where
  | none
  | given (number : Nat)
  | argument
  deriving DecidableEq, Repr, Inhabited

/-- What stands in parentheses at the beginning of a directive. -/
inductive Name where
  | none
  | given (name : String)
  | unclosed
  deriving DecidableEq, Repr, Inhabited

/-- A directive as it is written; without a letter it breaks off. -/
structure Spec where
  name : Name
  flags : Flags
  width : Extent
  precision : Extent
  letter : Option Char
  /-- Where the letter stands in the template. -/
  place : Nat
  deriving DecidableEq, Repr, Inhabited

inductive Piece where
  | character (c : Char)
  | directive (spec : Spec)
  deriving DecidableEq, Repr, Inhabited

/-! ## Reading -/

/-- A name up to the parenthesis that closes it, and the rest; inner parentheses
come in pairs. -/
def takeName : (depth : Nat) → List Char → Option (List Char × List Char)
  | _, [] => none
  | 0, ')' :: rest => some ([], rest)
  | depth, c :: rest =>
      let depth := if c = '(' then depth + 1 else if c = ')' then depth - 1 else depth
      (takeName depth rest).map fun (name, rest) => (c :: name, rest)

/-- The name of a directive and the rest, which is empty behind an unclosed name. -/
def readName : List Char → Name × List Char
  | '(' :: rest =>
      match takeName 0 rest with
      | some (name, rest) => (.given (String.ofList name), rest)
      | none => (.unclosed, [])
  | text => (.none, text)

def isDigit (c : Char) : Bool :=
  (Text.asciiDigitValue? c).isSome

/-- Digits or an asterisk, and the rest.  Where there are neither, the extent is
the given one. -/
def readExtent (absent : Extent) : List Char → Extent × List Char
  | '*' :: rest => (.argument, rest)
  | text =>
      let digits := text.takeWhile isDigit
      if digits.isEmpty then (absent, text)
      else (.given (Text.ofDigits (digits.filterMap Text.asciiDigitValue?)), text.dropWhile isDigit)

/-- A point without digits is a precision of zero. -/
def readPrecision : List Char → Extent × List Char
  | '.' :: rest => readExtent (.given 0) rest
  | text => (.none, text)

def isSizeLetter (c : Char) : Bool :=
  c = 'h' || c = 'l' || c = 'L'

def skipSize : List Char → List Char
  | c :: rest => if isSizeLetter c then rest else c :: rest
  | [] => []

/-- The directive behind a percent sign and what follows it, in a template of
`size` characters. -/
def readSpec (size : Nat) (text : List Char) : Spec × List Char :=
  let (name, text) := readName text
  let flags := text.takeWhile Flags.characters.contains
  let (width, text) := readExtent .none (text.dropWhile Flags.characters.contains)
  let (precision, text) := readPrecision text
  let text := skipSize text
  ({ name, flags := .ofChars flags, width, precision, letter := text.head?
     place := size - text.length }, text.tail)

theorem length_takeName {depth : Nat} {text name rest : List Char}
    (found : takeName depth text = some (name, rest)) : rest.length ≤ text.length := by
  induction text generalizing depth name rest with
  | nil => simp [takeName] at found
  | cons c tail induction =>
      unfold takeName at found
      split at found
      · contradiction
      · simp_all
      · rename_i same
        simp only [List.cons.injEq] at same
        simp only [Option.map_eq_some_iff] at found
        obtain ⟨⟨front, back⟩, step, equal⟩ := found
        simp only [Prod.mk.injEq] at equal
        rw [← same.2] at step
        have shorter := induction step
        simp only [← equal.2, List.length_cons]
        omega

theorem length_readName (text : List Char) : (readName text).2.length ≤ text.length := by
  unfold readName
  split
  · split
    · rename_i found
      have shorter := length_takeName found
      simp only [List.length_cons]
      omega
    · simp
  · exact Nat.le_refl _

theorem length_readExtent (absent : Extent) (text : List Char) :
    (readExtent absent text).2.length ≤ text.length := by
  unfold readExtent
  split
  · simp
  · simp only []
    split
    · exact Nat.le_refl _
    · exact (List.dropWhile_suffix _).length_le

theorem length_readPrecision (text : List Char) : (readPrecision text).2.length ≤ text.length := by
  unfold readPrecision
  split
  · rename_i rest
    have shorter := length_readExtent (.given 0) rest
    simp only [List.length_cons]
    omega
  · exact Nat.le_refl _

theorem length_skipSize (text : List Char) : (skipSize text).length ≤ text.length := by
  unfold skipSize
  split
  · split <;> simp
  · exact Nat.le_refl _

theorem length_readSpec (size : Nat) (text : List Char) :
    (readSpec size text).2.length ≤ text.length := by
  have name := length_readName text
  have flags := (List.dropWhile_suffix Flags.characters.contains
    (l := (readName text).2)).length_le
  have width := length_readExtent .none
    ((readName text).2.dropWhile Flags.characters.contains)
  have precision := length_readPrecision
    (readExtent .none ((readName text).2.dropWhile Flags.characters.contains)).2
  have size := length_skipSize (readPrecision
    (readExtent .none ((readName text).2.dropWhile Flags.characters.contains)).2).2
  simp only [readSpec, List.length_tail]
  omega

/-- The pieces of the rest of a template of `size` characters. -/
def piecesOf (size : Nat) (text : List Char) : List Piece :=
  match text with
  | [] => []
  | '%' :: '%' :: rest => .character '%' :: piecesOf size rest
  | '%' :: rest =>
      .directive (readSpec size rest).1 :: piecesOf size (readSpec size rest).2
  | c :: rest => .character c :: piecesOf size rest
termination_by text.length
decreasing_by
  · simp only [List.length_cons]
    omega
  · have shorter := length_readSpec size rest
    simp only [List.length_cons]
    omega
  · simp only [List.length_cons]
    omega

/-! ## Filling in -/

/-- The arguments that remain, and the names that directives may use. -/
structure Supply where
  names : Option (List (String × Value))
  pending : List Value

namespace Supply

/-- A single mapping that is not empty may be asked for by name. -/
def ofArguments : List Value → Supply
  | [.dict entries] =>
      { names := if entries.isEmpty then none else some entries, pending := [.dict entries] }
  | arguments => { names := none, pending := arguments }

def next (supply : Supply) : Except Failure (Value × Supply) :=
  match supply.pending with
  | [] => .error .wrongType
  | argument :: rest => .ok (argument, { supply with pending := rest })

/-- Go on with the value of a name alone. -/
def select (supply : Supply) : Name → Except Failure Supply
  | .none => .ok supply
  | .given name =>
      match supply.names with
      | none => .error .wrongType
      | some entries =>
          match Mapping.lookup name entries with
          | some value => .ok { supply with pending := [value] }
          | none => .error (.missingKey (.text name))
  | .unclosed =>
      if supply.names.isSome then .error (.refusedValue "incomplete format key")
      else .error .wrongType

/-- Arguments by position must not be left over. -/
def isExhausted (supply : Supply) : Bool :=
  supply.names.isSome || supply.pending.isEmpty

end Supply

/-- A number that is an argument, which must fit into so many bits. -/
def extentArgument (bits : Nat) : Value → Except Failure Int
  | .float _ => .error .wrongType
  | value => do
      let number ← Directive.whole value
      if number < Int.pow 2 (bits - 1) ∧ -Int.pow 2 (bits - 1) ≤ number then .ok number
      else .error .outOfRange

/-- The width, which is negative for padding on the right side. -/
def resolveWidth (supply : Supply) : Extent → Except Failure (Int × Supply)
  | .none => .ok (0, supply)
  | .given number =>
      if number < Nat.pow 2 63 then .ok (number, supply) else .error (.refusedValue "width too big")
  | .argument => do
      let (argument, supply) ← supply.next
      .ok (← extentArgument 64 argument, supply)

/-- The precision; a negative one counts as zero. -/
def resolvePrecision (supply : Supply) : Extent → Except Failure (Option Nat × Supply)
  | .none => .ok (none, supply)
  | .given number =>
      if number < Nat.pow 2 31 then .ok (some number, supply)
      else .error (.refusedValue "precision too big")
  | .argument => do
      let (argument, supply) ← supply.next
      .ok (some (← extentArgument 32 argument).toNat, supply)

/-- The text of a directive, and the arguments behind those it takes. -/
def fillSpec (spec : Spec) (supply : Supply) : Except Failure (List Char × Supply) := do
  let supply ← supply.select spec.name
  let (width, supply) ← resolveWidth supply spec.width
  let (precision, supply) ← resolvePrecision supply spec.precision
  match spec.letter with
  | none => .error (.refusedValue "incomplete format")
  | some letter =>
      let (argument, supply) ← supply.next
      let flags := if width < 0 then { spec.flags with toTheLeft := true } else spec.flags
      let directive : Directive :=
        { flags, width := width.natAbs, precision, letter, place := spec.place }
      .ok (← directive.text argument, supply)

def fillPieces : List Piece → Supply → Except Failure (List Char)
  | [], supply => if supply.isExhausted then .ok [] else .error .wrongType
  | .character c :: rest, supply => (c :: ·) <$> fillPieces rest supply
  | .directive spec :: rest, supply => do
      let (text, supply) ← fillSpec spec supply
      (text ++ ·) <$> fillPieces rest supply

/-- The message of a template.  Without arguments it is the message itself. -/
def fill (template : String) (arguments : List Value) : Except Failure String :=
  if arguments.isEmpty then .ok template
  else
    (fillPieces (piecesOf template.length template.toList) (.ofArguments arguments)).map
      String.ofList

/-- The message of a template of any type; only texts take arguments. -/
def fillValue (arguments : List Value) : Value → Except Failure Value
  | .text template => (fill template arguments).map .text
  | message => if arguments.isEmpty then .ok message else .error .wrongType

end DiscoveryClient.Log.Template
