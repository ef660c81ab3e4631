import DiscoveryClient.Number.Double

/-!
# Shortest decimal text of a double

A double is written with the fewest significant digits that read back as the
same double, and with the nearest such digits when there is a choice.
`Shortest.digits` finds them in exact arithmetic: the reals that round to a
double form an interval, and for each number of digits only the two decimal
neighbours of the value can lie in it.
-/

namespace DiscoveryClient.Shortest

/-- The reals that round to a double, times a common denominator: its value,
the distance to the lower and to the upper end, and whether the ends belong. -/
structure Interval where
  denominator : Nat
  value : Nat
  below : Nat
  above : Nat
  closed : Bool

/-- Interval of `mantissa · 2 ^ exponent`.  Just above a power of two the grid
is finer below than above. -/
def interval (mantissa : Nat) (exponent : Int) : Interval :=
  let (value, denominator) := Double.ratio (4 * mantissa) (exponent - 2)
  let (step, _) := Double.ratio 1 (exponent - 2)
  let narrow := mantissa = Nat.pow 2 (Double.precision - 1) ∧ Double.minExponent < exponent
  { denominator, value
    below := if narrow then step else 2 * step
    above := 2 * step
    closed := mantissa % 2 = 0 }

/-- The exponent of the leading decimal digit of a positive ratio. -/
def leadingExponent (numerator denominator : Nat) : Int :=
  if denominator ≤ numerator then
    (Nat.toDigits 10 (numerator / denominator)).length - 1
  else
    let places := (Nat.toDigits 10 (denominator / numerator)).length
    if denominator ≤ numerator * Nat.pow 10 (places - 1) then 1 - places else -places

/-- Does the multiple `count` of `10 ^ power` read back as the double? -/
def Interval.contains (range : Interval) (count : Nat) (power : Int) : Bool :=
  let point := count * Nat.pow 10 power.toNat * range.denominator
  let unit := Nat.pow 10 (-power).toNat
  let low := (range.value - range.below) * unit
  let high := (range.value + range.above) * unit
  if range.closed then low ≤ point && point ≤ high else low < point && point < high

/-- On the grid of multiples of `10 ^ power`, the nearer of the value's two
neighbours that read back; a tie goes to the even one. -/
def candidate (range : Interval) (power : Int) : Option Nat :=
  let numerator := range.value * Nat.pow 10 (-power).toNat
  let denominator := range.denominator * Nat.pow 10 power.toNat
  let down := numerator / denominator
  let nearest := Double.roundHalfEven numerator denominator
  let other := if nearest = down then down + 1 else down
  if range.contains nearest power then some nearest
  else if range.contains other power then some other
  else none

/-- Try the grids with `places` significant digits, then with more. -/
def search (range : Interval) (lead : Int) : (attempts places : Nat) → Nat × Int
  | 0, _ => (range.value / range.denominator, 0)
  | attempts + 1, places =>
      let power := lead - places + 1
      match candidate range power with
      | some count => (count, power)
      | none => search range lead attempts (places + 1)

/-- Drop trailing zeros, raising the power of ten with each. -/
def normalize : (attempts : Nat) → Nat × Int → Nat × Int
  | 0, pair => pair
  | attempts + 1, (count, power) =>
      if count % 10 = 0 then normalize attempts (count / 10, power + 1) else (count, power)

/-- Digits and power of ten of the shortest decimal that reads back as a
positive double.  Seventeen digits always suffice. -/
def digits (mantissa : Nat) (exponent : Int) : Nat × Int :=
  let range := interval mantissa exponent
  normalize 18 (search range (leadingExponent range.value range.denominator) 17 1)

/-- How decimals are laid out: leading exponents from `low` up to but not
including `high` are written in place with at least one decimal, others with a
signed exponent of at least `exponentWidth` digits. -/
structure Layout where
  low : Int
  high : Int
  exponentWidth : Nat

def inPlace (layout : Layout) (lead : Int) : Bool :=
  layout.low ≤ lead && lead < layout.high

def padLeft (width : Nat) (text : List Char) : List Char :=
  List.replicate (width - text.length) '0' ++ text

def render (layout : Layout) (count : Nat) (power : Int) : List Char :=
  let figures := Nat.toDigits 10 count
  let lead : Int := figures.length - 1 + power
  if inPlace layout lead then
    if lead < 0 then
      '0' :: '.' :: (List.replicate (-lead - 1).toNat '0' ++ figures)
    else
      let whole := (lead + 1).toNat
      let fraction := figures.drop whole
      figures.take whole ++ List.replicate (whole - figures.length) '0' ++
        '.' :: (if fraction.isEmpty then ['0'] else fraction)
  else
    let fraction := figures.drop 1
    figures.take 1 ++ (if fraction.isEmpty then [] else '.' :: fraction) ++
      'e' :: (if lead < 0 then '-' else '+') ::
        padLeft layout.exponentWidth (Nat.toDigits 10 lead.natAbs)

end DiscoveryClient.Shortest

namespace DiscoveryClient.Double

/-- Numbers are written in place from a ten-thousandth up to below 10 ^ 16. -/
def layout : Shortest.Layout := ⟨-4, 16, 2⟩

def magnitudeText (mantissa : Nat) (exponent : Int) : List Char :=
  if mantissa = 0 then ['0', '.', '0']
  else
    let (count, power) := Shortest.digits mantissa exponent
    Shortest.render layout count power

/-- The shortest text that reads back as the number. -/
def text : Double → String
  | .nan _ => "nan"
  | .infinite negative => if negative then "-inf" else "inf"
  | .finite negative mantissa exponent =>
      String.ofList ((if negative then ['-'] else []) ++ magnitudeText mantissa exponent)

end DiscoveryClient.Double
