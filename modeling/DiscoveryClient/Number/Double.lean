/-!
# Binary64 numbers

A double is not a number, a signed infinity, or a signed integer mantissa
times a power of two.  What is not a number carries a payload, by which one of
them can be told from another.  All arithmetic goes through exact ratios of natural
numbers: `ofRatio` takes a ratio to the nearest double, ties to the even
mantissa, and is the only place where rounding happens.
-/

namespace DiscoveryClient

inductive Double where
  | nan (payload : Nat)
  | infinite (negative : Bool)
  | finite (negative : Bool) (mantissa : Nat) (exponent : Int)
  deriving DecidableEq, Repr, Inhabited

namespace Double

/-- Exponent of the subnormal numbers, the finest grid there is. -/
def minExponent : Int := -1074

/-- Largest exponent of a finite number with a full mantissa. -/
def maxExponent : Int := 971

/-- Mantissas have at most this many bits. -/
def precision : Nat := 53

/-- The quotient rounded to the nearest integer, a half to the even neighbour. -/
def roundHalfEven (numerator denominator : Nat) : Nat :=
  let quotient := numerator / denominator
  let remainder := numerator % denominator
  if 2 * remainder < denominator then quotient
  else if denominator < 2 * remainder then quotient + 1
  else quotient + quotient % 2

/-- `numerator / denominator / 2 ^ exponent` as a ratio. -/
def scaled (numerator denominator : Nat) (exponent : Int) : Nat × Nat :=
  (numerator * Nat.pow 2 (-exponent).toNat, denominator * Nat.pow 2 exponent.toNat)

/-- Exponent of the grid on which the ratio has a full mantissa, or the finest grid. -/
def gridExponent (numerator denominator : Nat) : Int :=
  let low := (Nat.log2 numerator : Int) - Nat.log2 denominator - precision
  let (n, d) := scaled numerator denominator low
  max (if n / d < Nat.pow 2 precision then low else low + 1) minExponent

/-- The double nearest to `± numerator / denominator`; too large a ratio is infinite. -/
def ofRatio (negative : Bool) (numerator denominator : Nat) : Double :=
  if numerator = 0 then .finite negative 0 minExponent
  else
    let grid := gridExponent numerator denominator
    let (n, d) := scaled numerator denominator grid
    let mantissa := roundHalfEven n d
    let (mantissa, exponent) :=
      if mantissa = Nat.pow 2 precision then (Nat.pow 2 (precision - 1), grid + 1)
      else (mantissa, grid)
    if maxExponent < exponent then .infinite negative else .finite negative mantissa exponent

/-- Magnitude of a finite double as a ratio. -/
def ratio (mantissa : Nat) (exponent : Int) : Nat × Nat :=
  (mantissa * Nat.pow 2 exponent.toNat, Nat.pow 2 (-exponent).toNat)

/-- The double nearest to an integer, if that is finite. -/
def ofInt? (value : Int) : Option Double :=
  match ofRatio (value < 0) value.natAbs 1 with
  | .infinite _ => none
  | double => some double

/-- The double nearest to the quotient of an integer by a positive integer, if finite. -/
def ofQuotient? (value : Int) (divisor : Nat) : Option Double :=
  match ofRatio (value < 0) value.natAbs divisor with
  | .infinite _ => none
  | double => some double

/-- The double nearest to `± digits · 10 ^ exponent`.  Exponents far outside the
range of doubles are answered without computing the power. -/
def ofDecimal (negative : Bool) (digits : Nat) (exponent : Int) : Double :=
  let size : Int := (Nat.toDigits 10 digits).length + exponent
  if digits = 0 ∨ size < -400 then .finite negative 0 minExponent
  else if 400 < size then .infinite negative
  else ofRatio negative (digits * Nat.pow 10 exponent.toNat)
    (Nat.pow 10 (-exponent).toNat)

def zero : Double := .finite false 0 minExponent

def one : Double := ofRatio false 1 1

def isNaN : Double → Bool
  | .nan _ => true
  | _ => false

/-- Strictly greater than zero; neither a zero of any sign nor NaN is. -/
def isPositive : Double → Bool
  | .nan _ => false
  | .infinite negative => !negative
  | .finite negative mantissa _ => !negative && mantissa != 0

/-- Strictly less than zero. -/
def isNegative : Double → Bool
  | .nan _ => false
  | .infinite negative => negative
  | .finite negative mantissa _ => negative && mantissa != 0

/-- Not less than zero, which NaN is not either. -/
def isNonNegative : Double → Bool
  | .nan _ => false
  | double => !double.isNegative

/-- Is the number written with a minus?  A negative zero is, NaN is not. -/
def hasMinus : Double → Bool
  | .nan _ => false
  | .infinite negative | .finite negative _ _ => negative

def isFinite : Double → Bool
  | .finite .. => true
  | _ => false

def neg : Double → Double
  | .nan payload => .nan payload
  | .infinite negative => .infinite !negative
  | .finite negative mantissa exponent => .finite (!negative) mantissa exponent

/-- The nearest double to an exact signed ratio; an exact zero takes the sign `zeroNegative`. -/
def ofSignedRatio (zeroNegative : Bool) (numerator : Int) (denominator : Nat) : Double :=
  if numerator = 0 then .finite zeroNegative 0 minExponent
  else ofRatio (numerator < 0) numerator.natAbs denominator

private def signed (negative : Bool) (magnitude : Nat) : Int :=
  if negative then -magnitude else magnitude

def add : Double → Double → Double
  | .nan payload, _ | _, .nan payload => .nan payload
  | .infinite left, .infinite right => if left = right then .infinite left else .nan 0
  | .infinite left, _ => .infinite left
  | _, .infinite right => .infinite right
  | .finite left m e, .finite right n f =>
      let (m, d) := ratio m e
      let (n, c) := ratio n f
      ofSignedRatio (left && right) (signed left (m * c) + signed right (n * d)) (d * c)

def sub (left right : Double) : Double :=
  left.add right.neg

/-- A zero of any sign. -/
def isZero : Double → Bool
  | .finite _ mantissa _ => mantissa == 0
  | _ => false

/-- The nearest double to a part of a double. -/
def divideBy (divisor : Nat) : Double → Double
  | .finite negative mantissa exponent =>
      let (numerator, denominator) := ratio mantissa exponent
      ofRatio negative numerator (denominator * divisor)
  | double => double

/-- A number among all exact ones, or beyond them on one side. -/
inductive Rank where
  | lowest
  | exact (numerator : Int) (denominator : Nat)
  | highest
  deriving DecidableEq, Repr, Inhabited

/-- Where a double stands; what is not a number stands nowhere. -/
def rank? : Double → Option Rank
  | .nan _ => none
  | .infinite true => some .lowest
  | .infinite false => some .highest
  | .finite negative mantissa exponent =>
      let (numerator, denominator) := ratio mantissa exponent
      some (.exact (signed negative numerator) denominator)

def Rank.isBelow : Rank → Rank → Bool
  | .exact m d, .exact n c => decide (m * c < n * d)
  | .lowest, .lowest | .highest, _ | .exact _ _, .lowest => false
  | .lowest, _ | .exact _ _, .highest => true

/-- Neither of two numbers stands below the other. -/
def Rank.isLevel (left right : Rank) : Bool :=
  !left.isBelow right && !right.isBelow left

end Double

end DiscoveryClient
