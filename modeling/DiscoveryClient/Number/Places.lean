import DiscoveryClient.Number.Shortest

/-!
# Decimals with a given number of places

A double can be written with a fixed number of places behind the point, with
one digit before the point and an exponent, or in whichever of the two forms
suits its size.  The decimal nearest to the exact value is written, and of two
that are equally near the one with the even last digit.
-/

namespace DiscoveryClient.Places

/-- The three ways of laying out a decimal. -/
inductive Style where
  | fixed
  | exponent
  | general
  deriving DecidableEq, Repr, Inhabited

/-- A number in base ten with at least `width` digits. -/
def figures (width count : Nat) : List Char :=
  Shortest.padLeft width (Nat.toDigits 10 count)

/-- Digits with the point in front of the last `places` of them. -/
def withPoint (keepsPoint : Bool) (places : Nat) (digits : List Char) : List Char :=
  let whole := digits.take (digits.length - places)
  if places = 0 then whole ++ (if keepsPoint then ['.'] else [])
  else whole ++ '.' :: digits.drop (digits.length - places)

/-- `numerator / denominator` with a number of places. -/
def fixed (keepsPoint : Bool) (places numerator denominator : Nat) : List Char :=
  withPoint keepsPoint places
    (figures (places + 1) (Double.roundHalfEven (numerator * Nat.pow 10 places) denominator))

/-- The nearest `places + 1` digits and the exponent of the first of them. -/
def significant (places numerator denominator : Nat) : Nat × Int :=
  if numerator = 0 then (0, 0)
  else
    let lead := Shortest.leadingExponent numerator denominator
    let power : Int := places - lead
    let count := Double.roundHalfEven (numerator * Nat.pow 10 power.toNat)
      (denominator * Nat.pow 10 (-power).toNat)
    if count = Nat.pow 10 (places + 1) then (Nat.pow 10 places, lead + 1) else (count, lead)

/-- An exponent has a sign and at least two digits. -/
def exponentText (exponent : Int) : List Char :=
  'e' :: (if exponent < 0 then '-' else '+') :: figures 2 exponent.natAbs

/-- `numerator / denominator` with one digit before the point. -/
def exponential (keepsPoint : Bool) (places numerator denominator : Nat) : List Char :=
  let (count, exponent) := significant places numerator denominator
  withPoint keepsPoint places (figures (places + 1) count) ++ exponentText exponent

/-- Drop the zeros behind the point, and then the point. -/
def dropTrailingZeros (digits : List Char) : List Char :=
  if digits.contains '.' then
    let rest := digits.reverse.dropWhile (· = '0')
    (if rest.head? = some '.' then rest.drop 1 else rest).reverse
  else digits

/-- `numerator / denominator` with a number of significant digits, in place when
the first of them stands no further than four places behind the point and the
last of them is not before it. -/
def general (keepsPoint : Bool) (precision numerator denominator : Nat) : List Char :=
  let places := precision - 1
  let (count, exponent) := significant places numerator denominator
  let trimmed (digits : List Char) : List Char :=
    if keepsPoint then digits else dropTrailingZeros digits
  if exponent < -4 ∨ (places : Int) < exponent then
    trimmed (withPoint keepsPoint places (figures precision count)) ++ exponentText exponent
  else
    trimmed (fixed keepsPoint (places - exponent).toNat numerator denominator)

/-- The magnitude of a double without its sign. -/
def magnitude (style : Style) (keepsPoint : Bool) (places : Nat) : Double → List Char
  | .nan _ => ['n', 'a', 'n']
  | .infinite _ => ['i', 'n', 'f']
  | .finite _ mantissa exponent =>
      let (numerator, denominator) := Double.ratio mantissa exponent
      match style with
      | .fixed => fixed keepsPoint places numerator denominator
      | .exponent => exponential keepsPoint places numerator denominator
      | .general => general keepsPoint (max places 1) numerator denominator

end DiscoveryClient.Places
