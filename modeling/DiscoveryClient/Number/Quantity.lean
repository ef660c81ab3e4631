import DiscoveryClient.Failure
import DiscoveryClient.Number.Numeral

/-!
# Quantities

The doubles that values stand for: numbers and truth values themselves, and
where text is allowed the numbers that it denotes.
-/

namespace DiscoveryClient.Quantity

/-- The double that a number or truth value stands for. -/
def ofNumber : Value → Except Failure Double
  | .bool value => .ok (if value then .one else .zero)
  | .int value => (Double.ofInt? value).elim (.error .outOfRange) .ok
  | .float value => .ok value
  | _ => .error .wrongType

/-- Is the value a number below zero, be it within the doubles or not? -/
def isNegative : Value → Bool
  | .int value => decide (value < 0)
  | .float value => value.isNegative
  | _ => false

/-- The double that a number, a truth value or a text stands for. -/
def ofValue : Value → Except Failure Double
  | .text text =>
      match Numeral.double? text.toList with
      | some value => .ok value
      | none =>
          .error (.refusedValue ("could not convert string to float: " ++ Text.quoted text))
  | value => ofNumber value

end DiscoveryClient.Quantity
