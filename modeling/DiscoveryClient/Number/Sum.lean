import DiscoveryClient.Number.Quantity
import DiscoveryClient.Value.Equality

/-!
# Sums

Integers and truth values add up to an integer of any size.  A double among the
two makes the sum a double.
-/

namespace DiscoveryClient.Value

/-- The sum of two numbers. -/
def add (left right : Value) : Except Failure Value :=
  match left.integer?, right.integer? with
  | some left, some right => .ok (.int (left + right))
  | _, _ => do
      let left ← Quantity.ofNumber left
      let right ← Quantity.ofNumber right
      .ok (.float (left.add right))

end DiscoveryClient.Value
