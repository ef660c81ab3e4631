import DiscoveryClient.Failure
import DiscoveryClient.Value.Equality

/-!
# Ordered values

Numbers are ordered by their value, texts by their characters, and lists and
tuples, each among their own kind, by the first items that differ.  No other
values can be compared.
-/

namespace DiscoveryClient.Value

/-- The order of numbers; what is not a number is not above anything. -/
def exceedsNumber (left right : Value) : Bool :=
  match left.rank?, right.rank? with
  | some left, some right => right.isBelow left
  | _, _ => false

mutual

/-- Is the first value above the second? -/
def exceeds : Value → Value → Except Failure Bool
  | .text left, .text right => .ok (decide (right < left))
  | .list left, .list right => itemsExceed left right
  | .tuple left, .tuple right => itemsExceed left right
  | left, right =>
      if left.isNumber && right.isNumber then .ok (exceedsNumber left right)
      else .error .wrongType

def itemsExceed : List Value → List Value → Except Failure Bool
  | [], _ => .ok false
  | _ :: _, [] => .ok true
  | left :: lefts, right :: rights =>
      if agrees left right then itemsExceed lefts rights else exceeds left right

end

/-- The first value, unless the second is above it. -/
def orHigher (left right : Value) : Except Failure Value :=
  (right.exceeds left).map fun higher => if higher then right else left

theorem exceeds_int (left right : Int) :
    exceeds (.int left) (.int right) = .ok (decide (right < left)) := by
  simp [exceeds, isNumber, exceedsNumber, rank?, integer?, Double.Rank.isBelow]

theorem orHigher_int (left right : Int) :
    orHigher (.int left) (.int right) = .ok (.int (max left right)) := by
  simp only [orHigher, exceeds_int, Except.map]
  by_cases higher : left < right
  · simp [higher, Int.max_eq_right (Int.le_of_lt higher)]
  · simp [higher, Int.max_eq_left (Int.not_lt.1 higher)]

end DiscoveryClient.Value
