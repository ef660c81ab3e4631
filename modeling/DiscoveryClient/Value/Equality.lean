import DiscoveryClient.Mapping
import DiscoveryClient.Value

/-!
# Equal values

Numbers are equal when they have the same value, whatever their kind, and
truth values count as zero and one.  Lists and tuples are equal item by item
with their own kind, mappings whatever the order of their entries.

What is not a number does not equal anything.  Within a list, a tuple or a
mapping it still agrees with itself, which its payload tells.
-/

namespace DiscoveryClient.Value

/-- The integer that an integer or truth value stands for. -/
def integer? : Value → Option Int
  | .bool value => some (if value then 1 else 0)
  | .int value => some value
  | _ => none

def isNumber : Value → Bool
  | .bool _ | .int _ | .float _ => true
  | _ => false

/-- Where a number stands among all numbers. -/
def rank? : Value → Option Double.Rank
  | .float value => value.rank?
  | value => value.integer?.map fun value => .exact value 1

/-- Equality of numbers, of which truth values are two. -/
def equalsNumber (left right : Value) : Bool :=
  match left.rank?, right.rank? with
  | some left, some right => left.isLevel right
  | _, _ => false

/-- The same thing that is not a number. -/
def isSameNaN : Value → Value → Bool
  | .float (.nan left), .float (.nan right) => left == right
  | _, _ => false

mutual

def equals : Value → Value → Bool
  | .null, .null => true
  | .text left, .text right => left == right
  | .list left, .list right => equalsItems left right
  | .tuple left, .tuple right => equalsItems left right
  | .dict left, .dict right => left.length == right.length && holdsEntries left right
  | left, right => equalsNumber left right

def equalsItems : List Value → List Value → Bool
  | [], [] => true
  | left :: lefts, right :: rights =>
      (isSameNaN left right || equals left right) && equalsItems lefts rights
  | _, _ => false

/-- Does the second mapping hold every entry of the first? -/
def holdsEntries : List (String × Value) → List (String × Value) → Bool
  | [], _ => true
  | (key, left) :: rest, entries =>
      (match Mapping.lookup key entries with
        | some right => isSameNaN left right || equals left right
        | none => false) && holdsEntries rest entries

end

/-- Equality as it counts within lists and mappings. -/
def agrees (left right : Value) : Bool :=
  isSameNaN left right || equals left right

@[simp] theorem equals_text (left right : String) :
    equals (.text left) (.text right) = (left == right) := by
  simp [equals]

@[simp] theorem agrees_text (left right : String) :
    agrees (.text left) (.text right) = (left == right) := by
  simp [agrees, isSameNaN]

end DiscoveryClient.Value
