import DiscoveryClient.Failure

/-!
# Entries of a value

A mapping gives its entries.  Any other value that can be run through gives one
entry for each of its items, which must be pairs of a key and a value: a list
or tuple of two, a text of two characters, or a mapping with two names.

Keys must be values that never change.
-/

namespace DiscoveryClient.Value

abbrev Entry := Value × Value

/-- The complaint about an item with so many elements. -/
def notPair (index size : Nat) : Failure :=
  .refusedValue ("dictionary update sequence element #" ++ toString index ++ " has length " ++
    toString size ++ "; 2 is required")

/-- The entry that the item at an index stands for. -/
def entryOf (index : Nat) (item : Value) : Except Failure Entry :=
  match item.elements? with
  | none => .error .wrongType
  | some [key, value] => if key.isFixed then .ok (key, value) else .error .wrongType
  | some elements => .error (notPair index elements.length)

/-- The entries of items, of which the first has the given index. -/
def entriesFrom (index : Nat) : List Value → Except Failure (List Entry)
  | [] => .ok []
  | item :: rest => do
      let entry ← entryOf index item
      let entries ← entriesFrom (index + 1) rest
      .ok (entry :: entries)

def entries : Value → Except Failure (List Entry)
  | .dict entries => .ok (entries.map fun (name, value) => (.text name, value))
  | value => value.elements?.elim (.error .wrongType) (entriesFrom 0)

/-- The entries whose keys are texts. -/
def namedEntries (entries : List Entry) : List (String × Value) :=
  entries.filterMap fun
    | (.text name, value) => some (name, value)
    | _ => none

end DiscoveryClient.Value
