import DiscoveryClient.Properties.File
import DiscoveryClient.Properties.Store

/-!
# Layered properties

Sources of properties lie over each other.  The topmost source that holds a
key answers for it, whatever it holds there.
-/

namespace DiscoveryClient

/-- A source of properties: a store that can be written, or files. -/
inductive Layer where
  | memory (store : PropertyStore)
  | files (source : FileSource)
  deriving Inhabited

namespace Layer

def get? : Layer → String → Option Value
  | .memory store, key => store.get? key
  | .files source, key => source.served.get? key

/-- The value under a key of any type; files hold texts as keys alone. -/
def look : Layer → (key : Value) → Except Failure (Option Value)
  | .memory store, key => store.look key
  | .files source, key => ({ named := source.served } : PropertyStore).look key

/-- All that the source holds. -/
def entries : Layer → List (String × Value)
  | .memory store => store.entries
  | .files source => source.served.entries

def isWatched : Layer → Bool
  | .memory _ => false
  | .files source => source.isWatched

def close : Layer → Layer
  | .memory store => .memory store
  | .files source => .files source.close

end Layer

/-- Sources with the topmost one first. -/
abbrev Layered := List Layer

namespace Layered

/-- The value that the topmost source holding the key has for it. -/
def get? (layers : Layered) (key : String) : Option Value :=
  layers.findSome? fun layer => layer.get? key

/-- The value that the topmost source holding a key of any type has for it. -/
def look : Layered → (key : Value) → Except Failure (Option Value)
  | [], _ => .ok none
  | layer :: rest, key => do
      match ← layer.look key with
      | some value => .ok (some value)
      | none => look rest key

/-- Close every source that can be closed. -/
def close (layers : Layered) : Layered :=
  layers.map Layer.close

theorem get?_cons (layer : Layer) (layers : Layered) (key : String) :
    get? (layer :: layers) key = (layer.get? key).or (get? layers key) := by
  unfold get?
  rw [List.findSome?_cons]
  cases layer.get? key <;> rfl

theorem look_text (layers : Layered) (key : String) :
    look layers (.text key) = .ok (get? layers key) := by
  induction layers with
  | nil => rfl
  | cons layer rest induction =>
      have found : layer.look (.text key) = .ok (layer.get? key) := by cases layer <;> rfl
      rw [get?_cons, look, found]
      change (match layer.get? key with
        | some value => Except.ok (some value)
        | none => look rest (.text key)) = _
      cases layer.get? key with
      | some value => rfl
      | none => exact induction

end Layered

end DiscoveryClient
