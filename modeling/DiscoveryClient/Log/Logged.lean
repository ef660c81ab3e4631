import DiscoveryClient.Log.Event

/-!
# Results with log events

A computation that logs gives its value together with the events it logged,
in order.
-/

namespace DiscoveryClient.Log

structure Logged (α : Type) where
  value : α
  events : List Event := []

namespace Logged

instance : Monad Logged where
  pure value := { value }
  bind first next :=
    let second := next first.value
    { value := second.value, events := first.events ++ second.events }

/-- Log one event. -/
def log (event : Event) : Logged Unit :=
  { value := (), events := [event] }

variable {α β : Type}

@[simp] theorem value_pure (value : α) : (pure value : Logged α).value = value := rfl

@[simp] theorem events_pure (value : α) : (pure value : Logged α).events = [] := rfl

@[simp] theorem value_bind (first : Logged α) (next : α → Logged β) :
    (first >>= next).value = (next first.value).value := rfl

@[simp] theorem events_bind (first : Logged α) (next : α → Logged β) :
    (first >>= next).events = first.events ++ (next first.value).events := rfl

@[simp] theorem events_log (event : Event) : (log event).events = [event] := rfl

end Logged

end DiscoveryClient.Log
