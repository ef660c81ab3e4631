import DiscoveryClient.Log.Event
import DiscoveryClient.Mapping

/-!
# Log context

Fields can be bound to a block, so that every event inside the block carries
them.  Entering a block overrides the fields bound outside; leaving it takes
the block's fields away and brings back those they had overridden.
-/

namespace DiscoveryClient.Log

/-- The fields bound at the moment. -/
abbrev Context := Mapping Value

namespace Context

/-- The fields inside a block. -/
def enter (fields context : Context) : Context :=
  context.merge fields

/-- The fields after a block that was entered with `before` bound. -/
def leave (fields before inside : Context) : Context :=
  (inside.eraseAll fields.keys).merge (before.restrict fields.keys)

theorem get?_enter (fields context : Context) (name : String) :
    (enter fields context).get? name = (fields.get? name).or (context.get? name) :=
  Mapping.get?_merge context fields name

theorem get?_leave (fields before inside : Context) (name : String) :
    (leave fields before inside).get? name =
      if name ∈ fields.keys then before.get? name else inside.get? name := by
  rw [leave, Mapping.get?_merge, Mapping.get?_restrict, Mapping.get?_eraseAll]
  split <;> simp

/-- A block that leaves every name as it found it is left with every name bound as outside. -/
theorem get?_leave_of_same {fields before inside : Context}
    (same : ∀ name, inside.get? name = (enter fields before).get? name) (name : String) :
    (leave fields before inside).get? name = before.get? name := by
  rw [get?_leave]
  -- a name of the block is brought back, any other was never touched
  split
  · rfl
  · next absent => rw [same, get?_enter, Mapping.get?_eq_none absent, Option.none_or]

end Context

end DiscoveryClient.Log
