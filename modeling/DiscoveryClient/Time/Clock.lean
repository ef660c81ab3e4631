import DiscoveryClient.Number.Sum

/-!
# Clocks

A clock answers the milliseconds since the epoch.  Besides clocks that stand
still or advance by a step at each reading, there are clocks that read off a
list and fail when it is used up.
-/

namespace DiscoveryClient

inductive Clock where
  | frozen (now : Value)
  | stepping (next step : Value)
  | listed (readings : List Value)
  deriving Repr, Inhabited

namespace Clock

/-- The step of clocks that are given none. -/
def defaultStep : Value := .int 1

/-- A clock that counts.  Truth values are counted in integers if the step is one. -/
def counting (start step : Value) : Except Failure Clock :=
  if start.isNumber && step.isNumber then
    match start.integer?, step.integer? with
    | some first, some 1 => .ok (.stepping (.int first) step)
    | _, _ => .ok (.stepping start step)
  else .error .wrongType

def read : Clock → Except Failure Value × Clock
  | .frozen now => (.ok now, .frozen now)
  | .stepping now step =>
      match now.add step with
      | .ok next => (.ok now, .stepping next step)
      | .error failure => (.error failure, .stepping now step)
  | .listed [] => (.error .clockExhausted, .listed [])
  | .listed (now :: rest) => (.ok now, .listed rest)

theorem read_stepping_int (next step : Int) :
    (stepping (.int next) (.int step)).read =
      (.ok (.int next), .stepping (.int (next + step)) (.int step)) := rfl

end Clock

end DiscoveryClient
