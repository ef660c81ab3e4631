import DiscoveryClient.Schedule.Script

/-!
# The loop of a refresher

A loop asks for its first delay.  Then it waits, runs the task and asks for the next
delay in turn, until a wait sees the stop signal.  The signal may come at any time,
but nothing else looks at it.

There is a longest wait that a platform allows.  The loop breaks off at a wait that
is longer.
-/

namespace DiscoveryClient.Schedule

/-- What a loop does. -/
inductive Moment where
  | ask (request : Request) (answer : Except Failure Value)
  | wait (seconds : Double) (stopped : Bool)
  | run

def runs (moments : List Moment) : Nat :=
  moments.countP fun
    | .run => true
    | _ => false

inductive Place where
  | starting
  | waiting (seconds : Double)
  /-- The wait has run out, and the task is to be run. -/
  | due
  /-- The task has been run, and the next delay is to be asked for. -/
  | asking
  /-- A wait has seen the stop signal. -/
  | stopped
  /-- A wait was longer than the platform allows. -/
  | broken
  deriving DecidableEq

/-- Does a wait last longer than so many seconds?  What is not a number is no longer
than any. -/
def isBeyond (longest : Nat) (seconds : Double) : Bool :=
  seconds.rank?.any (Double.Rank.exact longest 1).isBelow

/-- The longest wait that the common platforms allow, in seconds. -/
def longestWait : Nat := 9223372036

structure Loop where
  place : Place := .starting
  moments : List Moment := []

namespace Loop

def moved (loop : Loop) (place : Place) (moment : Moment) : Loop :=
  ⟨place, loop.moments ++ [moment]⟩

def ask (name : Value) (request : Request) (loop : Loop) : Act Plan Loop := do
  let answer ← Plan.ask request
  let seconds ← Act.record (delay name answer)
  return loop.moved (.waiting seconds) (.ask request answer)

/-- One step of a loop, by whether the stop signal has been given.  A wait that sees
none goes on to its end. -/
def step (longest : Nat) (name : Value) (signalled : Bool) (loop : Loop) : Act Plan Loop :=
  match loop.place with
  | .starting => do loop.ask name (← Act.state).firstRequest
  | .waiting seconds =>
      if signalled then return loop.moved .stopped (.wait seconds true)
      else if isBeyond longest seconds then return { loop with place := .broken }
      else return loop.moved .due (.wait seconds false)
  | .due => do
      let _ ← Plan.run name
      return loop.moved .asking .run
  | .asking => loop.ask name .interval
  | .stopped | .broken => return loop

def steps (longest : Nat) (name : Value) (signalled : Bool) : Nat → Loop → Act Plan Loop
  | 0, loop => return loop
  | count + 1, loop => do
      steps longest name signalled count (← loop.step longest name signalled)

/-- A loop from its start, with the stop signal after some of its steps. -/
def run (longest : Nat) (name : Value) (before after : Nat) : Act Plan Loop := do
  steps longest name true after (← steps longest name false before {})

end Loop

end DiscoveryClient.Schedule
