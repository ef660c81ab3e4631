import DiscoveryClient.Schedule.Refresher

/-!
# Scripts of answers

A script gives answers in turn, and its last answer again and again.  A refresher
whose task and delays follow scripts is determined, so what it does can be told
without waiting.
-/

namespace DiscoveryClient.Schedule

open Log

/-- Answers in turn, of which the last stays. -/
abbrev Script := List (Except Failure Value)

namespace Script

/-- The next answer; an empty script answers with nothing. -/
def next : Script → Except Failure Value × Script
  | [] => (.ok .null, [])
  | [last] => (last, [last])
  | first :: rest => (first, rest)

@[simp] theorem next_singleton (answer : Except Failure Value) :
    next [answer] = (answer, [answer]) := rfl

@[simp] theorem next_cons_cons (first second : Except Failure Value) (rest : Script) :
    next (first :: second :: rest) = (first, second :: rest) := rfl

end Script

/-- A refresher that follows scripts, and how often its task was run.  Without an
initial delay of its own it asks for the usual one. -/
structure Plan where
  interval : Script
  initial : Option Script := none
  task : Script
  runs : Nat := 0

/-- A delay that a refresher asks for: the one before the first run, or one between
two runs. -/
inductive Request where
  | initialDelay
  | interval
  deriving DecidableEq

namespace Plan

/-- What a loop asks for before its first wait. -/
def firstRequest (plan : Plan) : Request :=
  if plan.initial.isSome then .initialDelay else .interval

/-- The next answer to a request. -/
def ask (request : Request) : Act Plan (Except Failure Value) := do
  match request, (← Act.state).initial with
  | .initialDelay, some initial => do
      let (answer, initial) := initial.next
      Act.modifyState fun plan => { plan with initial := some initial }
      return answer
  | _, _ => do
      let (answer, interval) := (← Act.state).interval.next
      Act.modifyState fun plan => { plan with interval }
      return answer

/-- The delay between two runs. -/
def nextDelay (name : Value) : Act Plan Double := do
  Act.record (delay name (← ask .interval))

/-- The delay before the first run. -/
def firstDelay (name : Value) : Act Plan Double := do
  Act.record (delay name (← ask .initialDelay))

/-- Run the task; the answer is how often it was run. -/
def run (name : Value) : Act Plan Nat := do
  Act.modifyState fun plan => { plan with runs := plan.runs + 1 }
  runOnce name do
    let (answer, task) := (← Act.state).task.next
    Act.modifyState fun plan => { plan with task }
    return answer
  return (← Act.state).runs

end Plan

end DiscoveryClient.Schedule
