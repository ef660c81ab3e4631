import DiscoveryClient.Journal
import DiscoveryClient.Number.Quantity

/-!
# Periodic refreshes

A refresher runs its task again and again, with delays between that it asks for
anew each time.  A task that fails is logged.  A delay that cannot be had, or is
not positive, is replaced by one second.
-/

namespace DiscoveryClient.Schedule

open Log

def loggerName : String := "discovery_sdk.tier1_runtime.scheduler"

def defaultName : Value := .text "discovery-refresh"

/-- The delay in place of one that cannot be used. -/
def fallbackSeconds : Double := .one

/-! ## Events of the log -/

def intervalFailed (name : Value) (failure : Failure) : Event :=
  Event.catching failure.summary {
    level := .error
    logger := loggerName
    name := .text "scheduler.interval.failed"
    fields := [("name", name)] }

def intervalInvalid (name : Value) (seconds : Double) : Event where
  level := .warning
  logger := loggerName
  name := .text "scheduler.interval.invalid"
  fields := [("name", name), ("seconds", .float seconds)]

def taskFailed (name : Value) (failure : Failure) : Event :=
  Event.catching failure.summary {
    level := .error
    logger := loggerName
    name := .text "scheduler.task.failed"
    fields := [("name", name)] }

def started (name : Value) : Event where
  level := .info
  logger := loggerName
  name := .text "scheduler.started"
  fields := [("name", name)]

def stopped (name : Value) (runs : Nat) : Event where
  level := .info
  logger := loggerName
  name := .text "scheduler.stopped"
  fields := [("name", name), ("runs", .int runs)]

/-! ## Delays -/

/-- The delay that an answer asks for. -/
def delay (name : Value) (answer : Except Failure Value) : Logged Double :=
  match answer.bind Quantity.ofValue with
  | .error failure => do
      Logged.log (intervalFailed name failure)
      pure fallbackSeconds
  | .ok seconds =>
      if seconds.isPositive || seconds.isNaN then pure seconds
      else do
        Logged.log (intervalInvalid name seconds)
        pure fallbackSeconds

/-! ## Runs -/

/-- The fields that are bound while the task runs. -/
def context (name : Value) : Context :=
  Mapping.empty.insert "refresher" name

/-- Run the task once and log its failure. -/
def runOnce {σ α : Type} (name : Value) (task : Act σ (Except Failure α)) : Act σ Unit :=
  Act.withFields (context name) do
    match ← task with
    | .ok _ => pure ()
    | .error failure => Act.log (taskFailed name failure)

end DiscoveryClient.Schedule
