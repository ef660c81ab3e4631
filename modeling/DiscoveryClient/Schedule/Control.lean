import DiscoveryClient.Schedule.Loop

/-!
# Starting and stopping loops

A refresher starts one loop after another, and all of them look at one signal.  To start
does nothing while the loop that is known runs; otherwise it takes the signal back and starts
a loop of its own.  To stop gives the signal, then forgets the loop that is known, and then
waits for its end, but not longer than some time, and not at all in the task of that loop.

The signal wakes a loop that is asleep in a wait, even if it is taken back at once.  A loop
that is elsewhere looks at the signal at its next wait.

Each call of the task is one of these actions or several of them, and actions of different
callers may come in any order.
-/

namespace DiscoveryClient.Schedule

open Log

def Place.isOver : Place → Bool
  | .stopped | .broken => true
  | _ => false

/-- Whether a loop sleeps in a wait. -/
inductive Rest where
  | awake
  | asleep
  /-- The signal came while it was asleep. -/
  | woken
  deriving DecidableEq

/-- A loop on a thread of its own. -/
structure Worker where
  loop : Loop := {}
  rest : Rest := .awake

namespace Worker

def isAlive (worker : Worker) : Bool :=
  !worker.loop.place.isOver

/-- The worker after the signal. -/
def wake (worker : Worker) : Worker :=
  if worker.rest = .asleep then { worker with rest := .woken } else worker

@[simp] theorem loop_wake (worker : Worker) : worker.wake.loop = worker.loop := by
  unfold wake
  split <;> rfl

theorem rest_wake_ne (worker : Worker) : worker.wake.rest ≠ .asleep := by
  unfold wake
  split
  · simp
  · assumption

/-- One step of the worker, by whether the signal is given.  A wait begins with a look at
the signal and then sleeps. -/
def step (longest : Nat) (name : Value) (signalled : Bool) (worker : Worker) :
    Act Plan Worker := do
  match worker.rest with
  | .woken => return { loop := ← worker.loop.step longest name true }
  | .asleep => return { loop := ← worker.loop.step longest name false }
  | .awake =>
      match worker.loop.place with
      | .waiting seconds =>
          if signalled || isBeyond longest seconds then
            return { loop := ← worker.loop.step longest name signalled }
          else return { worker with rest := .asleep }
      | _ => return { loop := ← worker.loop.step longest name signalled }

end Worker

/-- Who acts on a refresher: the task of one of its loops, by number, or anyone else. -/
abbrev Caller := Option Nat

structure Refresher where
  world : World Plan
  signalled : Bool := false
  /-- All that were ever started, in their order. -/
  workers : List Worker := []
  /-- The number of the loop that is known. -/
  known : Option Nat := none
  /-- The loops whose ends are awaited, with those who wait. -/
  awaited : List (Caller × Nat) := []

inductive Action where
  | start (caller : Caller)
  /-- The first half of a stop. -/
  | signal
  /-- The second half of a stop. -/
  | forget (caller : Caller)
  /-- The end of the wait behind a stop. -/
  | leave (caller : Caller) (number : Nat) (timedOut : Bool)
  /-- A step of a loop. -/
  | go (number : Nat)

namespace Action

/-- A loop goes on over so many waits, up to the next. -/
def rounds (number count : Nat) : List Action :=
  List.replicate (4 * count + 1) (.go number)

/-- A stop from outside while a loop sleeps, which waits for the end of the loop. -/
def stop (number : Nat) : List Action :=
  [.signal, .forget none, .go number, .leave none number false]

end Action

namespace Refresher

/-- The loop of a number, which has done nothing if it was never started. -/
def loop (refresher : Refresher) (number : Nat) : Loop :=
  refresher.workers[number]?.elim {} Worker.loop

/-- The refresher with another plan for what comes. -/
def modifyPlan (refresher : Refresher) (change : Plan → Plan) : Refresher :=
  { refresher with
    world := { refresher.world with state := change refresher.world.state } }

def isAlive (refresher : Refresher) (number : Nat) : Bool :=
  refresher.workers[number]?.any Worker.isAlive

def isRunning (refresher : Refresher) : Bool :=
  refresher.known.any refresher.isAlive

/-- Log an event; the task of a loop logs in the context of the loop. -/
def log (name : Value) (caller : Caller) (event : Event) (refresher : Refresher) : Refresher :=
  let block : Act Plan Unit := Act.log event
  let inContext := if caller.isSome then Act.withFields (context name) block else block
  { refresher with world := (inContext refresher.world).2 }

def start (name : Value) (caller : Caller) (refresher : Refresher) : Refresher :=
  if refresher.isRunning then refresher
  else
    { refresher with
      signalled := false
      workers := refresher.workers ++ [({} : Worker)]
      known := some refresher.workers.length }.log name caller (started name)

def signal (refresher : Refresher) : Refresher :=
  { refresher with signalled := true, workers := refresher.workers.map Worker.wake }

def forget (caller : Caller) (refresher : Refresher) : Refresher :=
  match refresher.known with
  | none => refresher
  | some number =>
      { refresher with
        known := none
        awaited :=
          if caller = some number then refresher.awaited
          else refresher.awaited ++ [(caller, number)] }

def leave (name : Value) (caller : Caller) (number : Nat) (timedOut : Bool)
    (refresher : Refresher) : Refresher :=
  if (caller, number) ∈ refresher.awaited ∧ (timedOut || !refresher.isAlive number) then
    { refresher with awaited := refresher.awaited.erase (caller, number) }.log name caller
      (stopped name refresher.world.state.runs)
  else refresher

def go (longest : Nat) (name : Value) (number : Nat) (refresher : Refresher) : Refresher :=
  match refresher.workers[number]? with
  | none => refresher
  | some worker =>
      let (worker, world) := worker.step longest name refresher.signalled refresher.world
      { refresher with world, workers := refresher.workers.set number worker }

def act (longest : Nat) (name : Value) (refresher : Refresher) : Action → Refresher
  | .start caller => refresher.start name caller
  | .signal => refresher.signal
  | .forget caller => refresher.forget caller
  | .leave caller number timedOut => refresher.leave name caller number timedOut
  | .go number => refresher.go longest name number

def acts (longest : Nat) (name : Value) (refresher : Refresher) (actions : List Action) :
    Refresher :=
  actions.foldl (act longest name) refresher

/-! ## What actions change -/

section

variable {longest : Nat} {name : Value} {refresher : Refresher}

@[simp] theorem signalled_log (caller : Caller) (event : Event) :
    (refresher.log name caller event).signalled = refresher.signalled := rfl

@[simp] theorem workers_log (caller : Caller) (event : Event) :
    (refresher.log name caller event).workers = refresher.workers := rfl

@[simp] theorem known_log (caller : Caller) (event : Event) :
    (refresher.log name caller event).known = refresher.known := rfl

@[simp] theorem awaited_log (caller : Caller) (event : Event) :
    (refresher.log name caller event).awaited = refresher.awaited := rfl

@[simp] theorem state_log (caller : Caller) (event : Event) :
    (refresher.log name caller event).world.state = refresher.world.state := by
  unfold log
  split <;> rfl

end

end Refresher

end DiscoveryClient.Schedule
