import DiscoveryClient.Counters
import DiscoveryClient.Log.Context
import DiscoveryClient.Log.Logged
import DiscoveryClient.Number.Double

/-!
# Journals

What a run leaves behind besides its own state: the log events, each with the
context it was logged in, the counter increments, the last value of the gauge
of identity changes, and the context that is bound at the end.

`Act σ` is a step that works on a state `σ` and writes a journal.
-/

namespace DiscoveryClient

open Log

structure Journal where
  context : Context := .empty
  events : List Event := []
  counts : List Count := []
  /-- The gauge of the time of the last identity change. -/
  lastChange : Double := .zero
  deriving Inhabited

namespace Journal

def log (journal : Journal) (event : Event) : Journal :=
  { journal with events := journal.events ++ [event.within journal.context.entries] }

def count (journal : Journal) (count : Count) : Journal :=
  { journal with counts := journal.counts ++ [count] }

end Journal

structure World (σ : Type) where
  state : σ
  journal : Journal := {}

abbrev Act (σ : Type) := StateM (World σ)

namespace Act

variable {σ α : Type}

def state : Act σ σ := do
  return (← get).state

def modifyState (change : σ → σ) : Act σ Unit :=
  modify fun world => { world with state := change world.state }

def writeJournal (change : Journal → Journal) : Act σ Unit :=
  modify fun world => { world with journal := change world.journal }

def log (event : Event) : Act σ Unit :=
  writeJournal (·.log event)

def count (count : Count) : Act σ Unit :=
  writeJournal (·.count count)

/-- Log the events of a result and go on with its value. -/
def record (logged : Logged α) : Act σ α := do
  writeJournal fun journal => logged.events.foldl Journal.log journal
  return logged.value

/-- Run a block with fields bound to it. -/
def withFields (fields : Context) (block : Act σ α) : Act σ α := do
  let before := (← get).journal.context
  writeJournal fun journal => { journal with context := Context.enter fields before }
  let result ← block
  writeJournal fun journal =>
    { journal with context := Context.leave fields before journal.context }
  return result

/-! ### Steps in a world -/

section

variable {β : Type} (world : World σ)

theorem pure_apply (value : α) : (pure value : Act σ α) world = (value, world) := rfl

theorem bind_apply (first : Act σ α) (next : α → Act σ β) :
    (first >>= next) world = next (first world).1 (first world).2 := rfl

theorem state_apply : state world = (world.state, world) := rfl

theorem modifyState_apply (change : σ → σ) :
    modifyState change world = ((), { world with state := change world.state }) := rfl

theorem log_apply (event : Event) :
    log event world = ((), { world with journal := world.journal.log event }) := rfl

theorem record_apply (logged : Logged α) :
    record logged world =
      (logged.value,
        { world with journal := logged.events.foldl Journal.log world.journal }) := rfl

theorem withFields_apply (fields : Context) (block : Act σ α) :
    withFields fields block world =
      let (result, after) := block { world with
        journal := { world.journal with context := Context.enter fields world.journal.context } }
      (result, { after with
        journal := { after.journal with
          context := Context.leave fields world.journal.context after.journal.context } }) := rfl

end

end Act

end DiscoveryClient
