import DiscoveryClient.Address.HostName
import DiscoveryClient.Address.Order
import DiscoveryClient.Identity.Refresh
import DiscoveryClient.Metadata.Feed
import DiscoveryClient.Properties.Store
import DiscoveryClient.Schedule.Refresher
import DiscoveryClient.Time.Clock

/-!
# Scenarios of an identity

A scenario is a list of steps on one coordinator and its surroundings: refreshes,
changes of metadata, properties and provider, acknowledgements and listeners.
Steps can also be hung up on a read of the metadata or a call of the provider, or
given to a listener; they then run inside the refresh that comes by, which may
overlap further refreshes in turn.

The scenario can change only metadata that it has in hand, and only the reads of
such metadata can be hooked or made to fail.  Defining a listener
again leaves the listeners alone that are registered already.

Every hook runs once and every listener runs its steps once, so a run ends after
no more nested levels than there are such bodies in the scenario.
-/

namespace DiscoveryClient.Identity

open Log

/-- What a hook can wait for. -/
inductive Occasion where
  | read (wireName : String)
  | hostName
  | ipAddress
  deriving DecidableEq, Repr, Inhabited

namespace Occasion

def name : Occasion → String
  | .read wireName => "read:" ++ wireName
  | .hostName => "host_name"
  | .ipAddress => "ip_address"

end Occasion

/-- On which side of the answer a hook runs. -/
inductive Side where
  | before
  | after
  deriving DecidableEq, Repr, Inhabited

def Side.name : Side → String
  | .before => "before"
  | .after => "after"

inductive Step where
  | refresh
  | refreshChanges
  /-- A refresh that a periodic refresher runs. -/
  | runOnce
  | setMetadata (values : Value)
  | deleteMetadata (field : Value)
  /-- Which metadata reads fail from now on, `*` standing for all. -/
  | failMetadata (failures : List (String × Failure))
  | setProperties (values : Value)
  | removeProperty (key : Value)
  | setProvider (hostName ipAddress : Value)
  /-- Which calls of the provider fail from now on. -/
  | failProvider (hostName ipAddress : Option Failure)
  | clearDirty (asOf : Option Value)
  | activity
  | snapshot
  | defineListener (name : String) (failure : Option Failure) (steps : List Step)
  | addListener (name : String)
  | removeListener (name : String)
  /-- Hang steps up on an occasion and a side of it, both given by name. -/
  | hook (occasion side : String) (steps : List Step)
  /-- A step that is not one of these. -/
  | unknown (operation : Value)
  deriving Inhabited

/-- A hook whose occasion or side has no such name never runs. -/
structure Hook where
  occasion : String
  side : String
  steps : List Step
  deriving Inhabited

/-- A listener runs its steps when it is first called, and fails at every call
if it is to fail at all. -/
structure Listener where
  id : ListenerId
  failure : Option Failure
  steps : List Step
  deriving Inhabited

/-! ## Reports -/

/-- What a step answers. -/
inductive Answer where
  | nothing
  | truth (value : Bool)
  | outcome (value : Outcome)
  | activity (value : Activity)
  | value (value : Value)
  deriving Repr, Inhabited

/-- The coordinator as seen from outside, and how often the provider answered. -/
structure View where
  snapshot : Snapshot
  activity : Activity
  lastOutcome : Option Outcome
  providerCalls : Nat
  deriving Repr, Inhabited

mutual

structure Report where
  answer : Except Failure Answer
  view : View
  notices : List Notice

/-- What happened at the edge of the coordinator during a step. -/
inductive Notice where
  | provider (occasion : Occasion)
  | hook (occasion : Occasion) (reports : List Report)
  | listener (name : String) (change : Change) (reports : Option (List Report))

end

/-! ## Surroundings -/

structure Stage where
  properties : PropertyStore := .empty
  scope : Value := .text "eureka."
  center : DataCenter
  /-- The metadata in hand, which is the mapping that the data center refers to. -/
  feed : Option MetadataFeed := none
  provider : HostName.Fixed
  hostNameFailure : Option Failure := none
  ipAddressFailure : Option Failure := none
  providerCalls : Nat := 0
  clock : Clock := .frozen (.int 1700000000000)
  hooks : List Hook := []
  listeners : List Listener := []
  notices : List Notice := []

abbrev Play := Act (Site Stage)

namespace Stage

def reader (stage : Stage) : PropertyReader where
  source := stage.properties.get?
  scope := stage.scope

/-- The hook that is due, and the ones that remain. -/
def takeHook (occasion : Occasion) (side : Side) : List Hook → Option Hook × List Hook
  | [] => (none, [])
  | hook :: rest =>
      if hook.occasion = occasion.name ∧ hook.side = side.name then (some hook, rest)
      else
        let (found, rest) := takeHook occasion side rest
        (found, hook :: rest)

/-- The latest definition of a listener; the others keep their numbers. -/
def listener? (stage : Stage) (name : String) : Option Listener :=
  stage.listeners.find? fun listener => listener.id.name = name

def defineListener (stage : Stage) (name : String) (failure : Option Failure)
    (steps : List Step) : Stage :=
  { stage with
    listeners := ⟨⟨name, stage.listeners.length⟩, failure, steps⟩ :: stage.listeners }

/-- The steps of a listener, which are taken from it, and its failure. -/
def takeSteps (id : ListenerId) : List Listener → List Step × Option Failure × List Listener
  | [] => ([], none, [])
  | listener :: rest =>
      if listener.id = id then
        (listener.steps, listener.failure, { listener with steps := [] } :: rest)
      else
        let (steps, failure, rest) := takeSteps id rest
        (steps, failure, listener :: rest)

end Stage

namespace Scenario

def stage : Play Stage := do
  return (← Act.state).outside

def modifyStage (change : Stage → Stage) : Play Unit :=
  Act.modifyState fun site => { site with outside := change site.outside }

def notice (notice : Notice) : Play Unit :=
  modifyStage fun stage => { stage with notices := stage.notices ++ [notice] }

def view : Play View := do
  let site ← Act.state
  return {
    snapshot := site.coordinator.snapshot
    activity := site.coordinator.activity
    lastOutcome := site.coordinator.lastOutcome
    providerCalls := site.outside.providerCalls }

/-- Runs nested steps. -/
abbrev Runner := List Step → Play (List Report)

/-- Run the hook that is due, if there is one. -/
def runHook (run : Runner) (occasion : Occasion) (side : Side) : Play Unit := do
  let (found, hooks) := Stage.takeHook occasion side (← stage).hooks
  modifyStage fun stage => { stage with hooks }
  match found with
  | none => return ()
  | some hook => do
      let reports ← run hook.steps
      notice (.hook occasion reports)

/-- Answer one question, with the hooks on both sides of it.  The hook behind
the answer does not run when the question fails. -/
def answering {α : Type} (run : Runner) (occasion : Occasion)
    (failure? : Stage → Option Failure) (answer : Play α) : Play (Except Failure α) := do
  runHook run occasion .before
  match failure? (← stage) with
  | some failure => return .error failure
  | none => do
      let value ← answer
      runHook run occasion .after
      return .ok value

/-- Call the provider, which counts the calls that it answers. -/
def callProvider (run : Runner) (occasion : Occasion) (failure? : Stage → Option Failure)
    (value : HostName.Fixed → Value) : Play (Except Failure Value) := do
  notice (.provider occasion)
  answering run occasion failure? do
    modifyStage fun stage => { stage with providerCalls := stage.providerCalls + 1 }
    return value (← stage).provider

/-- Read a field of the metadata.  Only metadata in hand can be hooked. -/
def readMetadata (run : Runner) (key : MetadataField) : Play (Except Failure Value) := do
  if (← stage).feed.isSome then
    answering run (.read key.wireName) (·.feed.bind (·.failure? key)) do
      return ((← stage).feed.getD {}).value key
  else return (← stage).center.get key

/-- Call a listener. -/
def callListener (run : Runner) (id : ListenerId) (change : Change) :
    Play (Except Failure Unit) := do
  let (steps, failure, listeners) := Stage.takeSteps id (← stage).listeners
  modifyStage fun stage => { stage with listeners }
  if steps.isEmpty then notice (.listener id.name change none)
  else
    let reports ← run steps
    notice (.listener id.name change (some reports))
  return failure.elim (.ok ()) .error

def readClock : Play (Except Failure Value) := do
  let (now, clock) := (← stage).clock.read
  modifyStage fun stage => { stage with clock }
  return now

def surroundings (run : Runner) (center : DataCenterKind) : Surroundings Stage where
  dataCenter := center
  hasMetadata := return (← stage).center.hasMetadata
  hostOrder := return Address.hostOrder (← stage).reader
  ipOrder := return Address.ipOrder (← stage).reader
  read := readMetadata run
  hostName := callProvider run .hostName (·.hostNameFailure) (·.hostName)
  ipAddress := callProvider run .ipAddress (·.ipAddressFailure) (·.ipAddress)
  now := readClock
  notify := callListener run

/-! ## Steps -/

/-- Change the metadata in hand, and answer from what it was before. -/
def withFeed (answer : MetadataFeed → Answer)
    (change : MetadataFeed → Except Failure MetadataFeed) : Play (Except Failure Answer) := do
  match (← stage).feed with
  | none => return .error .noSuchOperation
  | some feed =>
      match change feed with
      | .error failure => return .error failure
      | .ok changed => do
          modifyStage fun stage => { stage with feed := some changed }
          return .ok (answer feed)

/-- Change the properties, unless the change is refused. -/
def changeProperties (change : PropertyStore → Except Failure PropertyStore) :
    Play (Except Failure Answer) := do
  match change (← stage).properties with
  | .error failure => return .error failure
  | .ok properties => do
      modifyStage fun stage => { stage with properties }
      return .ok .nothing

/-- Add a listener to the registered ones or take it away, by its latest definition. -/
def withListener (change : Coordinator → ListenerId → Coordinator) (name : String) :
    Play (Except Failure Answer) := do
  match (← stage).listener? name with
  | none => return .error (.missingKey (.text name))
  | some listener => do
      update (change · listener.id)
      return .ok .nothing

def perform (run : Runner) (step : Step) : Play (Except Failure Answer) := do
  let surroundings := surroundings run (← stage).center.name
  match step with
  | .refresh => return (← refresh surroundings).map .outcome
  | .refreshChanges => return (← refreshChanges surroundings).map .truth
  | .runOnce => do
      Schedule.runOnce Schedule.defaultName (refreshChanges surroundings)
      return .ok .nothing
  | .setMetadata values =>
      withFeed (fun _ => .nothing) fun feed =>
        values.entries.map fun entries =>
          { feed with values := feed.values.insertAll (Value.namedEntries entries) }
  | .deleteMetadata field =>
      withFeed (fun feed => .value ((feed.held? field).getD .null)) (·.drop field)
  | .failMetadata failures =>
      withFeed (fun _ => .nothing) fun feed => .ok { feed with failures }
  | .setProperties values => changeProperties (·.update values)
  | .removeProperty key => changeProperties (·.remove key)
  | .setProvider hostName ipAddress => do
      modifyStage fun stage => { stage with provider := { hostName, ipAddress } }
      return .ok .nothing
  | .failProvider hostNameFailure ipAddressFailure => do
      modifyStage fun stage => { stage with hostNameFailure, ipAddressFailure }
      return .ok .nothing
  | .clearDirty asOf => return (← atomically (·.clearDirty asOf)).map .truth
  | .activity => return .ok (.activity (← coordinator).activity)
  | .snapshot => return .ok .nothing
  | .defineListener name failure steps => do
      modifyStage (·.defineListener name failure steps)
      return .ok .nothing
  | .addListener name => withListener Coordinator.addListener name
  | .removeListener name => withListener Coordinator.removeListener name
  | .hook occasion side steps => do
      modifyStage fun stage => { stage with hooks := stage.hooks ++ [⟨occasion, side, steps⟩] }
      return .ok .nothing
  | .unknown operation => return .error (.unknownOperation operation)

/-- Perform a step and report on it.  The notices of a step are its own; those
around it are put aside. -/
def report (run : Runner) (step : Step) : Play Report := do
  let outer := (← stage).notices
  modifyStage fun stage => { stage with notices := [] }
  let answer ← perform run step
  let notices := (← stage).notices
  modifyStage fun stage => { stage with notices := outer }
  return { answer, view := ← view, notices }

/-- Run steps whose hooks and listeners are nested up to a depth. -/
def runSteps : (depth : Nat) → Runner
  | 0, _ => return []
  | depth + 1, steps => steps.mapM (report (runSteps depth))

mutual

/-- How many hooks and listeners with steps of their own a step holds. -/
def bodies : Step → Nat
  | .defineListener _ _ steps => 1 + bodiesOf steps
  | .hook _ _ steps => 1 + bodiesOf steps
  | _ => 0

def bodiesOf : List Step → Nat
  | [] => 0
  | step :: rest => bodies step + bodiesOf rest

end

/-- A step of the scenario with everything that was logged and counted in it. -/
structure Record where
  report : Report
  events : List Event
  counts : List Count

/-- Run one step of the scenario with an empty journal of its own. -/
def recordStep (depth : Nat) (step : Step) : Play Record := do
  Act.writeJournal fun journal => { journal with events := [], counts := [] }
  let report ← report (runSteps depth) step
  let journal := (← get).journal
  return { report, events := journal.events, counts := journal.counts }

/-- Run a scenario: the records of its steps, and the last value of the gauge. -/
def run (initial : Snapshot) (stage : Stage) (steps : List Step) : List Record × Double :=
  let (records, world) := steps.mapM (recordStep (bodiesOf steps))
    { state := { coordinator := { snapshot := initial }, outside := stage } }
  (records, world.journal.lastChange)

end Scenario

end DiscoveryClient.Identity
