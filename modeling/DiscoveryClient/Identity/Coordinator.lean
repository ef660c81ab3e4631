import DiscoveryClient.Failure
import DiscoveryClient.Value.Order

/-!
# The identity of an instance

A coordinator holds the identity that an instance advertises: its host name,
its address, the time of the last change, and whether the change still has to
be published.  Refreshes may overlap.  Each takes a sequence number when it
begins, and a result is discarded when a later refresh has applied one before.

The operations below are the atomic steps from which refreshes are made.
-/

namespace DiscoveryClient.Identity

/-- The identity at one point in time; times are milliseconds of the epoch.  The
identity that a coordinator begins with may hold any values. -/
structure Snapshot where
  hostName : Value
  ipAddress : Value
  lastUpdatedAt : Value := .int 0
  dirty : Value := .bool false
  deriving Repr, Inhabited

/-- What a refresh has found. -/
structure Candidates where
  hostName : Value
  ipAddress : Value
  deriving Repr, Inhabited

/-- Do candidates name the same host and address? -/
def Candidates.agree (left right : Candidates) : Bool :=
  left.hostName.equals right.hostName && left.ipAddress.equals right.ipAddress

/-- The names of the fields from which an identity is made, needed ones first. -/
def Snapshot.fieldNames : List String :=
  ["host_name", "ip_addr", "last_updated_at", "dirty"]

/-- The identity of named fields.  Host name and address must be among them, and
no others than the names of an identity. -/
def Snapshot.ofFields (fields : List (String × Value)) : Except Failure Snapshot :=
  match fields.lookup "host_name", fields.lookup "ip_addr" with
  | some hostName, some ipAddress =>
      if fields.all fun field => fieldNames.contains field.1 then
        .ok {
          hostName, ipAddress
          lastUpdatedAt := (fields.lookup "last_updated_at").getD (.int 0)
          dirty := (fields.lookup "dirty").getD (.bool false) }
      else .error .wrongType
  | _, _ => .error .wrongType

/-- An applied change. -/
structure Change where
  previous : Snapshot
  current : Snapshot
  deriving Repr, Inhabited

inductive Outcome where
  | updated
  | unchanged
  deriving DecidableEq, Repr, Inhabited

def Outcome.name : Outcome → String
  | .updated => "updated"
  | .unchanged => "unchanged"

/-- Is any refresh under way? -/
inductive Activity where
  | idle
  | refreshing
  deriving DecidableEq, Repr, Inhabited

def Activity.name : Activity → String
  | .idle => "idle"
  | .refreshing => "refreshing"

def Snapshot.candidates (snapshot : Snapshot) : Candidates :=
  ⟨snapshot.hostName, snapshot.ipAddress⟩

/-- The snapshot as a document. -/
def Snapshot.document (snapshot : Snapshot) : Value :=
  .dict [
    ("host_name", snapshot.hostName),
    ("ip_addr", snapshot.ipAddress),
    ("last_updated_at", snapshot.lastUpdatedAt),
    ("dirty", snapshot.dirty) ]

/-- A listener, told from others of the same name by a number of its own. -/
structure ListenerId where
  name : String
  number : Nat
  deriving DecidableEq, Repr, Inhabited

/-- The listener as messages show it. -/
def ListenerId.shown (listener : ListenerId) : String :=
  "<listener " ++ listener.name ++ ">"

structure Coordinator where
  snapshot : Snapshot
  /-- The number of the refresh whose result was applied last. -/
  appliedSequence : Nat := 0
  /-- The number of the refresh that began last. -/
  lastSequence : Nat := 0
  /-- How many refreshes are under way. -/
  inFlight : Nat := 0
  /-- Listeners in the order of their registration, perhaps several times. -/
  listeners : List ListenerId := []
  lastOutcome : Option Outcome := none
  deriving Repr, Inhabited

namespace Coordinator

/-! ## Refreshes -/

def activity (coordinator : Coordinator) : Activity :=
  if coordinator.inFlight = 0 then .idle else .refreshing

/-- Begin a refresh, which takes the next number. -/
def start (coordinator : Coordinator) : Nat × Coordinator :=
  let sequence := coordinator.lastSequence + 1
  (sequence, { coordinator with
    lastSequence := sequence
    inFlight := coordinator.inFlight + 1 })

def leave (coordinator : Coordinator) : Coordinator :=
  { coordinator with inFlight := coordinator.inFlight - 1 }

def finish (coordinator : Coordinator) (outcome : Outcome) : Coordinator :=
  { coordinator with lastOutcome := some outcome }

/-- Would the candidates change the identity? -/
def wouldChange (coordinator : Coordinator) (sequence : Nat) (found : Candidates) : Bool :=
  coordinator.appliedSequence ≤ sequence && !found.agree coordinator.snapshot.candidates

/-- Note that a refresh has got as far as applying, unless a later one has. -/
def advance (coordinator : Coordinator) (sequence : Nat) : Coordinator :=
  { coordinator with appliedSequence := max coordinator.appliedSequence sequence }

/-- Put the candidates in place of the identity, with its time still to come. -/
def replace (coordinator : Coordinator) (found : Candidates) : Coordinator :=
  { coordinator with
    snapshot :=
      { coordinator.snapshot with
        hostName := found.hostName
        ipAddress := found.ipAddress
        dirty := .bool true } }

def stamp (coordinator : Coordinator) (time : Value) : Coordinator :=
  { coordinator with snapshot := { coordinator.snapshot with lastUpdatedAt := time } }

/-- The time of a change that happens now, which is never before the last one. -/
def timeOfChange (coordinator : Coordinator) (now : Except Failure Value) :
    Except Failure Value := do
  (← now).orHigher coordinator.snapshot.lastUpdatedAt

/-- Apply candidates under the number of their refresh.  The clock is asked only
when they would change the identity; if there is no time then, the change is in
place without it. -/
def apply (coordinator : Coordinator) (sequence : Nat) (found : Candidates)
    (now : Except Failure Value) : Except Failure (Option Change) × Coordinator :=
  if coordinator.wouldChange sequence found then
    let replaced := (coordinator.advance sequence).replace found
    match coordinator.timeOfChange now with
    | .error failure => (.error failure, replaced)
    | .ok time =>
        let stamped := replaced.stamp time
        (.ok (some ⟨coordinator.snapshot, stamped.snapshot⟩), stamped)
  else (.ok none, coordinator.advance sequence)

/-! ## Publication -/

/-- Acknowledge that the identity has been published.  With the time of the
published snapshot, a later change keeps the mark. -/
def clearDirty (coordinator : Coordinator) (asOf : Option Value) :
    Except Failure Bool × Coordinator :=
  let snapshot := coordinator.snapshot
  let changedLater := asOf.elim (.ok false) snapshot.lastUpdatedAt.exceeds
  if !snapshot.dirty.isFilled then (.ok false, coordinator)
  else match changedLater with
    | .error failure => (.error failure, coordinator)
    | .ok true => (.ok false, coordinator)
    | .ok false =>
        (.ok true, { coordinator with snapshot := { snapshot with dirty := .bool false } })

/-! ## Listeners -/

def addListener (coordinator : Coordinator) (listener : ListenerId) : Coordinator :=
  { coordinator with listeners := coordinator.listeners ++ [listener] }

/-- Take away the first registration of a listener, if there is one. -/
def removeListener (coordinator : Coordinator) (listener : ListenerId) : Coordinator :=
  { coordinator with listeners := coordinator.listeners.erase listener }

end Coordinator

end DiscoveryClient.Identity
