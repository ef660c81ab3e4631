import DiscoveryClient.Address.Resolution
import DiscoveryClient.Identity.Coordinator
import DiscoveryClient.Journal
import DiscoveryClient.Metadata.DataCenter
import DiscoveryClient.Number.Quantity

/-!
# Refreshing the identity

A refresh reads the two address orders, resolves a host name and an address by
them, applies the result, and tells the listeners of a change.  What it asks of
its surroundings may take any effect, further refreshes of the same coordinator
included; only the steps of the coordinator are atomic.

Failures of the surroundings end a refresh as unchanged.  Only the time of a
change can make it fail: a clock that fails while the change is applied, or a
time that cannot be recorded.
-/

namespace DiscoveryClient.Identity

open Log

def loggerName : String := "discovery_sdk.tier2_discovery.identity"

/-- The coordinator, and everything outside it. -/
structure Site (σ : Type) where
  coordinator : Coordinator
  outside : σ

/-- What a refresh asks of its surroundings. -/
structure Surroundings (σ : Type) where
  dataCenter : DataCenterKind
  hasMetadata : Act (Site σ) Bool
  hostOrder : Act (Site σ) (Except Failure (List String))
  ipOrder : Act (Site σ) (Except Failure (List String))
  read : MetadataField → Act (Site σ) (Except Failure Value)
  hostName : Act (Site σ) (Except Failure Value)
  ipAddress : Act (Site σ) (Except Failure Value)
  now : Act (Site σ) (Except Failure Value)
  notify : ListenerId → Change → Act (Site σ) (Except Failure Unit)

/-! ## Events of the log -/

def refreshFailed (failure : Failure) : Event where
  level := .warning
  logger := loggerName
  name := .text "identity.refresh.failed"
  fields := [("error", .text failure.shown)]

def refreshUnchanged (found : Candidates) : Event where
  level := .debug
  logger := loggerName
  name := .text "identity.refresh.unchanged"
  fields := [("host_name", found.hostName), ("ip_addr", found.ipAddress)]

def refreshUpdated (change : Change) : Event where
  level := .info
  logger := loggerName
  name := .text "identity.refresh.updated"
  fields :=
    [ ("previous_host_name", change.previous.hostName),
      ("previous_ip_addr", change.previous.ipAddress),
      ("host_name", change.current.hostName),
      ("ip_addr", change.current.ipAddress) ]

def listenerFailed (listener : ListenerId) (failure : Failure) : Event :=
  Event.catching failure.summary {
    level := .error
    logger := loggerName
    name := .text "identity.listener.failed"
    fields := [("listener", .text listener.shown)] }

/-- The fields that are bound during a refresh. -/
def refreshContext (center : DataCenterKind) : Context :=
  Mapping.empty.insert "data_center" (.text center.text)

/-! ## Steps -/

variable {σ α : Type}

def coordinator : Act (Site σ) Coordinator := do
  return (← Act.state).coordinator

/-- Run an atomic step of the coordinator. -/
def atomically (step : Coordinator → α × Coordinator) : Act (Site σ) α := do
  let (result, coordinator) := step (← coordinator)
  Act.modifyState fun site => { site with coordinator }
  return result

/-- Run an atomic step that answers nothing. -/
def update (step : Coordinator → Coordinator) : Act (Site σ) Unit :=
  atomically fun coordinator => ((), step coordinator)

/-- Go on with a result, or pass its failure on. -/
def andThen {β : Type} (first : Act (Site σ) (Except Failure α))
    (next : α → Act (Site σ) (Except Failure β)) : Act (Site σ) (Except Failure β) := do
  match ← first with
  | .error failure => return .error failure
  | .ok value => next value

/-- Resolve one of the two addresses by its order. -/
def resolveBy (surroundings : Surroundings σ) (order : List String)
    (fallback : Act (Site σ) (Except Failure Value)) : Act (Site σ) (Except Failure Value) := do
  let hasMetadata ← surroundings.hasMetadata
  Address.resolve { warn := Act.log, read := surroundings.read, fallback } hasMetadata
    (.texts order)

/-- Both orders are read before the host name is resolved, then the address. -/
def resolveCandidates (surroundings : Surroundings σ) :
    Act (Site σ) (Except Failure Candidates) :=
  andThen surroundings.hostOrder fun hostOrder =>
  andThen surroundings.ipOrder fun ipOrder =>
  andThen (resolveBy surroundings hostOrder surroundings.hostName) fun hostName =>
  andThen (resolveBy surroundings ipOrder surroundings.ipAddress) fun ipAddress =>
    return .ok { hostName, ipAddress }

/-- Apply candidates.  The clock is read only for a change. -/
def applyCandidates (surroundings : Surroundings σ) (sequence : Nat) (found : Candidates) :
    Act (Site σ) (Except Failure (Option Change)) := do
  let now ←
    if (← coordinator).wouldChange sequence found then surroundings.now
    else pure (.ok (.int 0))
  atomically fun coordinator => coordinator.apply sequence found now

/-- Tell some listeners of a change, in order.  A listener that fails is logged and
does not keep the others from being told. -/
def notifyEach (surroundings : Surroundings σ) (change : Change) :
    List ListenerId → Act (Site σ) Unit
  | [] => return ()
  | listener :: rest => do
      match ← surroundings.notify listener change with
      | .ok () => pure ()
      | .error failure => Act.log (listenerFailed listener failure)
      notifyEach surroundings change rest

/-- Tell the listeners that are registered at this moment. -/
def notifyAll (surroundings : Surroundings σ) (change : Change) : Act (Site σ) Unit := do
  notifyEach surroundings change (← coordinator).listeners

/-- Record an applied change.  A time beyond the doubles does not fit the gauge. -/
def recordChange (change : Change) : Act (Site σ) (Except Failure Unit) := do
  Act.count (.identity .updated)
  match Quantity.ofValue change.current.lastUpdatedAt with
  | .error failure => return .error failure
  | .ok lastChange => do
      Act.writeJournal fun journal => { journal with lastChange }
      Act.log (refreshUpdated change)
      return .ok ()

/-- A refresh between its start and its end. -/
def refreshAs (surroundings : Surroundings σ) (sequence : Nat) :
    Act (Site σ) (Except Failure Outcome) := do
  match ← resolveCandidates surroundings with
  | .error failure => do
      Act.count (.identity .failed)
      Act.log (refreshFailed failure)
      return .ok .unchanged
  | .ok found =>
      andThen (applyCandidates surroundings sequence found) fun applied =>
        match applied with
        | none => do
            Act.count (.identity .unchanged)
            Act.log (refreshUnchanged found)
            return .ok .unchanged
        | some change =>
            andThen (recordChange change) fun () => do
              notifyAll surroundings change
              return .ok .updated

/-- Refresh the identity from the metadata of the data center, if it has any. -/
def refresh (surroundings : Surroundings σ) : Act (Site σ) (Except Failure Outcome) := do
  if ← surroundings.hasMetadata then
    let sequence ← atomically Coordinator.start
    let result ← Act.withFields (refreshContext surroundings.dataCenter)
      (refreshAs surroundings sequence)
    update Coordinator.leave
    andThen (return result) fun outcome => do
      update (·.finish outcome)
      return .ok outcome
  else
    Act.count (.identity .skipped)
    update (·.finish .unchanged)
    return .ok .unchanged

/-- Refresh, and tell whether the identity changed. -/
def refreshChanges (surroundings : Surroundings σ) : Act (Site σ) (Except Failure Bool) :=
  andThen (refresh surroundings) fun outcome => return .ok (outcome = .updated)

end DiscoveryClient.Identity
