import DiscoveryClient.Failure
import DiscoveryClient.Log.Event

/-!
# Host names

The name and the address of the local host when metadata yields nothing.  Both
are looked up once and remembered, unless they are null; a forced call looks
them up again.  A name that cannot be resolved has the loopback address.

A host may also have a name and an address that are fixed.

The two look-ups of the system are parameters with effects of their own.
-/

namespace DiscoveryClient.HostName

open Log

def loggerName : String := "discovery_sdk.tier2_discovery.address"

def loopback : String := "127.0.0.1"

structure Cache where
  hostName : Value := .null
  ipAddress : Value := .null
  deriving Repr, Inhabited

/-- The look-ups of the system, and where warnings go. -/
structure System (m : Type → Type) where
  hostName : m (Except Failure Value)
  ipAddress : (hostName : Value) → m (Except Failure Value)
  warn : Event → m Unit

/-- The warning about a host name without an address. -/
def unresolved (hostName : Value) (failure : Failure) : Event where
  level := .warning
  logger := loggerName
  name := .text "address.local_ip.unresolved"
  fields := [("host_name", hostName), ("error", .text failure.message)]

variable {m : Type → Type} [Monad m]

/-- The remembered value, unless a new one is to be looked up. -/
def remembered? (force : Bool) (value : Value) : Option Value :=
  if force || value.isNull then none else some value

def hostName (system : System m) (force : Bool) (cache : Cache) :
    m (Except Failure Value × Cache) :=
  match remembered? force cache.hostName with
  | some hostName => pure (.ok hostName, cache)
  | none => do
      match ← system.hostName with
      | .error failure => pure (.error failure, cache)
      | .ok hostName => pure (.ok hostName, { cache with hostName })

/-- The address of a host name; a failure of the network counts as loopback. -/
def lookUpAddress (system : System m) (hostName : Value) : m (Except Failure Value) := do
  match ← system.ipAddress hostName with
  | .ok address => pure (.ok address)
  | .error failure =>
      if failure.isSystem then do
        system.warn (unresolved hostName failure)
        pure (.ok (.text loopback))
      else pure (.error failure)

def ipAddress (system : System m) (force : Bool) (cache : Cache) :
    m (Except Failure Value × Cache) := do
  match ← hostName system force cache with
  | (.error failure, cache) => pure (.error failure, cache)
  | (.ok hostName, cache) =>
      match remembered? force cache.ipAddress with
      | some address => pure (.ok address, cache)
      | none => do
          match ← lookUpAddress system hostName with
          | .error failure => pure (.error failure, cache)
          | .ok address => pure (.ok address, { cache with ipAddress := address })

/-! ## Fixed hosts -/

/-- A host with a known name and address. -/
structure Fixed where
  hostName : Value
  ipAddress : Value
  deriving Repr, Inhabited

/-- The host of one or two arguments; its address is loopback unless given. -/
def Fixed.ofArguments : List Value → Except Failure Fixed
  | [hostName] => .ok ⟨hostName, .text loopback⟩
  | [hostName, ipAddress] => .ok ⟨hostName, ipAddress⟩
  | _ => .error .wrongType

end DiscoveryClient.HostName
