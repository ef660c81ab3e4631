import DiscoveryClient.Log.Event
import DiscoveryClient.Metadata.Field

/-!
# Address resolution

The address that an instance advertises is the first metadata field of an
order whose value says something.  The order runs through tokens; tokens that
name no field are skipped with a warning.  A fallback answers when the order
is exhausted or there is no metadata at all, and a read that fails ends the
walk.

Reading, falling back and warning are parameters, so that the walk can be run
in any setting in which those have effects.
-/

namespace DiscoveryClient.Address

open Log

def loggerName : String := "discovery_sdk.tier2_discovery.address"

/-- Host names are taken from these fields unless an order is configured. -/
def defaultHostOrder : List String :=
  [MetadataField.publicHostname.token, MetadataField.localIpv4.token]

/-- Addresses are taken from these fields unless an order is configured. -/
def defaultIpOrder : List String :=
  [MetadataField.localIpv4.token, MetadataField.publicIpv4.token]

/-- The warning about a token that names no field. -/
def unknownToken (token : Value) : Event where
  level := .warning
  logger := loggerName
  name := .text "address.order.unknown_key"
  fields := [("token", token)]

/-- What an address is resolved from. -/
structure Surroundings (m : Type → Type) where
  warn : Event → m Unit
  read : MetadataField → m (Except Failure Value)
  fallback : m (Except Failure Value)

variable {m : Type → Type} [Monad m]

/-- The first value that says something, of the fields that the tokens name. -/
def walk (surroundings : Surroundings m) : List Value → m (Except Failure Value)
  | [] => surroundings.fallback
  | token :: rest =>
      match MetadataField.ofTokenValue? token with
      | .error failure => pure (.error failure)
      | .ok none => do
          surroundings.warn (unknownToken token)
          walk surroundings rest
      | .ok (some field) => do
          match ← surroundings.read field with
          | .error failure => pure (.error failure)
          | .ok value =>
              match value.filled? with
              | some address => pure (.ok address)
              | none => walk surroundings rest

/-- Walk the order if there is metadata, else take the fallback at once.  An
order without elements to run through is refused only when it is needed. -/
def resolve (surroundings : Surroundings m) (hasMetadata : Bool) (order : Value) :
    m (Except Failure Value) :=
  if hasMetadata then
    match order.elements? with
    | some tokens => walk surroundings tokens
    | none => pure (.error .wrongType)
  else surroundings.fallback

end DiscoveryClient.Address
