import DiscoveryClient.Identity.Refresh

/-!
# Properties of actions that composition keeps

What holds of the questions of a refresh, and of everything composed of actions that it holds
of, also holds of the parts of a refresh that do nothing but ask, log and look.
-/

namespace DiscoveryClient.Identity

open Log

variable {σ : Type}

/-- A property of actions that composition keeps, and that logging and looking have. -/
structure Closed (holds : ∀ {α : Type}, Act (Site σ) α → Prop) : Prop where
  pure : ∀ {α : Type} (value : α), holds (Pure.pure value)
  bind : ∀ {α β : Type} {first : Act (Site σ) α} {next : α → Act (Site σ) β},
    holds first → (∀ value, holds (next value)) → holds (first >>= next)
  log : ∀ event, holds (Act.log event)
  coordinator : holds coordinator

/-- A property holds of all that the candidates of a refresh are resolved from. -/
structure ResolvesBy (holds : ∀ {α : Type}, Act (Site σ) α → Prop)
    (surroundings : Surroundings σ) : Prop where
  hasMetadata : holds surroundings.hasMetadata
  hostOrder : holds surroundings.hostOrder
  ipOrder : holds surroundings.ipOrder
  read : ∀ field, holds (surroundings.read field)
  hostName : holds surroundings.hostName
  ipAddress : holds surroundings.ipAddress

namespace Closed

variable {holds : ∀ {α : Type}, Act (Site σ) α → Prop} (closed : Closed @holds)
include closed

theorem andThen {α β : Type} {first : Act (Site σ) (Except Failure α)}
    {next : α → Act (Site σ) (Except Failure β)} (firstHolds : holds first)
    (nextHolds : ∀ value, holds (next value)) : holds (andThen first next) := by
  refine closed.bind firstHolds ?_
  intro result
  cases result with
  | error failure => exact closed.pure _
  | ok value => exact nextHolds value

theorem walk {surroundings : Address.Surroundings (Act (Site σ))}
    (warn : ∀ event, holds (surroundings.warn event))
    (read : ∀ field, holds (surroundings.read field))
    (fallback : holds surroundings.fallback) (tokens : List Value) :
    holds (Address.walk surroundings tokens) := by
  induction tokens with
  | nil => exact fallback
  | cons token rest induction =>
      unfold Address.walk
      cases MetadataField.ofTokenValue? token with
      | error failure => exact closed.pure _
      | ok known =>
          cases known with
          | none => exact closed.bind (warn _) fun _ => induction
          | some field =>
              refine closed.bind (read field) ?_
              intro answer
              cases answer with
              | error failure => exact closed.pure _
              | ok value =>
                  cases filled : value.filled? with
                  | some address => simpa only [filled] using closed.pure _
                  | none => simpa only [filled] using induction

variable {surroundings : Surroundings σ}

theorem resolveBy (resolves : ResolvesBy @holds surroundings) (order : List String)
    {fallback : Act (Site σ) (Except Failure Value)} (fallbackHolds : holds fallback) :
    holds (resolveBy surroundings order fallback) := by
  refine closed.bind resolves.hasMetadata ?_
  intro hasMetadata
  cases hasMetadata with
  | false => exact fallbackHolds
  | true => exact closed.walk closed.log resolves.read fallbackHolds _

theorem resolveCandidates (resolves : ResolvesBy @holds surroundings) :
    holds (resolveCandidates surroundings) :=
  closed.andThen resolves.hostOrder fun hostOrder =>
    closed.andThen resolves.ipOrder fun ipOrder =>
      closed.andThen (closed.resolveBy resolves hostOrder resolves.hostName) fun _ =>
        closed.andThen (closed.resolveBy resolves ipOrder resolves.ipAddress) fun _ =>
          closed.pure _

theorem notifyEach {change : Change}
    (notify : ∀ listener, holds (surroundings.notify listener change))
    (listeners : List ListenerId) : holds (notifyEach surroundings change listeners) := by
  induction listeners with
  | nil => exact closed.pure ()
  | cons listener rest induction =>
      refine closed.bind (notify listener) ?_
      intro result
      cases result with
      | ok _ => exact induction
      | error failure =>
          exact closed.bind (closed.log (listenerFailed listener failure)) fun _ => induction

theorem notifyAll {change : Change}
    (notify : ∀ listener, holds (surroundings.notify listener change)) :
    holds (notifyAll surroundings change) :=
  closed.bind closed.coordinator fun _ => closed.notifyEach notify _

end Closed

end DiscoveryClient.Identity
