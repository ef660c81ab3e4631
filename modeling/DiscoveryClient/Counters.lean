import DiscoveryClient.Mapping

/-!
# Counters of the client

The client counts the outcomes of identity refreshes and of property reloads
that file events cause.
-/

namespace DiscoveryClient

inductive RefreshResult where
  | updated
  | unchanged
  | failed
  | skipped
  deriving DecidableEq, Repr, Inhabited

inductive ReloadResult where
  | changed
  | unchanged
  | failed
  deriving DecidableEq, Repr, Inhabited

/-- One increment of a counter. -/
inductive Count where
  | identity (result : RefreshResult)
  | property (result : ReloadResult)
  deriving DecidableEq, Repr, Inhabited

namespace Count

def refreshText : RefreshResult → String
  | .updated => "updated"
  | .unchanged => "unchanged"
  | .failed => "failed"
  | .skipped => "skipped"

def reloadText : ReloadResult → String
  | .changed => "changed"
  | .unchanged => "unchanged"
  | .failed => "failed"

def name : Count → String
  | .identity result => "identity." ++ refreshText result
  | .property result => "property." ++ reloadText result

/-- How often each counter was incremented, by its name. -/
def tally (counts : List Count) : Mapping Nat :=
  counts.foldl
    (fun tally count => tally.insert count.name ((tally.get? count.name).getD 0 + 1)) .empty

end Count

end DiscoveryClient
