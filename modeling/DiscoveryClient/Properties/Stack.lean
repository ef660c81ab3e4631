import DiscoveryClient.Properties.Layered
import DiscoveryClient.Properties.Reader
import DiscoveryClient.Settings.Validation

/-!
# The standard stack

The client's own stack of properties has a store of overrides on top of the
property files that the bootstrap settings name.  The files are watched if the
settings ask for it.
-/

namespace DiscoveryClient

open Log

namespace Layered

/-- Typed reads of a stack. -/
def reader (layers : Layered) (scope : Value) : PropertyReader where
  source := layers.get?
  scope := scope

/-- Load the files that settings name, and watch them if asked to. -/
def loadFiles (tree : FileTree) (settings : Settings) : Logged (Except Failure FileSource) := do
  match ← FileSource.load tree settings.filesName (.text settings.environment)
    settings.directory with
  | .error failure => pure (.error failure)
  | .ok source =>
      if settings.watches then
        let (source, outcome) ← source.watch tree (.float settings.watchSeconds)
        pure (outcome.map fun () => source)
      else pure (.ok source)

/-- The standard stack over a store of overrides. -/
def standard (tree : FileTree) (settings : Settings) (overrides : PropertyStore) :
    Logged (Except Failure Layered) := do
  let files ← loadFiles tree settings
  pure (files.map fun source => [.memory overrides, .files source])

end Layered

end DiscoveryClient
