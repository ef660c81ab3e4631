import DiscoveryClient.Settings.Cache

/-!
# Bootstrap of a process

A process reads its settings from its variables and its files as they are when
the settings are asked for, and keeps them in a cache.  Variables and files may
change at any time, and the cache may be reset.
-/

namespace DiscoveryClient

structure Bootstrap where
  environment : Mapping String := .empty
  tree : FileTree := {}
  cache : SettingsCache := {}
  deriving Inhabited

inductive BootstrapStep where
  | environment (environment : Mapping String)
  | files (tree : FileTree)
  | reset
  | get

namespace Bootstrap

def sources (bootstrap : Bootstrap) : SettingSources where
  environment := bootstrap.environment
  tree := bootstrap.tree

def settings (bootstrap : Bootstrap) : Except Failure SettingsObject × Bootstrap :=
  let (answer, cache) := bootstrap.cache.get bootstrap.sources
  (answer, { bootstrap with cache })

/-- What stands in for settings that failed: the built-in ones if the settings were found
to be invalid.  Any other failure is passed on. -/
def substitute : Failure → Except Failure Settings
  | .own error => if error.kind = .configuration then .ok .initial else .error (.own error)
  | failure => .error failure

/-- The settings of the process, or the built-in ones if those are invalid. -/
def settingsOrInitial (bootstrap : Bootstrap) : Except Failure Settings × Bootstrap :=
  match bootstrap.settings with
  | (.ok object, bootstrap) => (.ok object.settings, bootstrap)
  | (.error failure, bootstrap) => (substitute failure, bootstrap)

/-- One step, with the object that it answers if it answers one. -/
def step (bootstrap : Bootstrap) :
    BootstrapStep → Bootstrap × Except Failure (Option SettingsObject)
  | .environment environment => ({ bootstrap with environment }, .ok none)
  | .files tree => ({ bootstrap with tree }, .ok none)
  | .reset => ({ bootstrap with cache := bootstrap.cache.reset }, .ok none)
  | .get =>
      let (answer, bootstrap) := bootstrap.settings
      (bootstrap, answer.map some)

theorem step_get (bootstrap : Bootstrap) :
    bootstrap.step .get = (bootstrap.settings.2, bootstrap.settings.1.map some) := rfl

end Bootstrap

end DiscoveryClient
