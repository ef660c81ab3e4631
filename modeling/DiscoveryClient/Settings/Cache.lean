import DiscoveryClient.Settings.Sources

/-!
# The settings of the process

The settings are read once and kept until the cache is reset.  Settings that
cannot be read are not kept, so the next call reads again.

What is read becomes an object of the process.  It has a number of its own, by
which it differs from another object with the same settings.
-/

namespace DiscoveryClient

structure SettingsObject where
  /-- How many objects were made before it. -/
  number : Nat
  settings : Settings
  deriving DecidableEq

structure SettingsCache where
  kept : Option SettingsObject := none
  made : Nat := 0
  deriving Inhabited

namespace SettingsCache

/-- The failure of a bootstrap without settings: one message for each field that
was not accepted. -/
def failure : SettingSources.Problem → Failure
  | .refused failure => failure
  | .invalid violations =>
      .own (.detailed .configuration
        ("Invalid discovery settings: " ++ toString violations.length ++ " error(s)")
        (Mapping.empty.insert "errors" (.texts (violations.map fun entry => entry.2.message))))

def next (cache : SettingsCache) (settings : Settings) : SettingsObject where
  number := cache.made
  settings

def keep (cache : SettingsCache) (object : SettingsObject) : SettingsCache where
  kept := some object
  made := cache.made + 1

/-- The kept settings, or else those that the sources give now. -/
def get (cache : SettingsCache) (sources : SettingSources) :
    Except Failure SettingsObject × SettingsCache :=
  match cache.kept with
  | some object => (.ok object, cache)
  | none =>
      match sources.settings with
      | .ok settings => (.ok (cache.next settings), cache.keep (cache.next settings))
      | .error problem => (.error (failure problem), cache)

def reset (cache : SettingsCache) : SettingsCache :=
  { cache with kept := none }

end SettingsCache

end DiscoveryClient
