import ChatDice.Settings.Loading

/-!
# ChatDice.Settings.Cache — settings that are loaded once

Settings are kept after they have been loaded, so that every part of the program sees the same ones
whatever happens to the environment. Loading them again replaces the kept ones; an attempt that
fails leaves them as they were.
-/

namespace ChatDice

/-- What settings are loaded from. -/
structure SettingsWorld where
  env : Environment
  files : Files
deriving DecidableEq, Repr

namespace SettingsWorld

/-- The settings of a world, with the named file or the default one. An empty name names none. -/
def load (world : SettingsWorld) (path? : Option String) : Except SettingsError Settings :=
  let path := match path? with
    | some path => if path = "" then Settings.defaultFile else path
    | none => Settings.defaultFile
  Settings.loadFrom world.env world.files path

end SettingsWorld

/-- The settings loaded last, if any have been. -/
abbrev SettingsCache := Option Settings

namespace SettingsCache

/-- Loads the settings and keeps them. -/
def load (world : SettingsWorld) (path? : Option String) (cache : SettingsCache) :
    Except SettingsError Settings × SettingsCache :=
  match world.load path? with
  | .ok settings => (.ok settings, some settings)
  | .error e => (.error e, cache)

/-- The settings that are kept; if there are none they are loaded first. -/
def get (world : SettingsWorld) (cache : SettingsCache) :
    Except SettingsError Settings × SettingsCache :=
  match cache with
  | some settings => (.ok settings, cache)
  | none => load world none cache

end SettingsCache

end ChatDice
