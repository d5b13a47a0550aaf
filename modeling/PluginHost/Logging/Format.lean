import PluginHost.Manifest.Config

/-!
# Log settings

What a manifest, the command line and the environment say about log output, and how the three combine: the command line
wins over the manifest (`LogSettings.override`), and the environment over both.
-/

namespace PluginHost

/-- How events are written. -/
inductive LogFormat
  | pretty | json | compact
deriving DecidableEq, Repr

namespace LogFormat

/-- All formats. -/
def values : List LogFormat := [pretty, json, compact]

/-- The name of a format. -/
def name : LogFormat → String
  | pretty => "pretty"
  | json => "json"
  | compact => "compact"

/-- The format to use where nothing else is said. -/
def fallback : LogFormat := pretty

/-- Reads the name of a format; the case of ASCII letters does not count. -/
def read? (s : String) : Option LogFormat := values.find? fun f => f.name = s.toLower

/-- What is said about a text that names no format. -/
def complaint (s : String) : String := "invalid log format '" ++ s ++ "', expected pretty, json or compact"

theorem read?_name (f : LogFormat) : read? f.name = some f := by
  cases f <;> decide +kernel

end LogFormat

/-- Log settings as far as they are known; without a format the surroundings decide. -/
structure LogSettings where
  level : String := "warn"
  format : Option LogFormat := none
  file : Option Manifest.FileLogging := none
deriving DecidableEq, Repr

namespace LogSettings

/-- The settings in a manifest. A format that does not exist counts as none; files count only if enabled. -/
def ofManifest (s : Manifest.Logging) : LogSettings where
  level := s.level
  format := LogFormat.read? s.format
  file := if s.file.enabled then some s.file else none

/-- Settings with the choices of the command line on top. -/
def override (s : LogSettings) (level : Option String) (format : Option LogFormat) : LogSettings :=
  { s with level := level.getD s.level, format := format.or s.format }

end LogSettings

end PluginHost
