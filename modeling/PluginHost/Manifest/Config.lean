import PluginHost.Error
import PluginHost.Text.Blank

/-!
# Manifests

A manifest says which plugins to load and how the host logs. `Config.validate` finds the first entry that cannot be used;
`Config.plugin` and `Config.resolve` look things up in a manifest.
-/

namespace PluginHost.Manifest

/-- Log output to files. -/
structure FileLogging where
  enabled : Bool := false
  level : String := "debug"
  directory : Option Path := none
deriving DecidableEq, Repr

/-- Log output of the host. -/
structure Logging where
  level : String := "warn"
  format : String := "pretty"
  file : FileLogging := {}
deriving DecidableEq, Repr

/-- How Lua plugins are loaded. -/
structure LuaOptions where
  openStandardLibraries : Bool := true
  autoRun : Bool := true
deriving DecidableEq, Repr

/-- How Python plugins are loaded. -/
structure PythonOptions where
  ownLock : Bool := true
deriving DecidableEq, Repr

/-- A plugin to load. -/
structure Entry where
  name : String
  kind : PluginKind
  path : Option Path := none
  /-- Recover from memory faults inside calls. -/
  crashGuard : Bool := false
  /-- Put a plugin that does nothing in its place if loading fails. -/
  optional : Bool := false
deriving DecidableEq, Repr

/-- A manifest. Relative paths of plugins start at the base directory, if there is one. -/
structure Config where
  logging : Logging := {}
  lua : LuaOptions := {}
  python : PythonOptions := {}
  plugins : List Entry := []
  baseDirectory : Option Path := none
deriving DecidableEq, Repr

/-- What is wrong with an entry that stands behind entries with the names `seen`. -/
def Entry.fault? (e : Entry) (seen : List String) : Option ConfigError :=
  if Text.isBlankText e.name then some .emptyPluginName
  else if e.name ∈ seen then some (.duplicatePlugin e.name)
  else if e.kind ≠ .noop ∧ e.path = none then some (.missingPath e.name)
  else if e.crashGuard ∧ e.kind ≠ .c then some (.crashGuardUnsupported e.name e.kind)
  else none

/-- The first fault among entries that stand behind entries with the names `seen`. -/
def firstFault? (seen : List String) : List Entry → Option ConfigError
  | [] => none
  | e :: es => (e.fault? seen).or (firstFault? (e.name :: seen) es)

namespace Config

/-- The fault of the first entry that cannot be used. -/
def fault? (c : Config) : Option ConfigError := firstFault? [] c.plugins

/-- A manifest whose entries can all be used. -/
def validate (c : Config) : Except ConfigError Config :=
  match c.fault? with
  | some e => .error e
  | none => .ok c

/-- The names of the plugins in the order of the manifest. -/
def pluginNames (c : Config) : List String := c.plugins.map (·.name)

/-- The entry with a name. -/
def plugin (c : Config) (name : String) : Except ConfigError Entry :=
  match c.plugins.find? (·.name = name) with
  | some e => .ok e
  | none => .error (.pluginNotFound name)

/-- The path of a plugin as seen by the host. -/
def resolve (c : Config) (p : Path) : Path :=
  match c.baseDirectory with
  | some base => base.join p
  | none => p

/-- A manifest to start from. -/
def sample : String := "# Trellis Configuration Example
# Copy this file to trellis.toml and customize as needed

[logging]
# Default level for stderr output
level = \"warn\"
# Output format: \"pretty\", \"json\" or \"compact\"
format = \"pretty\"

[logging.file]
enabled = false
level = \"debug\"
# directory = \"/var/log/trellis\"

[lua]
# Open the Lua standard libraries in every plugin state
open_standard_libraries = true
# Execute the script's top level right after loading it
auto_run = true

[python]
# One GIL per plugin interpreter (Python 3.12 and newer)
own_gil = true

# Plugins, loaded in order. Relative paths resolve against this file.
[[plugins]]
name = \"counter\"
# Backend: \"c\", \"cpp\", \"lua\", \"python\" or \"noop\"
kind = \"lua\"
path = \"plugins/counter.lua\"

[[plugins]]
name = \"native\"
kind = \"c\"
path = \"plugins/libnative.so\"
# Recover from segmentation faults inside calls (C plugins only)
crash_guard = true
# Fall back to a noop plugin if loading fails
optional = true
"

end Config

end PluginHost.Manifest
