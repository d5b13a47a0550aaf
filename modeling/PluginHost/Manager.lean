import PluginHost.Manifest.File
import PluginHost.Plugin

/-!
# Loading plugins

A `Manager` loads plugins of every kind. It keeps a handle of its own to each library that it opened, so that what a native
plugin has given out stays valid when the plugin is gone; `Manager.releaseUnused` gives up the handles that nobody shares.
A list of plugins can be loaded as a manifest says, in its order.
-/

namespace PluginHost

/-- The options that a manifest sets. -/
def LuaOptions.ofManifest (o : Manifest.LuaOptions) : LuaOptions := ⟨o.openStandardLibraries, o.autoRun⟩

/-- The options that a manifest sets. -/
def PythonOptions.ofManifest (o : Manifest.PythonOptions) : PythonOptions := ⟨o.ownLock⟩

/-- What loads plugins. -/
structure Manager where
  /-- The handles that it keeps, in the order in which it opened the libraries. -/
  retained : List Native.Handle := []
  lua : LuaOptions := {}
  python : PythonOptions := {}

/-- A plugin that a manifest names. -/
structure ConfiguredPlugin where
  name : String
  plugin : Plugin
  /-- Whether its functions are to be called under the guard. -/
  crashGuard : Bool

namespace ConfiguredPlugin

/-- Calls the function with a name, under the guard if the manifest says so. -/
def call (p : ConfiguredPlugin) (name : String) (args : List (Ty × Datum)) (result : Ty) :
    Host (Except CallError Datum × ConfiguredPlugin) := do
  let (r, plugin) ← if p.crashGuard then p.plugin.safeCall name args result else p.plugin.call name args result
  return (r, { p with plugin })

/-- Ends the lives of plugins, in order. -/
def closeAll (ps : List ConfiguredPlugin) : Host Unit := ps.forM (·.plugin.close)

end ConfiguredPlugin

namespace Manager

def eventTarget : String := "trellis::manager"

/-- A manager that loads scripts as a manifest says. -/
def ofConfig (c : Manifest.Config) : Manager where
  lua := .ofManifest c.lua
  python := .ofManifest c.python

/-- Opens a library and keeps a handle to it. -/
def openLibrary (m : Manager) (path : Path) : Host (Except LoadError Native.Handle × Manager) := do
  match ← SharedLibrary.open path with
  | .error e => return (.error e, m)
  | .ok h =>
    SharedLibrary.retain h
    return (.ok h, { m with retained := m.retained ++ [h] })

/-- Loads a native plugin. -/
def loadNative (m : Manager) (linkage : Linkage) (path : Path) : Host (Except LoadError Plugin × Manager) := do
  let (r, m) ← m.openLibrary path
  return (r.map fun h => .native ⟨linkage, some h⟩, m)

/-- Loads a Lua script. -/
def loadLua (m : Manager) (path : Path) : Host (Except LoadError Plugin) := do
  return (← LuaPlugin.load path m.lua).map .lua

/-- Loads a Python script. -/
def loadPython (m : Manager) (path : Path) : Host (Except LoadError Plugin) := do
  return (← PythonPlugin.load path m.python).map .python

/-- Loads a plugin of a kind without a report. Nothing needs no file. -/
def loadQuietly (m : Manager) (kind : PluginKind) (path : Path) : Host (Except LoadError Plugin × Manager) := do
  match kind with
  | .c => m.loadNative .direct path
  | .cpp => m.loadNative .alias path
  | .lua => return (← m.loadLua path, m)
  | .python => return (← m.loadPython path, m)
  | .noop => return (.ok .noop, m)

/-- Loads a plugin of a kind. -/
def load (m : Manager) (kind : PluginKind) (path : Path) : Host (Except LoadError Plugin × Manager) := do
  Host.emit .debug eventTarget "loading plugin"
  m.loadQuietly kind path

/-- Loads a plugin of a kind, or puts nothing in its place. -/
def loadOrNoop (m : Manager) (kind : PluginKind) (path : Path) : Host (Plugin × Manager) := do
  match ← m.load kind path with
  | (.ok p, m) => return (p, m)
  | (.error _, m) =>
    Host.emit .warn eventTarget "falling back to noop plugin"
    return (.noop, m)

/-- The file of an entry. An entry without one has the empty path. -/
def entryPath (c : Manifest.Config) (e : Manifest.Entry) : Path := (e.path.map c.resolve).getD ⟨""⟩

/-- Loads what an entry of a manifest names. If it fails and is optional, nothing takes its place. -/
def loadEntry (m : Manager) (c : Manifest.Config) (e : Manifest.Entry) :
    Host (Except Error ConfiguredPlugin × Manager) := do
  let path := entryPath c e
  let (loaded, m) ← m.load e.kind path
  let plugin : Except Error Plugin ← match loaded with
    | .ok p => pure (.ok p)
    | .error cause =>
      if e.optional then
        Host.emit .warn eventTarget "optional plugin replaced by noop"
        pure (.ok .noop)
      else pure (.error (.load path cause))
  match plugin with
  | .error cause => return (.error cause, m)
  | .ok plugin =>
    Host.emit .info eventTarget "plugin ready"
    return (.ok { name := e.name, plugin, crashGuard := e.crashGuard }, m)

/-- Loads what entries name, in order, behind the plugins `loaded`. A failure ends the lives of all. -/
def loadEntries (m : Manager) (c : Manifest.Config) (loaded : List ConfiguredPlugin) :
    List Manifest.Entry → Host (Except Error (List ConfiguredPlugin) × Manager)
  | [] => return (.ok loaded, m)
  | e :: es => do
    match ← m.loadEntry c e with
    | (.ok p, m) => loadEntries m c (loaded ++ [p]) es
    | (.error cause, m) =>
      ConfiguredPlugin.closeAll loaded
      return (.error cause, m)

/-- Loads what a manifest names, in its order. The first entry that fails and is not optional is the error. -/
def loadConfigured (m : Manager) (c : Manifest.Config) : Host (Except Error (List ConfiguredPlugin) × Manager) :=
  m.loadEntries c [] c.plugins

/-- Gives up the handles to libraries that nobody else uses; returns how many. -/
def releaseUnused (m : Manager) : Host (Nat × Manager) := do
  let l ← Host.loader
  let (kept, unused) := m.retained.partition fun h => decide (1 < l.handleCount h)
  unused.forM SharedLibrary.release
  if unused ≠ [] then Host.emit .debug eventTarget "released unused plugin libraries"
  return (unused.length, { m with retained := kept })

/-- Gives up all handles. -/
def close (m : Manager) : Host Unit := m.retained.forM SharedLibrary.release

end Manager

end PluginHost
