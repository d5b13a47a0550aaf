import PluginHost.Backend.LuaPlugin
import PluginHost.Backend.NativePlugin
import PluginHost.Backend.PythonPlugin

/-!
# Plugins of any kind

A `Plugin` is a native library, a script, or nothing at all. What can be done with all of them is here: calls and globals,
with scalars only, since native functions take nothing else. A plugin that is nothing accepts every call and answers with
the default value of the type asked for, so that it can stand in for one that is missing.
-/

namespace PluginHost

/-- A plugin. -/
inductive Plugin
  | native (p : NativePlugin)
  | lua (p : LuaPlugin)
  | python (p : PythonPlugin)
  | noop

/-- The kind of a native plugin. -/
def NativePlugin.kind (p : NativePlugin) : PluginKind :=
  match p.linkage with
  | .direct => .c
  | .alias => .cpp

namespace Plugin

/-- The kind of a plugin. -/
def kind : Plugin → PluginKind
  | native p => p.kind
  | lua _ => .lua
  | python _ => .python
  | noop => .noop

/-- Whether a plugin can be called. Only native plugins can be unloaded. -/
def isLoaded : Plugin → Bool
  | native p => p.isLoaded
  | lua _ | python _ | noop => true

/-- Whether a plugin is nothing. -/
def isNoop : Plugin → Bool
  | noop => true
  | native _ | lua _ | python _ => false

/-- Calls the function with a name. -/
def call (p : Plugin) (name : String) (args : List (Ty × Datum)) (result : Ty) :
    Host (Except CallError Datum × Plugin) := do
  match p with
  | native q => return (← q.call name (args.map (·.2)) result, native q)
  | lua q =>
    let (r, q) ← q.call name (args.map (·.2)) result
    return (r, lua q)
  | python q =>
    let (r, q) := q.call name args result
    return (r, python q)
  | noop => return (.ok (.zero result), noop)

/-- Calls the function with a name. A crash inside a native function gives the default value, if functions are called by their
symbols. -/
def safeCall (p : Plugin) (name : String) (args : List (Ty × Datum)) (result : Ty) :
    Host (Except CallError Datum × Plugin) := do
  match p with
  | native q => return (← q.safeCall name (args.map (·.2)) result, native q)
  | lua _ | python _ | noop => p.call name args result

/-- Reads the global with a name. -/
def global (p : Plugin) (name : String) (t : Ty) : Host (Except CallError Datum × Plugin) := do
  match p with
  | native q => return (← q.global name t, native q)
  | lua q =>
    let (r, q) ← q.global name t
    return (r, lua q)
  | python q =>
    let (r, q) := q.global name t
    return (r, python q)
  | noop => return (.ok (.zero t), noop)

/-- Gives the global with a name a value. -/
def setGlobal (p : Plugin) (name : String) (t : Ty) (d : Datum) : Host (Except CallError Unit × Plugin) := do
  match p with
  | native q => return (← q.setGlobal name t d, native q)
  | lua q =>
    let (r, q) ← q.setGlobal name d
    return (r, lua q)
  | python q =>
    let (r, q) := q.setGlobal name t d
    return (r, python q)
  | noop => return (.ok (), noop)

/-- Ends the life of a plugin. -/
def close : Plugin → Host Unit
  | native p => do let _ ← p.unload
  | python p => p.interpreter.finish
  | lua _ | noop => return ()

end Plugin

end PluginHost
