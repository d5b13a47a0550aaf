import PluginHost.Script.LuaExchange
import PluginHost.World

/-!
# Lua plugins

A Lua plugin is a script in an interpreter of its own. Its top level runs while the plugin is loaded, or later and once; after
that its globals are called, read and written by name. Each operation leaves the stack of the interpreter as it found it.
-/

namespace PluginHost

open Lua (Vm Captured)

/-- How a script is prepared. -/
structure LuaOptions where
  /-- Whether the standard library is opened. -/
  opensLibraries : Bool := true
  /-- Whether the top level runs while the plugin is loaded. -/
  runsOnLoad : Bool := true
deriving DecidableEq, Repr

/-- A script in its interpreter. -/
structure LuaPlugin where
  vm : Vm
  path : Path
  /-- Whether the top level has yet to run. -/
  isPending : Bool

namespace LuaPlugin

def eventTarget : String := "trellis_lua::plugin"

/-- Prints what the script has written. -/
def flush (p : LuaPlugin) : Host LuaPlugin := do
  let (text, vm) := p.vm.takeOutput
  Host.print text
  return { p with vm }

/-- Runs the top level, which defines functions and globals. It runs at most once. -/
def run (p : LuaPlugin) : Host (Except CallError Unit × LuaPlugin) := do
  if p.isPending then
    -- the function of the script is the only slot below every call
    let vm := p.vm.pushValue (p.vm.stack.getD 0 .nil)
    let (result, vm) := vm.protectedCall 0 0
    let p ← flush { p with vm := vm.resize 0, isPending := false }
    return (result.mapError fun e => .unknown e.message, p)
  else return (.error (.unknown "script has already been executed"), p)

/-- Loads a script. -/
def load (path : Path) (options : LuaOptions) : Host (Except LoadError LuaPlugin) := do
  match (← Host.files).readBytes path with
  | .error e =>
    Host.emit .debug eventTarget "unable to read Lua script"
    return .error (.ofFile e)
  | .ok source =>
    let vm : Vm := if options.opensLibraries then ({} : Vm).openLibraries else {}
    match vm.loadChunk source ("@" ++ path.text) with
    | (.error _, _) =>
      Host.emit .warn eventTarget "unable to compile Lua script"
      return .error .fileInvalid
    | (.ok (), vm) =>
      let p : LuaPlugin := { vm, path, isPending := true }
      let (result, p) ← if options.runsOnLoad then p.run else pure (.ok (), p)
      match result with
      | .error _ =>
        Host.emit .warn eventTarget "Lua script failed while loading"
        return .error .fileInvalid
      | .ok () =>
        Host.emit .debug eventTarget "loaded Lua plugin"
        return .ok p

/-- Calls the global function with a name. -/
def call (p : LuaPlugin) (name : String) (args : List Datum) (result : Ty) : Host (Except CallError Datum × LuaPlugin) := do
  let height := p.vm.top
  match p.vm.pushGlobal name with
  | (false, vm) => return (.error (.symbolNotFound name), ← flush { p with vm })
  | (true, vm) => match Captured.fromTop? vm with
    | some f =>
      Host.emit .trace "trellis_lua::function" "calling Lua function"
      let (outcome, vm) := f.call vm args result
      return (outcome, ← flush { p with vm := vm.resize height })
    | none =>
      return (.error (.unknown ("symbol '" ++ name ++ "' is not a function")), ← flush { p with vm := vm.resize height })

/-- Reads a global; one without a value does not exist. -/
def global (p : LuaPlugin) (name : String) (t : Ty) : Host (Except CallError Datum × LuaPlugin) := do
  match p.vm.pushGlobal name with
  | (false, vm) => return (.error (.symbolNotFound name), ← flush { p with vm })
  | (true, vm) => match vm.popAlways t with
    | (some d, vm) => return (.ok d, ← flush { p with vm })
    | (none, vm) =>
      return (.error (.incorrectType ("global '" ++ name ++ "' does not match the requested type")), ← flush { p with vm })

/-- Gives a global a value. -/
def setGlobal (p : LuaPlugin) (name : String) (d : Datum) : Host (Except CallError Unit × LuaPlugin) := do
  match p.vm.push d with
  | (.error e, vm) =>
    return (.error (.incorrectType ("global '" ++ name ++ "' cannot be converted to a Lua value: " ++ e.display)),
      { p with vm })
  | (.ok (), vm) => return (.ok (), ← flush { p with vm := vm.setGlobal name })

end LuaPlugin

end PluginHost
