import PluginHost.Text.Quoted
import PluginHost.World

/-!
# Native plugins

A native plugin holds a handle to an opened library until it is unloaded. Functions are called either directly by their
symbol or through alias variables (`Linkage`); variables are read and written by symbol in both. A result can be bound to the
library, which keeps another handle to it.
-/

namespace PluginHost

open Native

/-- How the functions of a native plugin are reached. -/
inductive Linkage
  /-- A symbol is the function. -/
  | direct
  /-- A symbol is a variable that holds the address of the function. -/
  | alias
deriving DecidableEq, Repr

/-- A native plugin. -/
structure NativePlugin where
  linkage : Linkage
  library : Option Handle
deriving DecidableEq, Repr

/-- A value that keeps the library alive that made it. -/
structure BoundValue where
  value : Datum
  library : Handle

/-- A function of an opened library as code that can be left in its middle. -/
def Native.Loader.body (h : Handle) (f : Function) (args : List Datum) (result : Ty) : Body Loader Datum :=
  .look fun _ l => match l.run h f args result with
    | (.returned d, l) => .change l (.finish d)
    | (.fault, l) => .change l .fault

/-- A guarded call changes what the function changes; its result is the default if it does not get to its end. -/
theorem Host.run_safeCall_body (fallback : Datum) (h : Handle) (f : Function) (args : List Datum) (result : Ty) (w : World) :
    (Host.safeCall fallback (Loader.body h f args result)).run w = match w.loader.run h f args result with
      | (.returned d, loader) => (some d, { w with loader })
      | (.fault, loader) => (some fallback, { w with
          loader
          events := w.events.push
            ⟨.warn, Program.eventTarget, "recovered from a crash inside a guarded native call"⟩ }) := by
  rw [Host.run_safeCall, Loader.body, Body.run]
  rcases w.loader.run h f args result with ⟨d | _, l⟩
  · rfl
  · have hmask : w.signals.val.armed.mask faultSignal = false := w.signals.property.mask
    simp only [Body.run, Process.fault, hmask]
    rfl

namespace SharedLibrary

def eventTarget : String := "trellis_native::library"

/-- Opens the library that a path names. -/
def «open» (p : Path) : Host (Except LoadError Handle) := do
  let w ← get
  let (result, loader) := w.loader.open w.files p
  Host.modifyLoader fun _ => loader
  match result with
  | .ok _ => Host.emit .debug eventTarget "loaded shared library"
  | .error e =>
    -- a regular file that the system refuses is worth a warning; anything else never reaches the system
    if e = .fileInvalid then
      if let some found := Loader.find? w.files p then
        if let .ok node := w.files.node found then
          match node with
          | .directory => pure ()
          | _ => Host.emit .warn eventTarget "failed to load shared library"
  return result

/-- One more handle to an opened library. -/
def retain (h : Handle) : Host Unit := Host.modifyLoader (·.retain h)

/-- One handle less. -/
def release (h : Handle) : Host Unit := do
  if (← Host.loader).handleCount h = 1 then
    Host.emit .debug eventTarget "closing shared library"
  Host.modifyLoader (·.release h)

/-- The report of a handle. -/
def describe (h : Handle) : Host String := do
  let l ← Host.loader
  return "SharedLibrary \x7b path: " ++ Text.quote ((l.pathOf? h).getD ⟨""⟩).text ++ ", handles: "
    ++ toString (l.handleCount h) ++ " \x7d"

end SharedLibrary

namespace NativePlugin

/-- Loads a plugin from a library file. -/
def load (linkage : Linkage) (p : Path) : Host (Except LoadError NativePlugin) := do
  return (← SharedLibrary.open p).map fun h => ⟨linkage, some h⟩

/-- Whether the plugin still holds its library. -/
def isLoaded (p : NativePlugin) : Bool := p.library.isSome

/-- Gives up the library. -/
def unload (p : NativePlugin) : Host NativePlugin := do
  if let some h := p.library then SharedLibrary.release h
  return { p with library := none }

/-- Whether the library exports a name. -/
def hasSymbol (p : NativePlugin) (name : String) : Host Bool := do
  match p.library with
  | none => return false
  | some h => return (← Host.loader).hasSymbol h name

/-- The function that a name leads to. -/
def resolve (p : NativePlugin) (l : Loader) (name : String) : Except CallError (Handle × Function) :=
  match p.library with
  | none => .error .notLoaded
  | some h => do
    let (_, s) ← l.symbol h name
    match p.linkage, s with
    | .direct, .function f => .ok (h, f)
    | .alias, .alias (some f) => .ok (h, f)
    | .alias, .alias none => .error (.unknown ("alias '" ++ name ++ "' does not point to a function"))
    -- what is no function has no meaning when called; the caller promises not to
    | _, _ => .error (.unknown ("symbol '" ++ name ++ "' is not a function"))

/-- Runs the function that a name leads to. -/
def invoke (p : NativePlugin) (name : String) (args : List Datum) (result : Ty) (event : String) :
    Host (Except CallError (Attempt Datum)) := do
  let l ← Host.loader
  match p.resolve l name with
  | .error e => return .error e
  | .ok (h, f) =>
    Host.emit .trace (match p.linkage with | .direct => "trellis_native::c" | .alias => "trellis_native::cpp") event
    let (outcome, l) := l.run h f args result
    Host.modifyLoader fun _ => l
    return .ok (match outcome with
      | .returned d => .finished d
      | .fault => .fault)

/-- Calls a function. Only the guard recovers from a fault, so here one has no result. -/
def call (p : NativePlugin) (name : String) (args : List Datum) (result : Ty) : Host (Except CallError Datum) := do
  let event := match p.linkage with
    | .direct => "calling C function"
    | .alias => "calling C++ alias"
  match ← p.invoke name args result event with
  | .error e => return .error e
  | .ok (.finished d) => return .ok d
  | .ok .fault => return .error (.unknown "segmentation fault")

/-- Calls a function under the guard. A crash gives the default value. -/
def safeCall (p : NativePlugin) (name : String) (args : List Datum) (result : Ty) : Host (Except CallError Datum) := do
  match p.linkage with
  | .alias => p.call name args result
  | .direct => match p.resolve (← Host.loader) name with
    | .error e => return .error e
    | .ok (h, f) =>
      Host.emit .trace "trellis_native::c" "calling C function with crash guard"
      match ← Host.safeCall (.zero result) (Loader.body h f args result) with
      | some d => return .ok d
      -- as for a call that nothing guards; what a library does is recovered from, so it does not come to this
      | none => return .error (.unknown "segmentation fault")

/-- Calls a function and binds the result to the library. -/
def callBound (p : NativePlugin) (name : String) (args : List Datum) (result : Ty) :
    Host (Except CallError BoundValue) := do
  match ← p.call name args result with
  | .error e => return .error e
  | .ok d => match p.library with
    | none => return .error .notLoaded
    | some h =>
      SharedLibrary.retain h
      return .ok ⟨d, h⟩

/-- Reads a variable. -/
def global (p : NativePlugin) (name : String) (t : Ty) : Host (Except CallError Datum) := do
  match p.library with
  | none => return .error .notLoaded
  | some h => return (← Host.loader).readVariable h name t

/-- Writes a variable. -/
def setGlobal (p : NativePlugin) (name : String) (t : Ty) (d : Datum) : Host (Except CallError Unit) := do
  match p.library with
  | none => return .error .notLoaded
  | some h => match (← Host.loader).writeVariable h name t d with
    | .error e => return .error e
    | .ok l =>
      Host.modifyLoader fun _ => l
      return .ok ()

/-- The report of a plugin. -/
def describe (p : NativePlugin) : Host String := do
  let name := match p.linkage with
    | .direct => "CPlugin"
    | .alias => "CppPlugin"
  match p.library with
  | none => return name ++ " \x7b library: None \x7d"
  | some h => return name ++ " \x7b library: Some(" ++ (← SharedLibrary.describe h) ++ ") \x7d"

end NativePlugin

/-- The report of a bound value. -/
def BoundValue.describe (b : BoundValue) (text : String) : Host String := do
  let path := ((← Host.loader).pathOf? b.library).getD ⟨""⟩
  return "LibraryBound \x7b value: " ++ text ++ ", library: " ++ Text.quote path.text ++ " \x7d"

/-- Calls a function through an address inside a bound value. -/
def BoundValue.callThrough (b : BoundValue) (function : String) (args : List Datum) (result : Ty) :
    Host (Option Datum) := do
  let l ← Host.loader
  match (l.mappingOf? b.library).bind (·.image.internal? function) with
  | none => return none
  | some f =>
    let (outcome, l) := l.run b.library f args result
    Host.modifyLoader fun _ => l
    return match outcome with
      | .returned d => some d
      | .fault => none

end PluginHost
