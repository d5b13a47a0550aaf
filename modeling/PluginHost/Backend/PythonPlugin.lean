import PluginHost.Script.PythonSession
import PluginHost.World

/-!
# Python plugins

A Python plugin is a script that has run in an interpreter of its own; its functions and globals are attributes of the module
that it ran in. Interpreters share nothing. What a script prints comes out when its interpreter ends.
-/

namespace PluginHost

open Python (Session ExceptionReport)

/-- How an interpreter is made. -/
structure PythonOptions where
  /-- Whether the interpreter asks for a lock of its own. This version of Python has one lock for all. -/
  ownLock : Bool := true
deriving DecidableEq, Repr

/-- What can go wrong before any script runs. -/
inductive PythonError
  | initialization
  | interpreter (reason : String)
deriving DecidableEq, Repr

namespace PythonError

/-- An error in words. -/
def message : PythonError → String
  | initialization => "Python runtime failed to initialize"
  | interpreter reason => "unable to create sub-interpreter: " ++ reason

/-- The error as a failure to load a plugin. -/
def toLoadError : PythonError → LoadError := fun _ => .unknown

end PythonError

/-- An interpreter. -/
structure PythonInterpreter where
  session : Session
  /-- Whether the interpreter has a lock of its own. -/
  hasOwnLock : Bool := false

namespace PythonInterpreter

def eventTarget : String := "trellis_python::interpreter"

/-- Makes an interpreter. The first one starts the runtime. -/
def start (_ : PythonOptions) : Host PythonInterpreter := do
  unless (← get).pythonStarted do
    modify fun w => { w with pythonStarted := true }
    Host.emit .debug "trellis_python::runtime" "initialized Python runtime"
  Host.emit .debug eventTarget "created Python sub-interpreter"
  return { session := { interp := .start (← Host.files) } }

/-- Ends an interpreter. What it has printed comes out. -/
def finish (p : PythonInterpreter) : Host Unit := do
  Host.print p.session.takeOutput.1
  Host.emit .debug eventTarget "ended Python sub-interpreter"

/-- Runs an operation of the interpreter. -/
def run {α : Type} (p : PythonInterpreter) (x : StateM Session α) : α × PythonInterpreter :=
  let (a, session) := x.run p.session
  (a, { p with session })

/-- Runs a script in the module of the interpreter. Reports name it by its path. -/
def execute (p : PythonInterpreter) (source : String) (path : Path) : Host (Except LoadError Unit × PythonInterpreter) := do
  if source.contains '\x00' ∨ path.text.contains '\x00' then return (.error .fileInvalid, p)
  else match Python.parseModule? source with
    | none =>
      let (_, p) := p.run do
        let _ : Option Unit ← Session.refuse "SyntaxError" "invalid syntax"
        Session.fetchAny
      Host.emit .warn eventTarget "unable to compile Python script"
      return (.error .fileInvalid, p)
    | some body =>
      let (named, p) := p.run do Session.setAttr (← Session.main) "__file__" (.ofString path.text)
      match named with
      | .ok () => pure ()
      | .error _ => Host.emit .debug eventTarget "unable to set __file__ for Python script"
      match p.run (Session.runModule body path.text) with
      | (.ok (), p) => return (.ok (), p)
      | (.error _, p) =>
        Host.emit .warn eventTarget "Python script raised while loading"
        return (.error .unknown, p)

end PythonInterpreter

/-- A script in its interpreter. -/
structure PythonPlugin where
  interpreter : PythonInterpreter
  path : Path

namespace PythonPlugin

def eventTarget : String := "trellis_python::plugin"

/-- Loads a script and runs it. -/
def load (path : Path) (options : PythonOptions) : Host (Except LoadError PythonPlugin) := do
  match (← Host.files).readText path with
  | .error e =>
    Host.emit .debug eventTarget "unable to read Python script"
    return .error (.ofFile e)
  | .ok source =>
    let p ← PythonInterpreter.start options
    match ← p.execute source path with
    | (.error e, p) =>
      p.finish
      return .error e
    | (.ok (), p) =>
      Host.emit .debug eventTarget "loaded Python plugin"
      return .ok { interpreter := p, path }

/-- Runs an operation of the interpreter of a plugin. -/
def run {α : Type} (p : PythonPlugin) (x : StateM Session α) : α × PythonPlugin :=
  let (a, interpreter) := p.interpreter.run x
  (a, { p with interpreter })

/-- Calls the function with a name. -/
def call (p : PythonPlugin) (name : String) (args : List (Ty × Datum)) (result : Ty) : Except CallError Datum × PythonPlugin :=
  p.run (Session.call name args result)

/-- Reads a global. -/
def global (p : PythonPlugin) (name : String) (t : Ty) : Except CallError Datum × PythonPlugin := p.run (Session.global name t)

/-- Gives a global a value. -/
def setGlobal (p : PythonPlugin) (name : String) (t : Ty) (d : Datum) : Except CallError Unit × PythonPlugin :=
  p.run (Session.setGlobal name t d)

end PythonPlugin

end PluginHost
