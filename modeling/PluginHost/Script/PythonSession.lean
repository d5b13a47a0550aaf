import PluginHost.Script.PythonExchange
import PluginHost.Script.PythonStart

/-!
# Using a Python interpreter from outside

An operation that raises an exception leaves it set in the interpreter, where it stays until it is fetched or cleared; each
operation that a host uses does one of the two. A fetched exception is plain data: the name of its type, its text, and the
report of the places that it went through, as the module `traceback` of the interpreter gives it.
-/

namespace PluginHost.Python

/-- An exception that is set. -/
inductive Pending
  | raised (e : Value)
  /-- One that a host has set: its type and what it is made of. -/
  | set (kind value : Value)

/-- An interpreter with the exception that is set in it. -/
structure Session where
  interp : Interp
  pending : Option Pending := none

/-- An exception as plain data. -/
structure ExceptionReport where
  typeName : String := ""
  value : String := ""
  traceback : Option String := none
deriving DecidableEq, Repr

/-- An exception in words. -/
def ExceptionReport.message (e : ExceptionReport) : String :=
  "'" ++ e.typeName ++ "': '" ++ e.value ++ "'" ++ match e.traceback with
    | some t => "\nTraceback:\n" ++ t
    | none => ""

namespace Session

/-- Runs a computation. An exception that it raises is set. -/
def attempt {α : Type} (x : Run α) : StateM Session (Option α) := fun s =>
  match x s.interp with
  | (.ok a, i) => (some a, { s with interp := i })
  | (.error (.error e _), i) => (none, { interp := i, pending := some (.raised e) })
  | (.error .exhausted, i) => (none, { s with interp := i })

/-- Forgets the exception that is set. -/
def clear : StateM Session Unit := modify fun s => { s with pending := none }

/-- Whether an exception is set. -/
def occurred : StateM Session Bool := return (← get).pending.isSome

/-- Forgets the exception that comes with nothing. -/
def orClear {α : Type} (x : StateM Session (Option α)) : StateM Session (Option α) := do
  match ← x with
  | some a => return some a
  | none =>
    clear
    return none

/-- Runs a computation and forgets the exception that it raises. -/
def attemptClear {α : Type} (x : Run α) : StateM Session (Option α) := orClear (attempt x)

/-- Sets an exception that is built in and gives nothing, as the interface of the interpreter does when it refuses
something. -/
def refuse {α : Type} (kind message : String) : StateM Session (Option α) := do
  modify fun s => { s with pending := some (.set (.ref (exceptionId kind)) (.ofString message)) }
  return none

/-! ## Conversions -/

/-- The characters of a text, if it has no surrogates. -/
def characters? (t : Text) : StateM Session (Option String) :=
  orClear (match t.string? with
    | some s => return some s
    | none => refuse "UnicodeEncodeError" "surrogates not allowed")

/-- An integer as one of a type of the host. The interpreter gives 64 bits at most. -/
def integer? (t : IntTy) (n : Int) : StateM Session (Option Int) := do
  let wide : IntTy := if t.signed then .i64 else .u64
  match ← orClear (if wide.holds n then return some n else refuse "OverflowError" "int too big to convert") with
  | some n => return if t.holds n then some n else none
  | none => return none

/-- Reads the items of a sequence one by one, up to the first that does not fit. -/
def readItems {α β : Type} (f : α → StateM Session (Option β)) : List α → StateM Session (Option (List β))
  | [] => return some []
  | x :: xs => do
    match ← f x with
    | none => return none
    | some y => match ← readItems f xs with
      | none => return none
      | some ys => return some (y :: ys)

mutual

/-- Reads a value at a type. -/
def read (h : Heap) : Ty → Value → StateM Session (Option Datum)
  | .int t, v => match plainOf h v with
    | .int n => return (← integer? t n).map .int
    | _ => return none
  | .f32, v => match plainOf h v with
    | .float x => return some (.f32 (Single.ofDouble x))
    | _ => return none
  | .f64, v => match plainOf h v with
    | .float x => return some (.f64 x)
    | _ => return none
  | .bool, .bool b => return some (.bool b)
  | .bool, _ => return none
  | .str, v => match plainOf h v with
    | .str s => return (← characters? s).map .str
    | _ => return none
  | .nil, _ | .unit, _ => return none
  | .opt _, .none => return some .none
  | .opt t, v => return (← read h t v).map .some
  | .vec t, v => match sequence? h v with
    | some items => return (← readItems (read h t) items).map .list
    | none => return none
  | .tuple ts, v => match tuple? h v with
    | some items => return (← readEach h ts items).map .list
    | none => return none
  | .map k v, x => match mapping? h x with
    | some entries => do
      let read ← readItems (fun e => do
        match ← read h k e.1, ← read h v e.2 with
        | some a, some b => return some (a, b)
        | _, _ => return none) entries
      return read.map Datum.mapOfEntries
    | none => return none
termination_by structural t => t

/-- Reads values at a type each. -/
def readEach (h : Heap) : List Ty → List Value → StateM Session (Option (List Datum))
  | [], [] => return some []
  | t :: ts, v :: vs => do
    match ← read h t v with
    | none => return none
    | some d => match ← readEach h ts vs with
      | none => return none
      | some ds => return some (d :: ds)
  | _, _ => return none
termination_by structural ts => ts

end

/-- Reads the result of a call as a type; one that asks for nothing takes anything. -/
def readResult (h : Heap) : Ty → Value → StateM Session (Option Datum)
  | .unit, _ => return some .unit
  | t, v => read h t v

/-- Makes objects. What was made for one that cannot be made is gone, since nothing refers to it. -/
def build {α : Type} (x : Heap → Option (α × Heap)) : StateM Session (Option α) := do
  let s ← get
  match x s.interp.heap with
  | some (a, heap) =>
    set { s with interp := { s.interp with heap } }
    return some a
  | none => orClear (refuse "TypeError" "unhashable type")

/-- Makes the object for a datum. -/
def make (t : Ty) (d : Datum) : StateM Session (Option Value) := build (encode t d)

/-- Makes the objects for arguments. -/
def makeAll (args : List (Ty × Datum)) : StateM Session (Option (List Value)) := build (encodeAll args)

/-! ## Objects -/

/-- The text of a value, if it has one without surrogates. -/
def str? (v : Value) : StateM Session (Option String) := do
  match ← attemptClear (str engine v) with
  | some t => characters? t
  | none => return none

/-- The name of the type of a value. -/
def typeName (v : Value) : StateM Session String := return (← attemptClear v.typeName).getD ""

/-- The attribute of a value, if there is one. -/
def getAttr? (v : Value) (name : String) : StateM Session (Option Value) := do
  if name.contains '\x00' then return none
  else orClear do
    match ← attempt (Python.getAttr? engine v name) with
    | some (some a) => return some a
    | some none => refuse "AttributeError" ("object has no attribute '" ++ name ++ "'")
    | none => return none

/-- Whether a value can be called. -/
def isCallable (v : Value) : StateM Session Bool := return (← attemptClear (Python.isCallable v)) = some true

/-! ## Exceptions -/

/-- An exception with its type, made from the one that is set. What a host has set is made an instance of its type: nothing
gives no argument, a tuple gives all of them, anything else is the only one. -/
def normalize : Pending → Run (Value × Value)
  | .raised e => return (.ref (← e.typeId), e)
  | .set kind value => do
    let fits ← match ← kind.class? with
      | some (id, _) => value.isInstance id
      | none => pure false
    if fits then return (.ref (← value.typeId), value)
    else
      let args := match value with
        | .none => []
        | .tuple items => items
        | v => [v]
      let made ← engine.call kind args []
      if ← made.isInstance (exceptionId "BaseException") then return (kind, made)
      else Run.typeError ("calling " ++ (← repr engine kind).string
        ++ " should have returned an instance of BaseException, not " ++ (← made.typeName))

/-- The report of the places that an exception went through, if the module `traceback` gives one. -/
def reportTraceback (trace : List TraceEntry) : StateM Session (Option String) := do
  match ← attemptClear (importModule "traceback") with
  | none => return none
  | some module => match ← getAttr? module "format_tb" with
    | none => return none
    | some f =>
      let lines ← attemptClear do
        let t ← Run.alloc { cls := BaseType.traceback.id, data := .traceback trace }
        engine.call f [t] []
      match lines with
      | none => return none
      | some v => match ← read (← get).interp.heap (.vec .str) v with
        | some (.list texts) =>
          return some (String.join (texts.map fun
            | .str s => s
            | _ => ""))
        | _ => return none

/-- An exception that was set, with its type. An error of its constructor takes its place. -/
def normalized (p : Pending) : StateM Session (Option (Value × Value)) := do
  match ← attempt (normalize p) with
  | some made => return some made
  | none => do
    let replacement := (← get).pending
    clear
    match replacement with
    | some (.raised e) => attemptClear (normalize (.raised e))
    | _ => return none

/-- The places that an exception went through. -/
def traceOf (e : Value) : Run (List TraceEntry) := do
  match e with
  | .ref id => match ← Run.data id with
    | .exception i => return i.trace
    | _ => return []
  | _ => return []

/-- The name of a type. -/
def nameOf (kind : Value) : StateM Session (Option String) := do
  match ← getAttr? kind "__name__" with
  | some n => str? n
  | none => return none

/-- The report of the places that an exception went through, if it went through any. -/
def tracebackOf (e : Value) : StateM Session (Option String) := do
  match ← attemptClear (traceOf e) with
  | none | some [] => return none
  | some trace => reportTraceback trace

/-- An exception with its type as plain data. -/
def describe (kind e : Value) : StateM Session ExceptionReport := do
  let name ← nameOf kind
  let text ← str? e
  let traceback ← tracebackOf e
  return { typeName := name.getD "", value := text.getD "", traceback }

/-- Takes the exception that is set. -/
def fetch : StateM Session (Option ExceptionReport) := do
  match (← get).pending with
  | none => return none
  | some p => do
    clear
    match ← normalized p with
    | none => return some {}
    | some (kind, e) =>
      let report ← describe kind e
      clear
      return some report

/-- Takes the exception that is set; the empty one if there is none. -/
def fetchAny : StateM Session ExceptionReport := return (← fetch).getD {}

/-- Sets an exception of a type, made of a value. -/
def setException (kind value : Value) : StateM Session Unit := do
  let isKind ← attemptClear do
    match ← kind.class? with
    | some (_, c) => return c.mro.contains (exceptionId "BaseException")
    | none => return false
  if isKind = some true then modify fun s => { s with pending := some (.set kind value) }
  else
    let _ ← attempt do
      let shown ← repr engine kind
      (Run.fail "SystemError" ("_PyErr_SetObject: exception " ++ shown.string ++ " is not a BaseException subclass") : Run Unit)
    return ()

/-! ## Operations of a host -/

/-- Sets an attribute of a value. -/
def setAttr (v : Value) (name : String) (new : Value) : StateM Session (Except ExceptionReport Unit) := do
  if name.contains '\x00' then return .error { typeName := "ValueError", value := "attribute name contains NUL" }
  else match ← attempt (Python.setAttr engine v name new) with
    | some () => return .ok ()
    | none => return .error (← fetchAny)

/-- Calls a value. -/
def callValue (f : Value) (args : List Value) : StateM Session (Except ExceptionReport Value) := do
  match ← attempt (engine.call f args []) with
  | some v => return .ok v
  | none => return .error (← fetchAny)

/-- The module that scripts run in. -/
def main : StateM Session Value := return .ref (← get).interp.main

/-- Calls what has a name in the module that scripts run in. -/
def call (name : String) (args : List (Ty × Datum)) (result : Ty) : StateM Session (Except CallError Datum) := do
  match ← getAttr? (← main) name with
  | none => return .error (.symbolNotFound name)
  | some f =>
    if ← isCallable f then match ← makeAll args with
      | none => return .error (.incorrectType "arguments cannot be converted to Python objects")
      | some vs => match ← callValue f vs with
        | .error e => return .error (.unknown e.message)
        | .ok v => match ← readResult (← get).interp.heap result v with
          | some d => return .ok d
          | none => return .error (.incorrectType "returned value does not match the requested type")
    else return .error (.symbolNotFound name)

/-- Reads what has a name in the module that scripts run in. -/
def global (name : String) (t : Ty) : StateM Session (Except CallError Datum) := do
  match ← getAttr? (← main) name with
  | none => return .error (.symbolNotFound name)
  | some v => match ← read (← get).interp.heap t v with
    | some d => return .ok d
    | none => return .error (.incorrectType ("global '" ++ name ++ "' does not match the requested type"))

/-- Gives a name in the module that scripts run in a value. -/
def setGlobal (name : String) (t : Ty) (d : Datum) : StateM Session (Except CallError Unit) := do
  match ← make t d with
  | none => return .error (.incorrectType "value cannot be converted to a Python object")
  | some v => match ← setAttr (← main) name v with
    | .ok () => return .ok ()
    | .error e => return .error (.unknown e.message)

/-- Runs statements in the module that scripts run in. -/
def runModule (body : List Stmt) (path : String) : StateM Session (Except ExceptionReport Unit) := do
  match ← attempt (do
      let env : Env := { file := path, globals := (← get).globals }
      let _ ← Run.inFrame env (execAll runFuel env body)) with
  | some () => return .ok ()
  | none => return .error (← fetchAny)

/-- What was printed since it was last taken. -/
def takeOutput (s : Session) : String × Session :=
  (s.interp.output, { s with interp := { s.interp with output := "" } })

end Session

end PluginHost.Python
