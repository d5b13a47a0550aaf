import PluginHost.Script.LuaStack
import PluginHost.Datum
import PluginHost.Error
import PluginHost.Single

/-!
# Data on the Lua stack

Pushing writes a datum as one slot, a container as a table that is filled through the stack. Reading is strict: a slot reads
only as the type that its value has, and a container only if all of its parts read. Both ask for room for each step, and reading
leaves the stack as it was.
-/

namespace PluginHost.Lua

namespace Vm

/-! ## Pushing -/

/-- An operation that may fail; what it did before that stays. -/
abbrev Push := ExceptT VmError (StateM Vm)

namespace Push

/-- Asks for room. -/
def reserve (n : Nat) : Push Unit := do
  let (granted, vm) := (← get).reserve (Int32.ofNat n)
  set vm
  unless granted do throw .stackOverflow

/-- Puts a value on top. -/
def raw (v : Value) : Push Unit := modify (·.pushValue v)

/-- Puts a new table on top. -/
def newTable (values keys : Nat) : Push Unit :=
  modify fun vm =>
    let (id, heap) := vm.heap.addTable (.withRoom values keys)
    { vm with heap }.pushValue (.table id)

/-- Takes a value and the key below it into the table below both. -/
def setEntry : Push Unit :=
  modify fun (vm : Vm) =>
    let vm := vm.touch 3
    let n := vm.top
    match vm.stack[n - 3]?, vm.stack[n - 2]?, vm.stack[n - 1]? with
    | some (.table id), some k, some v => match Key.ofValue? k with
      | some key => { vm with heap := vm.heap.modifyTable id (·.set key v) }.dropSlots 2
      | none => vm.dropSlots 2
    | _, _, _ => vm.dropSlots 2

/-- Takes a value into a place of the table below it. -/
def setItem (place : Nat) : Push Unit :=
  modify fun (vm : Vm) =>
    let vm := vm.touch 2
    let n := vm.top
    match vm.stack[n - 2]?, vm.stack[n - 1]? with
    | some (.table id), some v =>
      { vm with heap := vm.heap.modifyTable id (·.set (.integer (Int64.ofNat place)) v) }.dropSlots 1
    | _, _ => vm.dropSlots 1

end Push

mutual

/-- Pushes a datum, for whose slot there is room. -/
def pushDatum : Datum → Push Unit
  | .int n =>
    if -2 ^ 63 ≤ n ∧ n < 2 ^ 63 then Push.raw (.integer (Int64.ofInt n))
    else throw (.conversion s!"{n} does not fit in a Lua integer")
  | .f32 x => Push.raw (.number (Single.toDouble x))
  | .f64 x => Push.raw (.number x)
  | .bool b => Push.raw (.boolean b)
  | .str s => Push.raw (.text s.toUTF8)
  | .unit | .none => Push.raw .nil
  | .some d => pushDatum d
  | .list ds => do
    Push.newTable ds.length 0
    pushItems 1 ds
  | .map es => do
    Push.newTable 0 es.length
    pushEntries es

/-- Fills the table on top with items from a place on. -/
def pushItems : Nat → List Datum → Push Unit
  | _, [] => return ()
  | place, d :: ds => do
    Push.reserve 1
    pushDatum d
    Push.setItem place
    pushItems (place + 1) ds

/-- Fills the table on top with entries. -/
def pushEntries : List (Datum × Datum) → Push Unit
  | [] => return ()
  | (k, v) :: es => do
    Push.reserve 2
    pushDatum k
    pushDatum v
    Push.setEntry
    pushEntries es

end

/-- Pushes data one after the other, without asking for room for their slots. -/
def pushArgs : List Datum → Push Unit
  | [] => return ()
  | d :: ds => do
    pushDatum d
    pushArgs ds

/-- Cuts the stack of an interpreter to the height that it had before, and gives up the tables that were begun since: with
their slots gone, nothing refers to them. -/
def undo (after before : Vm) : Vm :=
  { after with heap := after.heap.dropTables before.heap.tables.size }.resize before.top

/-- Pushes a datum as one slot; a failure leaves the stack as it was. -/
def push (vm : Vm) (d : Datum) : Except VmError Unit × Vm :=
  match (do Push.reserve 1; pushDatum d : Push Unit).run.run vm with
  | (.ok (), after) => (.ok (), after)
  | (.error e, after) => (.error e, after.undo vm)

/-- Pushes data as one slot each; a failure leaves the stack as it was. -/
def pushAll (vm : Vm) (ds : List Datum) : Except VmError Unit × Vm :=
  match (do Push.reserve ds.length; pushArgs ds : Push Unit).run.run vm with
  | (.ok (), after) => (.ok (), after)
  | (.error e, after) => (.error e, after.undo vm)

/-! ## Reading -/

/-- Reads the topmost slot, which stays. -/
abbrev Read := StateM Vm (Option Datum)

/-- A value as a datum of a type without parts. -/
def scalar? : Ty → Value → Option Datum
  | .int t, v => do
    let n ← v.number?.bind Number.toInteger?
    if t.holds n.toInt then some (.int n.toInt) else none
  | .f32, v => v.number?.map fun n => .f32 (Single.ofDouble n.toFloat)
  | .f64, v => v.number?.map fun n => .f64 n.toFloat
  | .bool, .boolean b => some (.bool b)
  | .str, .text s => (Text.ofBytes? s).map .str
  | .nil, .nil => some .unit
  | _, _ => none

/-- Reads the entries of a table that is at a height, each through the stack, up to the first that does not read. -/
def walkEntries (readKey readValue : Read) (height : Nat) : List (Key × Value) → StateM Vm (Option (List (Datum × Datum)))
  | [] => return some []
  | (k, v) :: rest => do
    modify fun vm => (vm.pushValue k.toValue).pushValue v
    let value ← readValue
    modify (·.discard 1)
    let key ← readKey
    match key, value with
    | some key, some value =>
      modify (·.dropSlots 1)
      return (← walkEntries readKey readValue height rest).map ((key, value) :: ·)
    | _, _ =>
      modify (·.resize height)
      return none

/-- Reads the entries of the topmost slot, if it is a table. -/
def readEntries (readKey readValue : Read) : StateM Vm (Option (List (Datum × Datum))) := do
  match (← get).topValue? with
  | some (.table id) =>
    let (granted, vm) := (← get).reserve 2
    set vm
    if granted then walkEntries readKey readValue vm.top (vm.traversal.entries vm.heap id) else return none
  | _ => return none

/-- The items of a sequence whose places are the keys; they have to be the numbers from one up. -/
def itemsOf? (entries : List (Datum × Datum)) : Option Datum :=
  match Datum.mapOfEntries entries with
  | .map sorted =>
    if sorted.zipIdx.all fun ((k, _), i) => match k with
      | .int n => n = i + 1
      | _ => false
    then some (.list (sorted.map (·.2))) else none
  | _ => none

/-- Reads the topmost slot as a type without parts. -/
def readScalar (t : Ty) : Read := do return (← get).topValue?.bind (scalar? t)

/-- Reads the topmost slot as a type. -/
def readTop : Ty → Read
  | .opt t => do
    match (← get).topValue? with
    | some .nil => return some .none
    | _ => return (← readTop t).map .some
  | .vec t => do return (← readEntries (readScalar (.int .i64)) (readTop t)).bind itemsOf?
  | .map k v => do return (← readEntries (readTop k) (readTop v)).map Datum.mapOfEntries
  | .int t => readScalar (.int t)
  | .f32 => readScalar .f32
  | .f64 => readScalar .f64
  | .bool => readScalar .bool
  | .str => readScalar .str
  | .nil => readScalar .nil
  | .unit | .tuple _ => return none

/-- Reads the topmost slot. -/
def read (vm : Vm) (t : Ty) : Option Datum × Vm := (readTop t).run vm

/-- Reads the topmost slot and removes it, if it reads. -/
def pop (vm : Vm) (t : Ty) : Option Datum × Vm :=
  match vm.read t with
  | (some d, vm) => (some d, vm.discard 1)
  | (none, vm) => (none, vm)

/-- Reads the topmost slot and removes it in any case. -/
def popAlways (vm : Vm) (t : Ty) : Option Datum × Vm :=
  let (d, vm) := vm.read t
  (d, vm.discard 1)

/-! ## Results -/

/-- How many slots the results of a type are. -/
def resultCount : Ty → Nat
  | .unit => 0
  | .tuple ts => ts.length
  | _ => 1

/-- Reads a slot, counted from the bottom and from one, through a copy on top. -/
def readSlot (i : Nat) (t : Ty) : Read := do
  let (granted, vm) := (← get).reserve 1
  set vm
  if granted then
    modify (·.pushCopy i)
    let d ← readTop t
    modify (·.discard 1)
    return d
  else return none

/-- Reads slots from one on. -/
def readSlots : Nat → List Ty → StateM Vm (Option (List Datum))
  | _, [] => return some []
  | i, t :: ts => do
    match ← readSlot i t with
    | some d => return (← readSlots (i + 1) ts).map (d :: ·)
    | none => return none

/-- Reads the topmost slots as results; they stay. -/
def readResults (vm : Vm) (t : Ty) : Option Datum × Vm :=
  match t with
  | .unit => (some .unit, vm)
  | .tuple ts =>
    if vm.top < ts.length then (none, vm)
    else
      let (ds, vm) := (readSlots (vm.top - ts.length + 1) ts).run vm
      (ds.map .list, vm)
  | t => vm.read t

end Vm

/-! ## Captured functions -/

/-- A function that was on top of the stack: what told it from all others, the height at that time, and whether it was
called since. -/
structure Captured where
  identity : Option Key
  depth : Nat
  isConsumed : Bool := false

namespace Captured

/-- Captures the function on top. -/
def fromTop? (vm : Vm) : Option Captured :=
  if vm.topType = .function then some { identity := vm.identityAt? (-1), depth := vm.top } else none

theorem fromTop?_eq_some_iff {vm : Vm} {c : Captured} : fromTop? vm = some c ↔
    ∃ f, vm.topValue? = some f ∧ SlotType.ofValue f = .function ∧ c = { identity := f.identity?, depth := vm.top } := by
  rw [fromTop?, vm.topType_eq, vm.identityAt?_neg_one]
  cases hf : vm.topValue? with
  | none => simp
  | some f => simp [eq_comm (a := c)]

/-- Whether the slot still holds the function and is on top. -/
def isValid (c : Captured) (vm : Vm) : Bool :=
  !c.isConsumed && vm.top = c.depth && vm.topType = .function && vm.identityAt? (-1) = c.identity

/-- Lets a function go: if it was not called, its slot is removed if it is still there. -/
def release (c : Captured) (vm : Vm) : Vm :=
  if !c.isConsumed && vm.top = c.depth && vm.identityAt? (-1) = c.identity then vm.discard 1 else vm

/-- Calls the function that is on top of a number of slots and cuts the stack to these, whatever happens. -/
def run (base : Nat) (vm : Vm) (args : List Datum) (result : Ty) : Except CallError Datum × Vm :=
  match vm.pushAll args with
  | (.error e, vm) =>
    (.error (.incorrectType ("arguments cannot be converted to Lua values: " ++ e.display)), vm.resize base)
  | (.ok (), vm) => match vm.protectedCall (Int32.ofNat args.length) (Int32.ofNat (Vm.resultCount result)) with
    | (.error e, vm) => (.error (.unknown e.message), vm.resize base)
    | (.ok (), vm) => match vm.readResults result with
      | (some d, vm) => (.ok d, vm.resize base)
      | (none, vm) => (.error (.incorrectType "returned values do not match the requested types"), vm.resize base)

/-- Calls the function, unless the stack was rearranged in between, and lets it go. -/
def call (c : Captured) (vm : Vm) (args : List Datum) (result : Ty) : Except CallError Datum × Vm :=
  if c.isValid vm then
    let (answer, vm) := run (c.depth - 1) vm args result
    (answer, { c with isConsumed := true }.release vm)
  else (.error (.unknown "invalid stack content"), c.release vm)

theorem call_of_isValid {c : Captured} {vm : Vm} (hc : c.isValid vm) (args : List Datum) (result : Ty) :
    c.call vm args result = run (c.depth - 1) vm args result := by
  rw [call, if_pos hc]
  rfl

/-- The report of a captured function, whose identity is not told. -/
def describe (c : Captured) : String :=
  "LuaFunction \x7b identity: <address>, depth: " ++ toString c.depth ++ " \x7d"

end Captured

end PluginHost.Lua
