import PluginHost.Script.LuaRun
import PluginHost.Text.Quoted

/-!
# The stack between the host and Lua

A host talks to an interpreter through a stack: what it pushes are arguments, what it reads are results. `Vm` is an interpreter
with its stack. The interpreter refuses requests for room beyond a limit; once it has refused one, it keeps some more room for
handling that. The interpreter does not check whether a slot is there that it reads or removes, so `strays` counts the slots
that were read and `missing` those that were removed without being there; its own count of slots falls below zero with these.
-/

namespace PluginHost.Lua

/-- What the interpreter reports to the host. -/
inductive VmError
  | malformed (message : String)
  | runtime (message : String)
  | memory
  | handler (message : String)
  | conversion (message : String)
  | stackOverflow
deriving DecidableEq, Repr

namespace VmError

/-- The message alone. -/
def message : VmError → String
  | malformed m | runtime m | handler m | conversion m => m
  | memory => "not enough memory"
  | stackOverflow => "stack overflow"

/-- The message with its category. -/
def display : VmError → String
  | malformed m => "syntax error: " ++ m
  | runtime m => "runtime error: " ++ m
  | memory => "memory allocation failed"
  | handler m => "error in error handler: " ++ m
  | conversion m => "value cannot be represented in Lua: " ++ m
  | stackOverflow => "stack overflow"

end VmError

/-- The types of slots. -/
inductive SlotType
  | none | nil | boolean | lightUserData | number | string | table | function | userData | thread
deriving DecidableEq, Repr

namespace SlotType

/-- The name of a type. -/
def name : SlotType → String
  | none => "no value"
  | nil => "nil"
  | boolean => "boolean"
  | lightUserData => "light userdata"
  | number => "number"
  | string => "string"
  | table => "table"
  | function => "function"
  | userData => "userdata"
  | thread => "thread"

/-- The type of a value. -/
def ofValue : Value → SlotType
  | .nil => nil
  | .boolean _ => boolean
  | .integer _ | .number _ => number
  | .text _ => string
  | .table _ => table
  | .function _ | .builtin _ => function
  | .thread _ => thread
  | .stream _ => userData
  | .address _ => lightUserData

end SlotType

/-- An order in which a host meets the entries of each table. The interpreter promises none. -/
structure Traversal where
  entries : Heap → Nat → List (Key × Value)
  perm : ∀ h id, (entries h id).Perm (h.table id).toEntries

/-- The order in which tables are laid out. -/
instance : Inhabited Traversal := ⟨⟨fun h id => (h.table id).toEntries, fun _ _ => .refl _⟩⟩

/-- An interpreter and its stack, the bottom first. -/
structure Vm where
  heap : Heap := .empty
  stack : Array Value := #[]
  /-- How many requests for room were refused. -/
  refusals : Nat := 0
  traversal : Traversal := default
  /-- How many slots were removed that were not there. -/
  missing : Nat := 0
  /-- How many slots were read that were not there. -/
  strays : Nat := 0
deriving Inhabited

namespace Vm

/-- Opens the standard library. -/
def openLibraries (vm : Vm) : Vm := { vm with heap := vm.heap.openLibraries }

/-! ## Slots -/

/-- The number of slots. -/
def top (vm : Vm) : Nat := vm.stack.size

/-- The number of slots as the interpreter has it, which is the index of the topmost one. -/
def topIndex (vm : Vm) : Int := vm.top - vm.missing

/-- Whether every slot that was read or removed had been there. -/
def isIntact (vm : Vm) : Bool := vm.missing == 0 && vm.strays == 0

/-- The topmost slot. -/
def topValue? (vm : Vm) : Option Value := vm.stack.back?

/-- Puts a value on top, without asking for room. -/
def pushValue (vm : Vm) (v : Value) : Vm := { vm with stack := vm.stack.push v }

/-- Reads slots from the top as the interpreter does: without asking whether they are there. -/
def touch (vm : Vm) (n : Nat) : Vm := { vm with strays := vm.strays + (n - vm.top) }

/-- Puts a copy of a slot on top, counted from the bottom and from one, without asking whether it is there. -/
def pushCopy (vm : Vm) (i : Nat) : Vm :=
  { vm with strays := vm.strays + if 0 < i ∧ i ≤ vm.top then 0 else 1 }.pushValue (vm.stack.getD (i - 1) .nil)

/-- Removes slots as the interpreter does: without asking whether they are there. -/
def dropSlots (vm : Vm) (n : Nat) : Vm :=
  { vm with stack := vm.stack.take (vm.stack.size - n), missing := vm.missing + (n - vm.stack.size) }

/-- Cuts the stack to a height, or fills it up to it. -/
def resize (vm : Vm) (n : Nat) : Vm :=
  if n ≤ vm.stack.size then { vm with stack := vm.stack.take n }
  else { vm with stack := vm.stack ++ Array.replicate (n - vm.stack.size) .nil }

/-- Sets the height of the stack; a negative one counts from the top. -/
def setTop (vm : Vm) (i : Int32) : Vm :=
  if 0 ≤ i.toInt then vm.resize i.toInt.toNat else vm.dropSlots (-(i.toInt + 1)).toNat

/-- Removes slots from the top, as many as there are at most. -/
def discard (vm : Vm) (count : Int32) : Vm :=
  let n := min count.toInt vm.top
  if 0 < n then vm.dropSlots n.toNat else vm

/-- Whether an index names a slot, from the bottom if it is positive and from the top if it is negative. The negation of an
index wraps. -/
def isValidIndex (vm : Vm) (i : Int32) : Bool :=
  if i < 0 then (-i).toInt ≤ vm.top else 0 < i.toInt && i.toInt ≤ vm.top

/-- The value that an index names. -/
def slot? (vm : Vm) (i : Int32) : Option Value :=
  if i.toInt < 0 then
    if -i.toInt ≤ vm.top then vm.stack[(vm.top + i.toInt).toNat]? else none
  else if 0 < i.toInt then vm.stack[i.toInt.toNat - 1]? else none

/-- The type of the slot that an index names. -/
def typeAt (vm : Vm) (i : Int32) : SlotType :=
  if vm.isValidIndex i then ((vm.slot? i).map .ofValue).getD .none else .none

/-- The type of the topmost slot. -/
def topType (vm : Vm) : SlotType := vm.typeAt (-1)

/-- What tells the object that an index names from all others. -/
def identityAt? (vm : Vm) (i : Int32) : Option Key := (vm.slot? i).bind Value.identity?

/-- Whether the topmost slot is an integer. -/
def isInteger (vm : Vm) : Bool :=
  match vm.topValue? with
  | some (.integer _) => true
  | _ => false

/-- Reading slots that are there changes nothing. -/
theorem touch_of_le {vm : Vm} {n : Nat} (h : n ≤ vm.top) : vm.touch n = vm := by
  rw [touch, Nat.sub_eq_zero_of_le h]
  rfl

theorem pushCopy_of_le {vm : Vm} {i : Nat} (hpos : 0 < i) (h : i ≤ vm.top) :
    vm.pushCopy i = vm.pushValue (vm.stack.getD (i - 1) .nil) := by
  rw [pushCopy, if_pos ⟨hpos, h⟩]
  rfl

theorem slot?_neg_one (vm : Vm) : vm.slot? (-1) = vm.topValue? := by
  have hone : (-1 : Int32).toInt = -1 := by decide
  unfold slot? topValue? top
  rw [hone, if_pos (by omega), Array.back?]
  by_cases h : vm.stack.size = 0
  · rw [if_neg (by omega), Array.getElem?_eq_none (by omega)]
  · rw [if_pos (by omega)]
    congr 1
    omega

theorem isValidIndex_neg_one (vm : Vm) : vm.isValidIndex (-1) = decide (0 < vm.top) := by
  have hneg : (-1 : Int32) < 0 := by decide
  have hone : (- -1 : Int32).toInt = 1 := by decide
  unfold isValidIndex
  rw [if_pos hneg, hone, decide_eq_decide]
  omega

theorem topType_eq (vm : Vm) : vm.topType = (vm.topValue?.map .ofValue).getD .none := by
  unfold topType typeAt
  rw [isValidIndex_neg_one, slot?_neg_one]
  by_cases h : 0 < vm.top
  · rw [if_pos (by simpa using h)]
  · have hempty : vm.topValue? = none := by
      unfold top at h
      simp only [topValue?, Array.back?]
      exact Array.getElem?_eq_none (by omega)
    rw [if_neg (by simpa using h), hempty]
    rfl

theorem identityAt?_neg_one (vm : Vm) : vm.identityAt? (-1) = vm.topValue?.bind Value.identity? := by
  rw [identityAt?, slot?_neg_one]

/-! ## Room -/

/-- The height of the stack that the interpreter allows. -/
def maxHeight : Nat := 999999

/-- The height that it allows once it has refused a request. -/
def maxHeightAfterRefusal : Nat := 1000198

/-- Whether a request for room was refused. -/
def hasOverflowed (vm : Vm) : Bool := 0 < vm.refusals

/-- Notes refused requests. -/
def refuse (vm : Vm) (n : Nat) : Vm := { vm with refusals := vm.refusals + n }

/-- Asks for room for further slots: whether it is granted, and the interpreter after that. -/
def reserve (vm : Vm) (extra : Int32) : Bool × Vm :=
  let limit := if vm.hasOverflowed then maxHeightAfterRefusal else maxHeight
  if vm.top + extra.toInt ≤ limit then (true, vm) else (false, vm.refuse 1)

/-! ## Globals -/

/-- Puts the value of a global on top, unless it is nothing: whether it is there, and the interpreter after that. A name with
a NUL is no global's. -/
def pushGlobal (vm : Vm) (name : String) : Bool × Vm :=
  if name.toList.contains '\x00' then (false, vm)
  else match vm.reserve 1 with
    | (false, vm) => (false, vm)
    | (true, vm) => match lookUp vm name with
      | (.nil, vm) => (false, (vm.pushValue .nil).discard 1)
      | (v, vm) => (true, vm.pushValue v)
where
  /-- The value of a global, metatables being asked. An error on the way would end the host; here it is nothing. -/
  lookUp (vm : Vm) (name : String) : Value × Vm :=
    let m : Machine := { heap := vm.heap, control := .done }
    let m := m.index (.table vm.heap.globals) (.ofString name) none none
    match Machine.runFor maxSteps m with
    | some (.values (v :: _), heap) => (v, { vm with heap })
    | some (_, heap) => (.nil, { vm with heap })
    | none => (.nil, vm)

/-- Takes the topmost slot into a global. With a NUL in its name the slot is removed and nothing else happens. -/
def setGlobal (vm : Vm) (name : String) : Vm :=
  if name.toList.contains '\x00' then vm.discard 1
  else
    let vm := vm.touch 1
    let v := vm.topValue?.getD .nil
    let m : Machine := { heap := vm.heap, control := .done }
    let m := m.setIndex (.table vm.heap.globals) (.ofString name) v none none
    let vm := match Machine.runFor maxSteps m with
      | some (_, heap) => { vm with heap }
      | none => vm
    vm.dropSlots 1

/-! ## Chunks and calls -/

/-- The text of an error value, or what it is instead. -/
def errorMessage (v : Value) : String :=
  match v with
  | .text s => Text.ofBytesLossy s
  | v => s!"(error object is a {(SlotType.ofValue v).name} value)"

/-- Compiles a chunk and puts its function on top. -/
def loadChunk (vm : Vm) (source : ByteArray) (name : String) : Except VmError Unit × Vm :=
  if name.toList.contains '\x00' then (.error (.malformed "chunk name contains NUL"), vm)
  else match parseChunk? (Bytes.toChars source) with
    | some body =>
      let (f, heap) := vm.heap.addChunk body (Bytes.ofString name)
      (.ok (), { vm with heap }.pushValue f)
    | none => (.error (.malformed "the chunk is not well formed"), vm)

/-- The error of a failed call; running out of memory has a value of its own. -/
def callError (v : Value) : VmError :=
  match v with
  | .text s => if s = Bytes.ofString "not enough memory" then .memory else .runtime (errorMessage v)
  | v => .runtime (errorMessage v)

/-- How much room a function needs to start. -/
def roomToStart : Value → Nat
  | .builtin _ => 20
  | _ => 2

/-- A number of values: cut, or filled up with nothing. A negative number leaves them as they are. -/
def adjust (vs : List Value) (n : Int) : List Value :=
  if n < 0 then vs else vs.take n.toNat ++ List.replicate (n.toNat - vs.length) .nil

/-- Calls the function below some arguments: results or nothing take the place of all of them. -/
def protectedCall (vm : Vm) (arguments results : Int32) : Except VmError Unit × Vm :=
  let n := arguments.toInt.toNat
  let vm := vm.touch (n + 1)
  let base := vm.top - (n + 1)
  let args := (vm.stack.extract (base + 1) vm.top).toList
  let f := vm.stack.getD base .nil
  let below := { vm with stack := vm.stack.take base, missing := vm.missing + (n + 1 - vm.top) }
  if maxHeight < vm.top + roomToStart f ∧ !vm.hasOverflowed then (.error (.runtime "stack overflow"), below)
  else match vm.heap.callFunction f args with
    | some (.values vs, heap) =>
      (.ok (), { below with heap, stack := below.stack ++ (adjust vs results.toInt).toArray })
    | some (.error v, heap) => (.error (callError v), { below with heap })
    | none => (.error (.runtime "the call did not end"), below)

/-! ## Reports -/

/-- A line about a slot; what a table or a function refers to is not told apart. -/
def describeSlot (i : Nat) (v : Value) : String :=
  let type := (SlotType.ofValue v).name
  match v with
  | .boolean b => s!"{i}: {type} {b}"
  | .integer n => s!"{i}: {type} {n.toInt}"
  | .number x => s!"{i}: {type} {Decimal.plain (.ofFloat x)}"
  | .text s => s!"{i}: {type} {Text.quote (Text.ofBytesLossy s)}"
  | .table _ | .function _ | .builtin _ => s!"{i}: {type} <address>"
  | _ => s!"{i}: {type}"

/-- A line about each slot, the bottom first. -/
def dump (vm : Vm) : List String := vm.stack.toList.zipIdx.map fun (v, i) => describeSlot (i + 1) v

/-- The report of an interpreter. -/
def describe (vm : Vm) : String := "LuaState \x7b top: " ++ toString vm.topIndex ++ " \x7d"

/-- Takes what was written to the standard output. -/
def takeOutput (vm : Vm) : String × Vm :=
  (Text.ofBytesLossy vm.heap.output, { vm with heap := { vm.heap with output := .empty } })

end Vm

end PluginHost.Lua
