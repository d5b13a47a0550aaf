import PluginHost.Script.LuaSyntax
import PluginHost.Script.LuaNumber

/-!
# Lua values

Tables, functions and coroutines are numbered and live in the heap of their interpreter, so that two of them are the same when
their numbers agree. The functions of the standard library are values by themselves.
-/

namespace PluginHost.Lua

/-- The functions of the `math` library. -/
inductive MathFunction
  | abs | acos | asin | atan | ceil | cos | exp | floor | fmod | log | max | min | modf | sin | sqrt | tan | toInteger
  | type | ult
deriving DecidableEq, Repr

/-- The functions of the `string` library. -/
inductive TextFunction
  | byte | char | find | format | gmatch | gsub | len | lower | «match» | rep | reverse | sub | upper
deriving DecidableEq, Repr

/-- The functions of the `table` library. -/
inductive TableFunction
  | concat | insert | move | pack | remove | sort | unpack
deriving DecidableEq, Repr

/-- The functions of the `coroutine` library. -/
inductive ThreadFunction
  | close | create | isYieldable | resume | running | status | wrap | yield
deriving DecidableEq, Repr

/-- The functions of the standard library. -/
inductive Builtin
  | assert | collectGarbage | error | getMetatable | ipairs | ipairsNext | load | next | pairs | pcall | print | rawEqual
  | rawGet | rawLen | rawSet | select | setMetatable | toNumber | toString | type | xpcall
  | math (f : MathFunction)
  | text (f : TextFunction)
  /-- An operator on texts that spell numbers. -/
  | textArithmetic (op : BinOp)
  | textNegation
  | table (f : TableFunction)
  | thread (f : ThreadFunction)
  /-- What resumes a coroutine that was wrapped into a function. -/
  | wrapped (thread : Nat)
  /-- What finds the next match in a text, from the state with a number. -/
  | nextMatch (state : Nat)
  | upvalueId | rawMetatable
  | write
  /-- A function that this interpreter has no use for. -/
  | unavailable (name : String)
deriving DecidableEq, Repr

/-- The streams that are open from the start. -/
inductive Stream
  | input | output | error
deriving DecidableEq, Repr

/-- Lua values. -/
inductive Value
  | nil
  | boolean (b : Bool)
  | integer (n : Int64)
  | number (x : Float)
  | text (s : ByteArray)
  | table (id : Nat)
  | function (id : Nat)
  | builtin (f : Builtin)
  | thread (id : Nat)
  | stream (s : Stream)
  | address (n : Nat)

instance : Inhabited Value := ⟨.nil⟩

namespace Value

/-- The name of the type of a value. -/
def typeName : Value → String
  | nil => "nil"
  | boolean _ => "boolean"
  | integer _ | number _ => "number"
  | text _ => "string"
  | table _ => "table"
  | function _ | builtin _ => "function"
  | thread _ => "thread"
  | stream _ | address _ => "userdata"

/-- Whether a value counts as true. -/
def isTrue : Value → Bool
  | nil | boolean false => false
  | _ => true

/-- Whether a value is nothing. -/
def isNil : Value → Bool
  | nil => true
  | _ => false

@[simp] theorem isNil_iff {v : Value} : v.isNil = true ↔ v = nil := by
  cases v <;> simp [isNil]

@[simp] theorem isNil_eq_false_iff {v : Value} : v.isNil = false ↔ v ≠ nil := by
  cases v <;> simp [isNil]

/-- A text made of characters. -/
def ofString (s : String) : Value := text (Bytes.ofString s)

/-- A number as a value. -/
def ofNumber : Number → Value
  | .integer n => integer n
  | .float x => number x

/-- The number that a value is. -/
def number? : Value → Option Number
  | integer n => some (.integer n)
  | number x => some (.float x)
  | _ => none

/-- The number that a value is or, if it is a text, spells. -/
def toNumber? : Value → Option Number
  | text s => readNumber? (Bytes.toChars s)
  | v => v.number?

/-- The integer that a number equals. -/
def asInteger? (v : Value) : Option Int64 := v.number?.bind Number.toInteger?

/-- The integer that a value equals or spells. -/
def toInteger? (v : Value) : Option Int64 := v.toNumber?.bind Number.toInteger?

/-- The text that a value is, a number being written out. -/
def toText? : Value → Option ByteArray
  | text s => some s
  | integer n => some (Bytes.ofString (Number.integer n).text)
  | number x => some (Bytes.ofString (floatText x))
  | _ => none

/-- Equality without metamethods. -/
def rawEquals : Value → Value → Bool
  | nil, nil => true
  | boolean a, boolean b => a = b
  | text a, text b => a = b
  | table a, table b => a = b
  | function a, function b => a = b
  | builtin a, builtin b => a = b
  | thread a, thread b => a = b
  | stream a, stream b => a = b
  | address a, address b => a = b
  | a, b => match a.number?, b.number? with
    | some x, some y => x.compare? y = some .eq
    | _, _ => false

end Value

/-! ## Keys -/

/-- Whether a double is a number but no integer. -/
def IsFraction (x : Float) : Prop := floatToInteger? x = none ∧ x.isNaN = false

/-- What a table can be indexed by: a double stands for itself only when it is no integer. -/
inductive Key
  | boolean (b : Bool)
  | integer (n : Int64)
  | number (x : Float) (isFraction : IsFraction x)
  | text (s : ByteArray)
  | table (id : Nat)
  | function (id : Nat)
  | builtin (f : Builtin)
  | thread (id : Nat)
  | stream (s : Stream)
  | address (n : Nat)
deriving DecidableEq

namespace Key

/-- The key that a value is; nothing and what is no number are none. -/
def ofValue? : Value → Option Key
  | .nil => none
  | .boolean b => some (boolean b)
  | .integer n => some (integer n)
  | .number x => match h : floatToInteger? x with
    | some n => some (integer n)
    | none => if hn : x.isNaN = true then none else some (number x ⟨h, eq_false_of_ne_true hn⟩)
  | .text s => some (text s)
  | .table id => some (table id)
  | .function id => some (function id)
  | .builtin f => some (builtin f)
  | .thread id => some (thread id)
  | .stream s => some (stream s)
  | .address n => some (address n)

/-- The value of a key. -/
def toValue : Key → Value
  | boolean b => .boolean b
  | integer n => .integer n
  | number x _ => .number x
  | text s => .text s
  | table id => .table id
  | function id => .function id
  | builtin f => .builtin f
  | thread id => .thread id
  | stream s => .stream s
  | address n => .address n

/-- The key of a name. -/
def ofString (s : String) : Key := text (Bytes.ofString s)

/-- The place in the array part that a key means: the number of values before it. -/
def position? : Key → Option Nat
  | integer n => if 0 < n.toInt then some (n.toInt.toNat - 1) else none
  | _ => none

/-- The key that means a place in the array part. -/
def atPosition (i : Nat) : Key := integer (Int64.ofNat (i + 1))

end Key

/-- What tells an object from all others; numbers, texts and the like are no objects, and no address that a script has is
that of another object. -/
def Value.identity? : Value → Option Key
  | .table id => some (.table id)
  | .function id => some (.function id)
  | .builtin f => some (.builtin f)
  | .thread id => some (.thread id)
  | .stream s => some (.stream s)
  | .address n => some (.address n)
  | _ => none

end PluginHost.Lua
