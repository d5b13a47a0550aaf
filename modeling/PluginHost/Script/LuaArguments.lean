import PluginHost.Script.LuaMachine

/-!
# Arguments of Lua library functions

What a library function may ask of its arguments, with the messages of refusals. Arguments are numbered from one.
-/

namespace PluginHost.Lua

/-- Why a library function fails. -/
inductive Failure
  /-- A wrong argument, by its number. -/
  | argument (i : Nat) (problem : String)
  /-- Anything else; the message names the place of the call. -/
  | message (text : String)
  /-- A message that names no place. -/
  | bare (text : String)

/-- The arguments of a call, and the heap that they refer to. -/
structure Args where
  heap : Heap
  values : List Value

namespace Args

/-- An argument, if there is one. -/
def at? (a : Args) (i : Nat) : Option Value := a.values[i - 1]?

/-- An argument, or nothing. -/
def get (a : Args) (i : Nat) : Value := (a.at? i).getD .nil

/-- The name of the type of an argument in messages. -/
def typeName (a : Args) (i : Nat) : String :=
  match a.at? i with
  | none => "no value"
  | some (.address _) => "light userdata"
  | some v => a.heap.typeName v

/-- The refusal of an argument of the wrong type. -/
def expected (a : Args) (i : Nat) (type : String) : Failure := .argument i s!"{type} expected, got {a.typeName i}"

/-- Whether an argument is left out or nothing. -/
def isAbsent (a : Args) (i : Nat) : Bool :=
  match a.at? i with
  | none | some .nil => true
  | _ => false

/-- Any argument, as long as there is one. -/
def any (a : Args) (i : Nat) : Except Failure Value :=
  match a.at? i with
  | some v => return v
  | none => throw (.argument i "value expected")

/-- An argument that is a number or spells one. -/
def number (a : Args) (i : Nat) : Except Failure Number :=
  match (a.get i).toNumber? with
  | some n => return n
  | none => throw (a.expected i "number")

/-- An argument that is an integer or spells one. -/
def integer (a : Args) (i : Nat) : Except Failure Int64 :=
  match (a.get i).toInteger? with
  | some n => return n
  | none =>
    if (a.get i).toNumber?.isSome then throw (.argument i "number has no integer representation")
    else throw (a.expected i "number")

/-- An integer that may be left out. -/
def integerOr (a : Args) (i : Nat) (default : Int64) : Except Failure Int64 :=
  if a.isAbsent i then return default else a.integer i

/-- An argument that is a text or a number, as a text. -/
def text (a : Args) (i : Nat) : Except Failure ByteArray :=
  match (a.get i).toText? with
  | some s => return s
  | none => throw (a.expected i "string")

/-- An argument that is a table. -/
def table (a : Args) (i : Nat) : Except Failure Nat :=
  match a.get i with
  | .table id => return id
  | _ => throw (a.expected i "table")

end Args

/-- What a function of the library is called in messages if nothing else names it. -/
def TextFunction.name : TextFunction → String
  | byte => "byte"
  | char => "char"
  | find => "find"
  | format => "format"
  | gmatch => "gmatch"
  | gsub => "gsub"
  | len => "len"
  | lower => "lower"
  | «match» => "match"
  | rep => "rep"
  | reverse => "reverse"
  | sub => "sub"
  | upper => "upper"

/-- The name of a function of the `math` library. -/
def MathFunction.name : MathFunction → String
  | abs => "abs"
  | acos => "acos"
  | asin => "asin"
  | atan => "atan"
  | ceil => "ceil"
  | cos => "cos"
  | exp => "exp"
  | floor => "floor"
  | fmod => "fmod"
  | log => "log"
  | max => "max"
  | min => "min"
  | modf => "modf"
  | sin => "sin"
  | sqrt => "sqrt"
  | tan => "tan"
  | toInteger => "tointeger"
  | type => "type"
  | ult => "ult"

/-- The name of a function of the `table` library. -/
def TableFunction.name : TableFunction → String
  | concat => "concat"
  | insert => "insert"
  | move => "move"
  | pack => "pack"
  | remove => "remove"
  | sort => "sort"
  | unpack => "unpack"

/-- The name of a function of the `coroutine` library. -/
def ThreadFunction.name : ThreadFunction → String
  | close => "close"
  | create => "create"
  | isYieldable => "isyieldable"
  | resume => "resume"
  | running => "running"
  | status => "status"
  | wrap => "wrap"
  | yield => "yield"

/-- The name of a library function, with its library. -/
def Builtin.name : Builtin → String
  | assert => "assert"
  | collectGarbage => "collectgarbage"
  | error => "error"
  | getMetatable => "getmetatable"
  | ipairs => "ipairs"
  | load => "load"
  | next => "next"
  | pairs => "pairs"
  | pcall => "pcall"
  | print => "print"
  | rawEqual => "rawequal"
  | rawGet => "rawget"
  | rawLen => "rawlen"
  | rawSet => "rawset"
  | select => "select"
  | setMetatable => "setmetatable"
  | toNumber => "tonumber"
  | toString => "tostring"
  | type => "type"
  | xpcall => "xpcall"
  | math f => "math." ++ f.name
  | text f => "string." ++ f.name
  | table f => "table." ++ f.name
  | thread f => "coroutine." ++ f.name
  | upvalueId => "debug.upvalueid"
  | rawMetatable => "debug.getmetatable"
  | write => "io.write"
  | unavailable name => name
  | ipairsNext | textArithmetic _ | textNegation | wrapped _ | nextMatch _ => "?"

/-- The text of a failure: the name of a wrong argument's function is the one the caller uses, and a method does not count
the value it is called on. -/
def Failure.text (f : Failure) (builtin : Builtin) (site : Site) : String :=
  match f with
  | message s | bare s => s
  | argument i problem => match site.name with
    | some ("method", name) =>
      if i = 1 then s!"calling '{name}' on bad self ({problem})" else s!"bad argument #{i - 1} to '{name}' ({problem})"
    | some (_, name) => s!"bad argument #{i} to '{name}' ({problem})"
    | none => s!"bad argument #{i} to '{builtin.name}' ({problem})"

/-- Raises the error of a failure. -/
def Machine.fail (m : Machine) (f : Failure) (builtin : Builtin) (site : Site) : Machine :=
  m.fault (match f with
    | .bare _ => none
    | _ => site.place) (f.text builtin site)

end PluginHost.Lua
