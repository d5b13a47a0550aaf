import PluginHost.Script.LuaTable
import PluginHost.Text.Utf8

/-!
# The state of a Lua interpreter

The interpreter is a machine that runs in small steps. What is left to do is a list of frames, so that a coroutine is put aside
by keeping its frames, an error unwinds frames until one that catches it, and a deep recursion is nothing but a long list.
This module has the parts of the machine and the operations on values that may have to call metamethods.
-/

namespace PluginHost.Lua

/-- A function made by a chunk, with the variables from around it. -/
structure Closure where
  body : FunctionBody
  captured : List (String × Nat)
  /-- The name of the chunk, as messages give it. -/
  chunk : ByteArray

/-- A line of a chunk. -/
structure Place where
  chunk : ByteArray
  line : Nat

/-- What messages call an operand: its kind and its name, if it has one. -/
abbrev Naming := Option (String × String)

/-- Where a call comes from: a place in a chunk, unless a library function makes it, and what the place calls the function. -/
structure Site where
  place : Option Place := none
  name : Naming := none

/-- The function that is running. -/
structure Activation where
  chunk : ByteArray := .empty
  /-- The variables in scope, innermost first, with their cells. -/
  locals : List (String × Nat) := []
  varargs : List Value := []
  /-- How many calls are around this one. -/
  depth : Nat := 0
  /-- How many calls around this one were made by library functions and metamethods. -/
  nested : Nat := 0
deriving Inhabited

/-- What is assigned to. The operands of a field, the table and the key, are kept among the operands of the assignment. -/
inductive Target
  | variable (name : String)
  | global (name : String) (line : Nat)
  | field (name : Naming) (line : Nat)

/-- What happens once operands have their values. -/
inductive Op
  | call (line : Nat) (name : Naming)
  /-- A call whose results are those of the running function. -/
  | tailCall (line : Nat) (name : Naming)
  /-- Looking up a method. -/
  | method (name : String) (args : List Expr) (line : Nat) (object : Naming) (isTail : Bool)
  | index (line : Nat) (object : Naming)
  | unary (op : UnOp) (line : Nat) (operand : Naming)
  | binary (op : BinOp) (line : Nat) (left right : Naming)
  /-- A table; each field is an item or, if marked, a key and a value. -/
  | table (isEntry : List Bool) (spreads : Bool) (line : Nat)
  | declare (names : List (String × Attribute)) (line : Nat)
  | assign (targets : List Target)
  | «return»
  | numericFor (name : String) (body : List Stmt) (line : Nat)
  | genericFor (names : List String) (body : List Stmt) (line : Nat)

/-- Whether all values of the last operand are used. -/
def Op.spreads : Op → Bool
  | call .. | tailCall .. | declare .. | assign .. | «return» | genericFor .. => true
  | table _ spreads _ => spreads
  | _ => false

/-- Why frames are left. -/
inductive Unwinding
  | raising (v : Value)
  | returning (vs : List Value)
  | breaking
  | going (label : String)

/-- A loop over numbers: where it is, its step, and how much is left. -/
inductive NumericLoop
  | integers (current step : Int64) (left : Nat)
  | numbers (current step limit : Float)

/-- How far the replacing of matches in a text has got. -/
structure Substitution where
  subject : Array Char
  pattern : Array Char
  replacement : Value
  /-- What has been written, last character first. -/
  written : List Char := []
  position : Nat := 0
  /-- The end of the last match. -/
  lastEnd : Option Nat := none
  count : Nat := 0
  /-- How many matches are replaced at most. -/
  limit : Nat

/-- What a library function does when a function that it called returns. -/
inductive Pending
  /-- Goes on writing values after the text of one. -/
  | print (isFirst : Bool) (todo : List Value)
  | toText
  | pairs
  /-- Sorting: the value that is inserted, the sorted values that stay before it, last one first, those not yet compared with
  it, and the values to insert later. -/
  | sort (table : Nat) (order x : Value) (before after todo : List Value)
  /-- Replacing matches in a text; the match between two places is being replaced. -/
  | substitute (work : Substitution) (first last : Nat)
  /-- The next entry of a list, for a place in it. -/
  | ipairs (i : Int64)

/-- What is left to do with the outcome of something smaller. -/
inductive Frame
  /-- Operands that have values, last one first, whether all values of the current one count, and operands to come. -/
  | collect (done : List Value) (all : Bool) (todo : List Expr) (op : Op)
  | chooseAnd (right : Expr)
  | chooseOr (right : Expr)
  /-- The function of a method call. -/
  | method (object : Value) (args : List Expr) (line : Nat) (name : String) (isTail : Bool)
  | assigning (todo : List (Target × List Value))
  | seq (rest : List Stmt)
  | block (body : List Stmt) (saved : List (String × Nat))
  | whileTest (condition : Expr) (body : List Stmt)
  | whileBody (condition : Expr) (body : List Stmt)
  | repeatBody (body : List Stmt) (condition : Expr) (saved : List (String × Nat))
  | repeatTest (body : List Stmt) (condition : Expr) (saved : List (String × Nat))
  | branch (body : List Stmt) (arms : List (Expr × List Stmt)) (otherwise : List Stmt)
  | numericBody (name : String) (body : List Stmt) (loop : NumericLoop) (saved : List (String × Nat))
  | genericCall (names : List String) (body : List Stmt) (line : Nat) (iterator state : Value)
    (saved : List (String × Nat))
  | genericBody (names : List String) (body : List Stmt) (line : Nat) (iterator state control : Value)
    (saved : List (String × Nat))
  /-- A variable that is closed when it goes out of scope. -/
  | close (v : Value)
  /-- What goes on after a variable has been closed; nothing for the next statement. -/
  | closing (after : Option Unwinding)
  /-- The end of a call of a chunk's function. -/
  | ret (site : Site) (saved : Activation)
  /-- A protected call, with what handles its error. -/
  | protect (site : Site) (saved : Activation) (handler : Option Value)
  /-- The handler of an error. -/
  | handler (saved : Activation)
  /-- Turns a value into a truth value, or into its opposite. -/
  | truth (negated : Bool)
  | discard
  | pending (site : Site) (saved : Activation) (p : Pending)

/-- What the machine does next. -/
inductive Control
  | eval (e : Expr)
  | give (vs : List Value)
  | run (body : List Stmt)
  | done
  | unwind (u : Unwinding)
  | call (f : Value) (args : List Value) (site : Site)

/-- What a coroutine is doing. -/
inductive ThreadStatus
  | suspended | running | normal | dead
deriving DecidableEq

/-- A coroutine: before its first resumption it has a function to call, later the frames it was left with. -/
structure Thread where
  status : ThreadStatus := .suspended
  start : Option Value := none
  frames : List Frame := []
  activation : Activation := {}
deriving Inhabited

/-- A coroutine that waits for the one that it resumed. -/
structure Resumer where
  thread : Nat
  frames : List Frame
  activation : Activation
  site : Site
  /-- Whether errors of the other one go on here. -/
  isWrapped : Bool

/-- A search for all matches in a text. -/
structure Search where
  subject : Array Char
  pattern : Array Char
  position : Nat := 0
  /-- The end of the last match. -/
  lastEnd : Option Nat := none
deriving Inhabited

/-- What values refer to. -/
structure Heap where
  tables : Array Table := #[]
  cells : Array Value := #[]
  closures : Array Closure := #[]
  threads : Array Thread := #[]
  searches : Array Search := #[]
  globals : Nat := 0
  /-- The metatables of texts and of streams. -/
  textMetatable : Option Nat := none
  streamMetatable : Option Nat := none
  /-- What has been written to the standard output. -/
  output : ByteArray := .empty
deriving Inhabited

/-- A running machine. -/
structure Machine where
  heap : Heap
  control : Control
  activation : Activation := {}
  frames : List Frame := []
  /-- The running coroutine; the first one is no coroutine but what the host called. -/
  current : Nat := 0
  resumers : List Resumer := []

/-! ## The heap -/

namespace Heap

/-- A table by its number. -/
def table (h : Heap) (id : Nat) : Table := h.tables.getD id default

/-- Changes a table. -/
def modifyTable (h : Heap) (id : Nat) (f : Table → Table) : Heap := { h with tables := h.tables.modify id f }

/-- Adds a table. -/
def addTable (h : Heap) (t : Table) : Nat × Heap := (h.tables.size, { h with tables := h.tables.push t })

/-- Gives up the tables from a number on. -/
def dropTables (h : Heap) (size : Nat) : Heap := { h with tables := h.tables.take size }

/-- The metatable of a value. -/
def metatable? (h : Heap) : Value → Option Nat
  | .table id => (h.table id).metatable
  | .text _ => h.textMetatable
  | .stream _ => h.streamMetatable
  | _ => none

/-- What the metatable of a value has under a name. -/
def metafield (h : Heap) (v : Value) (name : String) : Value :=
  match h.metatable? v with
  | some id => (h.table id).field name
  | none => .nil

/-- The name of the type of a value in messages; a metatable may give it. -/
def typeName (h : Heap) (v : Value) : String :=
  match v with
  | .table _ | .stream _ => match h.metafield v "__name" with
    | .text s => Text.ofBytesLossy s
    | _ => v.typeName
  | _ => v.typeName

end Heap

/-! ## Setting the machine -/

namespace Place

/-- A place in front of a message. -/
def tag (p : Option Place) : ByteArray :=
  match p with
  | some p => p.chunk ++ Bytes.ofString s!":{p.line}: "
  | none => .empty

end Place

/-- A name in a message. -/
def Naming.text : Naming → String
  | some (kind, name) => s!" ({kind} '{name}')"
  | none => ""

namespace Machine

/-- Gives values to the frames. -/
def give (m : Machine) (vs : List Value) : Machine := { m with control := .give vs }

/-- Gives one value. -/
def give1 (m : Machine) (v : Value) : Machine := m.give [v]

/-- Goes on behind a statement. -/
def finish (m : Machine) : Machine := { m with control := .done }

/-- Raises an error. -/
def raise (m : Machine) (v : Value) : Machine := { m with control := .unwind (.raising v) }

/-- Raises an error with a message that names a place. -/
def fault (m : Machine) (place : Option Place) (message : String) : Machine :=
  m.raise (.text (Place.tag place ++ Bytes.ofString message))

/-- A line of the running function. -/
def here (m : Machine) (line : Nat) : Option Place := some { chunk := m.activation.chunk, line }

/-- Puts a frame on top. -/
def push (m : Machine) (f : Frame) : Machine := { m with frames := f :: m.frames }

/-- Evaluates an expression. -/
def eval (m : Machine) (e : Expr) : Machine := { m with control := .eval e }

/-- Runs statements. -/
def run (m : Machine) (body : List Stmt) : Machine := { m with control := .run body }

/-- Calls a function. -/
def call (m : Machine) (f : Value) (args : List Value) (site : Site) : Machine := { m with control := .call f args site }

/-- Calls a metamethod on behalf of a line. -/
def callMeta (m : Machine) (f : Value) (args : List Value) (line : Nat) (event : String) : Machine :=
  m.call f args { place := m.here line, name := some ("metamethod", event) }

/-- Changes the heap. -/
def withHeap (m : Machine) (f : Heap → Heap) : Machine := { m with heap := f m.heap }

/-- Gives variables in scope. -/
def withLocals (m : Machine) (locals : List (String × Nat)) : Machine :=
  { m with activation := { m.activation with locals } }

/-- Declares a variable. -/
def bind (m : Machine) (name : String) (v : Value) : Machine :=
  let id := m.heap.cells.size
  { m with
    heap := { m.heap with cells := m.heap.cells.push v }
    activation := { m.activation with locals := (name, id) :: m.activation.locals } }

/-- Declares variables, the values of which may be too few or too many. -/
def bindAll (m : Machine) : List String → List Value → Machine
  | [], _ => m
  | n :: ns, [] => (m.bind n .nil).bindAll ns []
  | n :: ns, v :: vs => (m.bind n v).bindAll ns vs

/-- The value of a variable. -/
def lookup (m : Machine) (name : String) : Value :=
  match m.activation.locals.lookup name with
  | some id => m.heap.cells.getD id .nil
  | none => .nil

/-- Gives a variable a value. -/
def setVariable (m : Machine) (name : String) (v : Value) : Machine :=
  match m.activation.locals.lookup name with
  | some id => { m with heap := { m.heap with cells := m.heap.cells.setIfInBounds id v } }
  | none => m

/-! ## Fields -/

/-- How many tables a lookup goes through. -/
def maxIndexDepth : Nat := 2000

/-- Looks a key up in a value; `place` is the line to blame, or nothing in a library function. -/
def index (m : Machine) (o k : Value) (place : Option Place) (name : Naming) : Machine := go maxIndexDepth m o name
where
  /-- Looks a key up through metatables. -/
  go : Nat → Machine → Value → Naming → Machine
  | 0, m, _, _ => m.fault place "'__index' chain too long; possibly a loop"
  | fuel + 1, m, o, name => match o with
    | .table id =>
      let t := m.heap.table id
      match Key.ofValue? k with
      | none => onMiss fuel m o (if t.metatable.isSome then m.heap.metafield o "__index" else .nil)
      | some key => match t.get key with
        | .nil => onMiss fuel m o (if t.metatable.isSome then m.heap.metafield o "__index" else .nil)
        | v => if t.isTouched key then (m.withHeap (·.modifyTable id (·.touch key))).give1 v else m.give1 v
    | o => match m.heap.metafield o "__index" with
      | .nil => m.fault place s!"attempt to index a {m.heap.typeName o} value{name.text}"
      | h => onMiss fuel m o h
  /-- Asks what the metatable says about missing keys. -/
  onMiss (fuel : Nat) (m : Machine) (o : Value) : Value → Machine
    | .nil => m.give1 .nil
    | .function id => m.call (.function id) [o, k] { place, name := some ("metamethod", "index") }
    | .builtin b => m.call (.builtin b) [o, k] { place, name := some ("metamethod", "index") }
    | h => go fuel m h none

/-- Gives a key of a value a value. -/
def setIndex (m : Machine) (o k v : Value) (place : Option Place) (name : Naming) : Machine := go maxIndexDepth m o name
where
  /-- Gives a key a value through metatables. -/
  go : Nat → Machine → Value → Naming → Machine
  | 0, m, _, _ => m.fault place "'__newindex' chain too long; possibly a loop"
  | fuel + 1, m, o, name => match o with
    | .table id =>
      let t := m.heap.table id
      let isPresent := match t.getValue k with
        | .nil => false
        | _ => true
      if isPresent || t.metatable.isNone then store m id
      else match m.heap.metafield o "__newindex" with
        | .nil => store m id
        | h => onMiss fuel m o h
    | o => match m.heap.metafield o "__newindex" with
      | .nil => m.fault place s!"attempt to index a {m.heap.typeName o} value{name.text}"
      | h => onMiss fuel m o h
  /-- Stores into a table itself. -/
  store (m : Machine) (id : Nat) : Machine :=
    match Key.ofValue? k with
    | some key => (m.withHeap (·.modifyTable id (·.set key v))).finish
    | none => m.fault place (match k with
      | .nil => "table index is nil"
      | _ => "table index is NaN")
  /-- Asks what the metatable says about new keys. -/
  onMiss (fuel : Nat) (m : Machine) (o : Value) : Value → Machine
    | .function id => (m.push .discard).call (.function id) [o, k, v] { place, name := some ("metamethod", "newindex") }
    | .builtin b => (m.push .discard).call (.builtin b) [o, k, v] { place, name := some ("metamethod", "newindex") }
    | h => go fuel m h none

/-! ## Operators -/

end Machine

/-- The name under which a metatable has an operator. -/
def BinOp.event : BinOp → String
  | add => "add"
  | sub => "sub"
  | mul => "mul"
  | div => "div"
  | mod => "mod"
  | pow => "pow"
  | idiv => "idiv"
  | band => "band"
  | bor => "bor"
  | bxor => "bxor"
  | shl => "shl"
  | shr => "shr"
  | concat => "concat"
  | eq | ne => "eq"
  | lt | gt => "lt"
  | le | ge => "le"

/-- Whether an operator works on the bits of integers. -/
def BinOp.isBitwise : BinOp → Bool
  | band | bor | bxor | shl | shr => true
  | _ => false

/-- An arithmetic operator on numbers: a value or a message. -/
def arithmetic (op : BinOp) (a b : Number) : Except String Value :=
  match op, a, b with
  | .add, .integer x, .integer y => .ok (.integer (x + y))
  | .sub, .integer x, .integer y => .ok (.integer (x - y))
  | .mul, .integer x, .integer y => .ok (.integer (x * y))
  | .idiv, .integer x, .integer y =>
    if y = 0 then .error "attempt to divide by zero" else .ok (.integer (floorDiv x y))
  | .mod, .integer x, .integer y =>
    if y = 0 then .error "attempt to perform 'n%0'" else .ok (.integer (floorMod x y))
  | op, a, b =>
    let x := a.toFloat
    let y := b.toFloat
    match op with
    | .add => .ok (.number (x + y))
    | .sub => .ok (.number (x - y))
    | .mul => .ok (.number (x * y))
    | .div => .ok (.number (x / y))
    | .pow => .ok (.number (if y == 2 then x * x else x ^ y))
    | .idiv => .ok (.number (x / y).floor)
    | .mod => .ok (.number (floatMod x y))
    | _ => .error "no arithmetic"

/-- An operator on bits. -/
def bitwise (op : BinOp) (a b : Int64) : Int64 :=
  match op with
  | .band => a &&& b
  | .bor => a ||| b
  | .bxor => a ^^^ b
  | .shl => shiftLeft a b
  | .shr => if b = Int64.minValue then 0 else shiftLeft a (-b)
  | _ => 0

namespace Machine

/-- Calls the metamethod of a binary operator, of the left operand or else of the right one. -/
def binaryMeta? (m : Machine) (event : String) (a b : Value) (line : Nat) : Option Machine :=
  match m.heap.metafield a ("__" ++ event) with
  | .nil => match m.heap.metafield b ("__" ++ event) with
    | .nil => none
    | f => some (m.callMeta f [a, b] line event)
  | f => some (m.callMeta f [a, b] line event)

/-- Arithmetic on any values. -/
def arith (m : Machine) (op : BinOp) (a b : Value) (line : Nat) (left right : Naming) : Machine :=
  match a.number?, b.number? with
  | some x, some y => match arithmetic op x y with
    | .ok v => m.give1 v
    | .error e => m.fault (m.here line) e
  | x, _ => match m.binaryMeta? op.event a b line with
    | some m => m
    | none =>
      let (culprit, name) := if x.isNone then (a, left) else (b, right)
      m.fault (m.here line) s!"attempt to perform arithmetic on a {m.heap.typeName culprit} value{name.text}"

/-- Operators on bits of any values. -/
def bits (m : Machine) (op : BinOp) (a b : Value) (line : Nat) (left right : Naming) : Machine :=
  match a.asInteger?, b.asInteger? with
  | some x, some y => m.give1 (.integer (bitwise op x y))
  | x, _ => match m.binaryMeta? op.event a b line with
    | some m => m
    | none => match a.number?, b.number? with
      | some _, some _ =>
        m.fault (m.here line) s!"number{(if x.isNone then left else right).text} has no integer representation"
      | x, _ =>
        let (culprit, name) := if x.isNone then (a, left) else (b, right)
        m.fault (m.here line)
          s!"attempt to perform bitwise operation on a {m.heap.typeName culprit} value{name.text}"

/-- Joining texts and numbers. -/
def concat (m : Machine) (a b : Value) (line : Nat) (left right : Naming) : Machine :=
  match a.toText?, b.toText? with
  | some x, some y => m.give1 (.text (x ++ y))
  | x, _ => match m.binaryMeta? "concat" a b line with
    | some m => m
    | none =>
      let (culprit, name) := if x.isNone then (a, left) else (b, right)
      m.fault (m.here line) s!"attempt to concatenate a {m.heap.typeName culprit} value{name.text}"

/-- The message about two values that do not compare. -/
def compareMessage (m : Machine) (a b : Value) : String :=
  let x := m.heap.typeName a
  let y := m.heap.typeName b
  if x = y then s!"attempt to compare two {x} values" else s!"attempt to compare {x} with {y}"

/-- Whether one value comes before another, if numbers or texts say so. -/
def order? (a b : Value) : Option (Option Ordering) :=
  match a, b with
  | .text x, .text y => some (some (Bytes.compare x y))
  | a, b => match a.number?, b.number? with
    | some x, some y => some (x.compare? y)
    | _, _ => none

/-- Compares values for being less, or less or equal. -/
def less (m : Machine) (a b : Value) (orEqual : Bool) (place : Option Place) : Machine :=
  match order? a b with
  | some o => m.give1 (.boolean (match o with
    | some .lt => true
    | some .eq => orEqual
    | _ => false))
  | none =>
    let event := if orEqual then "le" else "lt"
    let site : Site := { place, name := some ("metamethod", event) }
    match m.heap.metafield a ("__" ++ event) with
    | .nil => match m.heap.metafield b ("__" ++ event) with
      | .nil => m.fault place (m.compareMessage a b)
      | f => (m.push (.truth false)).call f [a, b] site
    | f => (m.push (.truth false)).call f [a, b] site

/-- Compares values for equality, with the metamethods of tables. -/
def equals (m : Machine) (a b : Value) (negated : Bool) (line : Nat) : Machine :=
  if a.rawEquals b then m.give1 (.boolean !negated)
  else match a, b with
    | .table _, .table _ => match m.binaryMeta? "eq" a b line with
      | some _ =>
        let f := match m.heap.metafield a "__eq" with
          | .nil => m.heap.metafield b "__eq"
          | f => f
        (m.push (.truth negated)).callMeta f [a, b] line "eq"
      | none => m.give1 (.boolean negated)
    | _, _ => m.give1 (.boolean negated)

/-- Applies a binary operator. -/
def binary (m : Machine) (op : BinOp) (a b : Value) (line : Nat) (left right : Naming) : Machine :=
  match op with
  | .eq => m.equals a b false line
  | .ne => m.equals a b true line
  | .lt => m.less a b false (m.here line)
  | .le => m.less a b true (m.here line)
  | .gt => m.less b a false (m.here line)
  | .ge => m.less b a true (m.here line)
  | .concat => m.concat a b line left right
  | op => if op.isBitwise then m.bits op a b line left right else m.arith op a b line left right

/-- The length of a value. -/
def length (m : Machine) (v : Value) (place : Option Place) (name : Naming) : Machine :=
  let site : Site := { place, name := some ("metamethod", "len") }
  match v with
  | .text s => m.give1 (.integer (Int64.ofNat s.size))
  | .table id => match m.heap.metafield v "__len" with
    | .nil =>
      let (n, t) := (m.heap.table id).length
      (m.withHeap (·.modifyTable id fun _ => t)).give1 (.integer (Int64.ofNat n))
    | f => m.call f [v] site
  | v => match m.heap.metafield v "__len" with
    | .nil => m.fault place s!"attempt to get length of a {m.heap.typeName v} value{name.text}"
    | f => m.call f [v] site

/-- Applies a unary operator. -/
def unary (m : Machine) (op : UnOp) (v : Value) (line : Nat) (name : Naming) : Machine :=
  match op with
  | .not => m.give1 (.boolean !v.isTrue)
  | .len => m.length v (m.here line) name
  | .neg => match v.number? with
    | some n => m.give1 (Value.ofNumber n.neg)
    | none => match m.heap.metafield v "__unm" with
      | .nil => m.fault (m.here line) s!"attempt to perform arithmetic on a {m.heap.typeName v} value{name.text}"
      | f => m.callMeta f [v, v] line "unm"
  | .bnot => match v.asInteger? with
    | some n => m.give1 (.integer (~~~n))
    | none => match m.heap.metafield v "__bnot" with
      | .nil =>
        if v.number?.isSome then m.fault (m.here line) s!"number{name.text} has no integer representation"
        else m.fault (m.here line)
          s!"attempt to perform bitwise operation on a {m.heap.typeName v} value{name.text}"
      | f => m.callMeta f [v, v] line "bnot"

end Machine

end PluginHost.Lua
