import PluginHost.Script.PythonSyntax
import PluginHost.FileTree

/-!
# Values and objects of Python programs

Values that cannot change are what they are; everything that can change, or that is told apart from its equals, is an object in
a heap and is known by its number. The heap, the calls that are under way and what was printed make the state of an interpreter,
and `Run` is a computation over it that may raise an exception.
-/

namespace PluginHost.Python

/-- A function or method that is built in: the type or module it belongs to, and its name. -/
structure Native where
  owner : String
  name : String
deriving DecidableEq, Repr

/-- A value. -/
inductive Value
  | none | ellipsis | notImplemented
  | bool (b : Bool)
  | int (n : Int)
  | float (x : Float)
  | complex (re im : Float)
  | str (s : Text)
  | bytes (b : List UInt8)
  | tuple (items : List Value)
  | range (start stop step : Int)
  | slice (start stop step : Value)
  | native (f : Native)
  /-- A method that is built in, with the value it belongs to. -/
  | nativeOf (self : Value) (f : Native)
  | ref (id : Nat)
deriving Inhabited

/-- The text of a string, as a value. -/
def Value.ofString (s : String) : Value := .str (Text.ofString s)

/-- The number of an object, for values that are objects. -/
def Value.id? : Value → Option Nat
  | .ref i => some i
  | _ => Option.none

/-- The types that every interpreter has. Each is an object, and its number is its place in this list. -/
inductive BaseType
  | object | type | noneType | ellipsis | notImplemented | int | bool | float | complex | str | bytes | bytearray | tuple | list
  | dict | set | frozenset | range | slice | function | native | descriptor | method | module | property | staticMethod
  | classMethod | superType | generator | iterator | map | filter | zip | enumerate | reversed | traceback | ordered | defaulted
  | enumType | enum | intEnum | builtinLoader
deriving DecidableEq, Repr, Inhabited

namespace BaseType

/-- The types in the order of their numbers, each with its name, its module and its base. -/
def table : List (BaseType × String × String × BaseType) := [
  (object, "object", "builtins", object), (type, "type", "builtins", object), (noneType, "NoneType", "builtins", object),
  (ellipsis, "ellipsis", "builtins", object), (notImplemented, "NotImplementedType", "builtins", object),
  (int, "int", "builtins", object), (bool, "bool", "builtins", int), (float, "float", "builtins", object),
  (complex, "complex", "builtins", object), (str, "str", "builtins", object), (bytes, "bytes", "builtins", object),
  (bytearray, "bytearray", "builtins", object), (tuple, "tuple", "builtins", object), (list, "list", "builtins", object),
  (dict, "dict", "builtins", object), (set, "set", "builtins", object), (frozenset, "frozenset", "builtins", object),
  (range, "range", "builtins", object), (slice, "slice", "builtins", object), (function, "function", "builtins", object),
  (native, "builtin_function_or_method", "builtins", object), (descriptor, "method_descriptor", "builtins", object),
  (method, "method", "builtins", object), (module, "module", "builtins", object), (property, "property", "builtins", object),
  (staticMethod, "staticmethod", "builtins", object), (classMethod, "classmethod", "builtins", object),
  (superType, "super", "builtins", object), (generator, "generator", "builtins", object),
  (iterator, "iterator", "builtins", object), (map, "map", "builtins", object), (filter, "filter", "builtins", object),
  (zip, "zip", "builtins", object), (enumerate, "enumerate", "builtins", object), (reversed, "reversed", "builtins", object),
  (traceback, "traceback", "builtins", object), (ordered, "OrderedDict", "collections", dict),
  (defaulted, "defaultdict", "collections", dict), (enumType, "EnumType", "enum", type), (enum, "Enum", "enum", object),
  (intEnum, "IntEnum", "enum", int), (builtinLoader, "BuiltinImporter", "_frozen_importlib", object)]

/-- The number of a type. -/
def id (t : BaseType) : Nat := t.ctorIdx

/-- The name of a type. -/
def name (t : BaseType) : String := ((table[t.id]?).map (·.2.1)).getD ""

end BaseType

/-- The exceptions that every interpreter has, with their bases; bases come first. -/
def exceptionTable : List (String × String) := [
  ("BaseException", "object"), ("SystemExit", "BaseException"), ("KeyboardInterrupt", "BaseException"),
  ("GeneratorExit", "BaseException"), ("Exception", "BaseException"), ("StopIteration", "Exception"),
  ("StopAsyncIteration", "Exception"), ("ArithmeticError", "Exception"), ("FloatingPointError", "ArithmeticError"),
  ("OverflowError", "ArithmeticError"), ("ZeroDivisionError", "ArithmeticError"), ("AssertionError", "Exception"),
  ("AttributeError", "Exception"), ("BufferError", "Exception"), ("EOFError", "Exception"), ("ImportError", "Exception"),
  ("ModuleNotFoundError", "ImportError"), ("LookupError", "Exception"), ("IndexError", "LookupError"),
  ("KeyError", "LookupError"), ("MemoryError", "Exception"), ("NameError", "Exception"), ("UnboundLocalError", "NameError"),
  ("OSError", "Exception"), ("BlockingIOError", "OSError"), ("ChildProcessError", "OSError"), ("ConnectionError", "OSError"),
  ("BrokenPipeError", "ConnectionError"), ("ConnectionAbortedError", "ConnectionError"),
  ("ConnectionRefusedError", "ConnectionError"), ("ConnectionResetError", "ConnectionError"), ("FileExistsError", "OSError"),
  ("FileNotFoundError", "OSError"), ("InterruptedError", "OSError"), ("IsADirectoryError", "OSError"),
  ("NotADirectoryError", "OSError"), ("PermissionError", "OSError"), ("ProcessLookupError", "OSError"),
  ("TimeoutError", "OSError"), ("ReferenceError", "Exception"), ("RuntimeError", "Exception"),
  ("NotImplementedError", "RuntimeError"), ("RecursionError", "RuntimeError"), ("SyntaxError", "Exception"),
  ("IndentationError", "SyntaxError"), ("TabError", "IndentationError"), ("SystemError", "Exception"),
  ("TypeError", "Exception"), ("ValueError", "Exception"), ("UnicodeError", "ValueError"),
  ("UnicodeDecodeError", "UnicodeError"), ("UnicodeEncodeError", "UnicodeError"), ("UnicodeTranslateError", "UnicodeError"),
  ("Warning", "Exception"), ("BytesWarning", "Warning"), ("DeprecationWarning", "Warning"), ("FutureWarning", "Warning"),
  ("ImportWarning", "Warning"), ("PendingDeprecationWarning", "Warning"), ("ResourceWarning", "Warning"),
  ("RuntimeWarning", "Warning"), ("SyntaxWarning", "Warning"), ("UnicodeWarning", "Warning"), ("UserWarning", "Warning")]

/-- The number of an exception type that is built in; they come behind the other types. -/
def exceptionId (name : String) : Nat := BaseType.table.length + exceptionTable.findIdx (·.1 = name)

/-- A place that an exception went through: a function in a file, and what was being evaluated. -/
structure TraceEntry where
  file : String
  function : String
  span : Span
deriving DecidableEq, Repr

/-- The surroundings in which statements run. -/
structure Env where
  /-- The file, as reports name it. -/
  file : String := ""
  /-- The function, as reports name it. -/
  function : String := "<module>"
  /-- What the full names of functions and classes made here start with. -/
  path : String := ""
  /-- The dictionary of global names. -/
  globals : Nat
  /-- The variables of the innermost function. -/
  scope : Option Nat := none
  /-- The variables of the class that is being made. -/
  classBody : Option Nat := none
  /-- Where the values that the function hands out are collected. -/
  yields : Option Nat := none
deriving Inhabited

/-- The variables of a call of a function. -/
structure Scope where
  /-- The names that belong to the function. -/
  names : List String
  /-- The names that it declares to be global. -/
  globals : List String := []
  vars : List (String × Value) := []
  parent : Option Nat := none

/-- A function of a program. -/
structure Function where
  code : FunctionCode
  env : Env
  /-- The defaults of the last parameters. -/
  defaults : List Value
  keywordDefaults : List (String × Value)
  qualname : String

/-- A class. -/
structure ClassInfo where
  name : String
  qualname : String
  module : String
  bases : List Nat
  /-- The class itself and what it inherits from, in the order of lookups. -/
  mro : List Nat
  /-- Whether its attributes can be set. -/
  isOpen : Bool := true

/-- How an exception is kept. -/
structure ExceptionInfo where
  args : List Value
  cause : Value := .none
  /-- The places that it went through, the last one first. -/
  trace : List TraceEntry := []

/-- What gives values one after the other. -/
inductive Iterator
  | items (rest : List Value)
  /-- A list, from a place on. -/
  | list (id next : Nat)
  | range (next stop step : Int)
  /-- The values of a function on the values of other iterators. -/
  | map (f : Value) (inner : List Value)
  | filter (f inner : Value)
  | zip (inner : List Value)
  | enumerate (next : Int) (inner : Value)
  /-- An object that is indexed from zero. -/
  | sequence (object : Value) (next : Nat)
  /-- A comprehension: its item, its loops, and the iterators of the loops that have been entered, innermost first. -/
  | comp (item : Expr) (clauses : List Clause) (entered : List Value) (env : Env)
  /-- The values of a function that hands them out. They are made when the first one is asked for. -/
  | call (f : Function) (env : Env)

/-- What an object holds besides its attributes. -/
inductive Data
  | plain
  /-- The value of an instance of a class that inherits from a type of plain values. -/
  | payload (v : Value)
  | list (items : Array Value)
  | dict (entries : List (Value × Value))
  | set (items : List Value)
  | bytearray (b : List UInt8)
  | function (f : Function)
  | method (self function : Value)
  | cls (c : ClassInfo)
  /-- A module with the dictionary of its names. -/
  | module (names : Nat)
  | exception (e : ExceptionInfo)
  | iterator (it : Iterator)
  | property (get set : Value)
  | staticMethod (f : Value)
  | classMethod (f : Value)
  /-- An object seen as an instance of what comes behind a class. -/
  | super (behind : Nat) (self : Value)
  | traceback (trace : List TraceEntry)
  | scope (s : Scope)

/-- An object: its class, its attributes and what it holds. -/
structure Object where
  cls : Nat
  attrs : List (String × Value) := []
  data : Data := .plain

instance : Inhabited Object := ⟨{ cls := 0 }⟩

/-- The state of an interpreter. -/
structure Interp where
  heap : Array Object
  /-- The module that scripts run in, and the dictionary of its names. -/
  main : Nat
  globals : Nat
  /-- The dictionary of loaded modules, and that of the names that every program has. -/
  modules : Nat
  builtins : Nat
  /-- The functions that are running, innermost first. -/
  frames : List Env := []
  /-- How many calls are under way. -/
  depth : Nat := 0
  /-- The exceptions that are being handled, innermost first. -/
  handled : List Value := []
  /-- What was printed. -/
  output : String := ""
  files : FileTree

/-- Why a computation ended early. -/
inductive Raised
  /-- An exception, and whether the place in the running function is already noted. -/
  | error (e : Value) (isNoted : Bool)
  /-- The fuel ran out. -/
  | exhausted

/-- A computation of an interpreter. -/
abbrev Run := ExceptT Raised (StateM Interp)

/-- How many calls may be under way. -/
def depthLimit : Nat := 1000

namespace Run

/-- An object. -/
def object (id : Nat) : Run Object := return (← get).heap.getD id default

/-- What an object holds. -/
def data (id : Nat) : Run Data := return (← object id).data

/-- Makes an object. -/
def alloc (o : Object) : Run Value := do
  let s ← get
  set { s with heap := s.heap.push o }
  return .ref s.heap.size

/-- Changes an object. -/
def update (id : Nat) (f : Object → Object) : Run Unit :=
  modify fun s => { s with heap := s.heap.modify id f }

/-- Changes what an object holds. -/
def setData (id : Nat) (d : Data) : Run Unit := update id fun o => { o with data := d }

/-- Makes a list. -/
def list (items : List Value) : Run Value := alloc { cls := BaseType.list.id, data := .list items.toArray }

/-- Makes an iterator. -/
def iterator (t : BaseType) (it : Iterator) : Run Value := alloc { cls := t.id, data := .iterator it }

/-- Raises an exception. -/
def throwValue {α : Type} (e : Value) : Run α := throw (.error e false)

/-- Makes an exception that is built in. -/
def exception (name : String) (args : List Value) (attrs : List (String × Value)) : Run Value :=
  alloc { cls := exceptionId name, attrs, data := .exception { args } }

/-- Raises an exception that is built in. -/
def fail {α : Type} (name message : String) : Run α := do
  throwValue (← exception name [.ofString message] [])

/-- Raises the exception for operands of wrong types. -/
def typeError {α : Type} (message : String) : Run α := fail "TypeError" message

/-- Notes the place at which an exception went through the running function, unless it is noted already. -/
def at_ {α : Type} (env : Env) (span : Span) (x : Run α) : Run α := fun s =>
  match x s with
  | (.error (.error e false), s) =>
    let note : Object → Object := fun o => match o.data with
      | .exception i => { o with data := .exception { i with trace := ⟨env.file, env.function, span⟩ :: i.trace } }
      | _ => o
    (.error (.error e true), match e with
      | .ref id => { s with heap := s.heap.modify id note }
      | _ => s)
  | r => r

/-- Runs the body of a function: the call is counted while it runs, and places are noted anew outside. -/
def inFrame {α : Type} (env : Env) (x : Run α) : Run α := fun s =>
  if s.depth ≥ depthLimit then (fail "RecursionError" "maximum recursion depth exceeded" : Run α) s
  else
    let (r, s') := x { s with depth := s.depth + 1, frames := env :: s.frames }
    let s' := { s' with depth := s.depth, frames := s.frames, handled := s.handled }
    match r with
    | .error (.error e _) => (.error (.error e false), s')
    | r => (r, s')

/-- Runs an operation of the interpreter that calls itself; the calls are counted while it runs. -/
def nested {α : Type} (what : String) (x : Run α) : Run α := fun s =>
  if s.depth ≥ depthLimit then (fail "RecursionError" ("maximum recursion depth exceeded" ++ what) : Run α) s
  else
    let (r, s') := x { s with depth := s.depth + 1 }
    (r, { s' with depth := s.depth })

/-- What a computation raises, as a value; nothing is handled beyond exceptions. -/
def attempt {α : Type} (x : Run α) : Run (Except Value α) := fun s =>
  match x s with
  | (.error (.error e _), s) => (.ok (.error e), s)
  | (.error .exhausted, s) => (.error .exhausted, s)
  | (.ok a, s) => (.ok (.ok a), s)

end Run

/-- The class of a value. -/
def Value.typeId : Value → Run Nat
  | .none => return BaseType.noneType.id
  | .ellipsis => return BaseType.ellipsis.id
  | .notImplemented => return BaseType.notImplemented.id
  | .bool _ => return BaseType.bool.id
  | .int _ => return BaseType.int.id
  | .float _ => return BaseType.float.id
  | .complex .. => return BaseType.complex.id
  | .str _ => return BaseType.str.id
  | .bytes _ => return BaseType.bytes.id
  | .tuple _ => return BaseType.tuple.id
  | .range .. => return BaseType.range.id
  | .slice .. => return BaseType.slice.id
  | .native f =>
    return if BaseType.table.any fun t => t.2.1 = f.owner then BaseType.descriptor.id else BaseType.native.id
  | .nativeOf .. => return BaseType.native.id
  | .ref id => return (← Run.object id).cls

/-- What is known of a class. -/
def classInfo (id : Nat) : Run ClassInfo := do
  match ← Run.data id with
  | .cls c => return c
  | _ => return { name := "", qualname := "", module := "", bases := [], mro := [] }

/-- The class that a value is, if it is one. -/
def Value.class? : Value → Run (Option (Nat × ClassInfo))
  | .ref id => do
    match ← Run.data id with
    | .cls c => return some (id, c)
    | _ => return Option.none
  | _ => return Option.none

/-- The name of the class of a value. -/
def Value.typeName (v : Value) : Run String := return (← classInfo (← v.typeId)).name

/-- The attribute that a class has or inherits, without binding it. -/
def classAttr (cls : Nat) (name : String) : Run (Option Value) := do
  findIn (← classInfo cls).mro
where
  /-- The attribute of the first class that has it. -/
  findIn : List Nat → Run (Option Value)
    | [] => return none
    | c :: rest => do
      match (← Run.object c).attrs.find? (·.1 = name) with
      | some (_, v) => return some v
      | none => findIn rest

/-- The attribute that the class of a value has or inherits, if a program defined it. -/
def Value.special? (v : Value) (name : String) : Run (Option Value) := do
  match v with
  | .ref id => do
    match ← classAttr (← Run.object id).cls name with
    | some (.native _) => return Option.none
    | r => return r
  | _ => return Option.none

/-- Whether a class is, or inherits from, another. -/
def isSubclass (cls base : Nat) : Run Bool := return (← classInfo cls).mro.contains base

/-- Whether a value is an instance of a class. -/
def Value.isInstance (v : Value) (base : Nat) : Run Bool := do isSubclass (← v.typeId) base

/-- The plain value behind an instance of a class that inherits from a type of plain values. -/
def Value.plain (v : Value) : Run Value := do
  match v with
  | .ref id => match ← Run.data id with
    | .payload p => return p
    | _ => return v
  | v => return v

/-- The text of code points, with replacements for those that are no characters. -/
def Text.string (t : Text) : String :=
  String.ofList (t.map fun n => if n.isValidChar then Char.ofNat n else '\uFFFD')

/-- The text of code points, if all of them are characters. -/
def Text.string? (t : Text) : Option String :=
  if t.all fun n => decide n.isValidChar then some t.string else none

/-- Whether values are the same object. Values that cannot change are the same if they look the same. -/
def Value.same : Value → Value → Bool
  | .none, .none | .ellipsis, .ellipsis | .notImplemented, .notImplemented => true
  | .bool a, .bool b => a == b
  | .int a, .int b => a == b
  | .float a, .float b => a.toBits == b.toBits
  | .complex a b, .complex c d => a.toBits == c.toBits && b.toBits == d.toBits
  | .str a, .str b => a == b
  | .bytes a, .bytes b => a == b
  | .tuple a, .tuple b => allSame a b
  | .range a b c, .range d e f => a == d && b == e && c == f
  | .slice a b c, .slice d e f => same a d && same b e && same c f
  | .native a, .native b => a == b
  | .nativeOf a f, .nativeOf b g => same a b && f == g
  | .ref a, .ref b => a == b
  | _, _ => false
where
  /-- Whether values are the same one by one. -/
  allSame : List Value → List Value → Bool
    | [], [] => true
    | a :: as, b :: bs => same a b && allSame as bs
    | _, _ => false

end PluginHost.Python
