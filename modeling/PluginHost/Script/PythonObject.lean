import PluginHost.Script.PythonValue
import PluginHost.Script.PythonNumber

/-!
# Objects of Python programs at work

Looking attributes up and setting them, what counts as true, how values are shown, when they are equal and how they are ordered,
dictionaries, and iteration. Methods that a program defines take part in all of this, so the operations take an `Engine`, which
knows how to call a value.
-/

namespace PluginHost.Python

open Run

/-- What operations on values need of the part that runs functions. -/
structure Engine where
  call : Value → List Value → List (String × Value) → Run Value
  /-- The next value of a comprehension or a function that hands values out. -/
  resume : Nat → Run (Option Value)

/-- How deep operations may call themselves without a call of a function. -/
def recursionFuel : Nat := depthLimit + 100

/-- How often loops inside of operations may repeat. -/
def loopFuel : Nat := 1000000000

/-! ## Dictionaries -/

/-- Keys of a type that inherits from a type of plain values count as those. -/
def keyOf (heap : Array Object) : Value → Value
  | .ref id => match (heap.getD id default).data with
    | .payload p => p
    | _ => .ref id
  | .tuple items => .tuple (keysOf items)
  | v => v
where
  /-- The keys that items of a tuple count as. -/
  keysOf : List Value → List Value
    | [] => []
    | v :: vs => keyOf heap v :: keysOf vs

/-- The integer that a number is as a key; truth values are numbers. -/
def Value.integral? : Value → Option Int
  | .int n => Option.some n
  | .bool b => Option.some (if b then 1 else 0)
  | .float x => Decimal.toInt? x
  | _ => Option.none

/-- Whether keys are the same. Numbers are the same if they are equal, whatever their types. -/
def Value.sameKey : Value → Value → Bool
  | .tuple a, .tuple b => allSame a b
  | a, b => match a.integral?, b.integral? with
    | Option.some m, Option.some n => m == n
    | Option.none, Option.none => a.same b
    | _, _ => false
where
  /-- Whether keys are the same one by one. -/
  allSame : List Value → List Value → Bool
    | [], [] => true
    | a :: as, b :: bs => sameKey a b && allSame as bs
    | _, _ => false

namespace Dict

/-- The value of a key. -/
def find? (heap : Array Object) (entries : List (Value × Value)) (key : Value) : Option Value :=
  let k := keyOf heap key
  (entries.find? fun e => (keyOf heap e.1).sameKey k).map (·.2)

/-- Gives a key a value. A key that is there keeps its place; a new one goes to the end. -/
def insert (heap : Array Object) (entries : List (Value × Value)) (key v : Value) : List (Value × Value) :=
  put (keyOf heap key) entries
where
  /-- Changes the entry of the key, or adds one. -/
  put (k : Value) : List (Value × Value) → List (Value × Value)
    | [] => [(key, v)]
    | e :: rest => if (keyOf heap e.1).sameKey k then (e.1, v) :: rest else e :: put k rest

/-- Removes a key. -/
def erase (heap : Array Object) (entries : List (Value × Value)) (key : Value) : List (Value × Value) :=
  let k := keyOf heap key
  entries.filter fun e => !(keyOf heap e.1).sameKey k

end Dict

/-- The entries of a dictionary object. -/
def entriesOf (id : Nat) : Run (List (Value × Value)) := do
  match ← data id with
  | .dict entries => return entries
  | _ => return []

/-- The value of a name in a dictionary of names. -/
def lookName (names : Nat) (name : String) : Run (Option Value) := do
  return Dict.find? (← get).heap (← entriesOf names) (.ofString name)

/-- Gives a name a value in a dictionary of names. -/
def setName (names : Nat) (name : String) (v : Value) : Run Unit := do
  setData names (.dict (Dict.insert (← get).heap (← entriesOf names) (.ofString name) v))

/-! ## Attributes -/

/-- The attribute of an object itself. -/
def ownAttr (id : Nat) (name : String) : Run (Option Value) := do
  return ((← object id).attrs.find? (·.1 = name)).map (·.2)

/-- Attributes with one more, or with a new value for one. -/
def putAttr (attrs : List (String × Value)) (name : String) (v : Value) : List (String × Value) :=
  if attrs.any (·.1 = name) then attrs.map fun a => if a.1 = name then (name, v) else a else attrs ++ [(name, v)]

/-- Makes a dictionary of texts. -/
def dictOf (attrs : List (String × Value)) : Run Value :=
  alloc { cls := BaseType.dict.id, data := .dict (attrs.map fun (n, v) => (.ofString n, v)) }

/-- What a class has as an attribute, as an attribute of an instance of the class. -/
def bindTo (eng : Engine) (self : Value) (cls : Nat) (v : Value) : Run Value := do
  match v with
  | .native f =>
    if f.name = "__new__" then return v
    else if f.name = "fromkeys" then return .nativeOf (.ref cls) f
    else return .nativeOf self f
  | .ref id => match ← data id with
    | .function _ => alloc { cls := BaseType.method.id, data := .method self v }
    | .property getter _ => match getter with
      | .none => fail "AttributeError" ("property of '" ++ (← self.typeName) ++ "' object has no getter")
      | getter => eng.call getter [self] []
    | .staticMethod f => return f
    | .classMethod f => alloc { cls := BaseType.method.id, data := .method (.ref cls) f }
    | _ => return v
  | v => return v

/-- Whether instances of a class have attributes of their own: those of classes that programs define. -/
def hasAttrs (cls : Nat) : Run Bool := do
  (← classInfo cls).mro.anyM fun c => return (← classInfo c).isOpen

/-- The attributes that every value of a kind has, apart from those that its class lists. -/
def computedAttr (v : Value) (name : String) : Run (Option Value) := do
  match name with
  | "__class__" => return some (.ref (← v.typeId))
  | "__doc__" => return some .none
  | _ => match v with
    | .int _ => return if name = "real" ∨ name = "numerator" then some v else if name = "imag" then some (.int 0)
        else if name = "denominator" then some (.int 1) else none
    | .bool b => return if name = "real" ∨ name = "numerator" then some (.int (if b then 1 else 0))
        else if name = "imag" then some (.int 0) else if name = "denominator" then some (.int 1) else none
    | .float x => return if name = "real" then some (.float x) else if name = "imag" then some (.float 0.0) else none
    | .complex re im => return if name = "real" then some (.float re) else if name = "imag" then some (.float im) else none
    | .range a b c => return if name = "start" then some (.int a) else if name = "stop" then some (.int b)
        else if name = "step" then some (.int c) else none
    | .slice a b c => return if name = "start" then some a else if name = "stop" then some b
        else if name = "step" then some c else none
    | .native f => return if name = "__name__" ∨ name = "__qualname__" then some (.ofString f.name) else none
    | .nativeOf self f => return if name = "__name__" then some (.ofString f.name)
        else if name = "__self__" then some self else none
    | .ref id => do
      let o ← object id
      match o.data with
      | .function f => match name with
        | "__name__" => return some (.ofString f.code.name)
        | "__qualname__" => return some (.ofString f.qualname)
        | "__module__" => lookName f.env.globals "__name__"
        | "__defaults__" => return some (if f.defaults.isEmpty then .none else .tuple f.defaults)
        | "__kwdefaults__" => if f.keywordDefaults.isEmpty then return some .none else return some (← dictOf f.keywordDefaults)
        | "__annotations__" => return some (← dictOf [])
        | "__closure__" => return some .none
        | "__globals__" => return some (.ref f.env.globals)
        | "__dict__" => return some (← dictOf o.attrs)
        | _ => return none
      | .method self f => match name with
        | "__self__" => return some self
        | "__func__" => return some f
        | "__name__" | "__qualname__" => match f with
          | .ref fid => match ← data fid with
            | .function f => return some (.ofString (if name = "__name__" then f.code.name else f.qualname))
            | _ => return none
          | _ => return none
        | _ => return none
      | .exception e => match name with
        | "args" => return some (.tuple e.args)
        | "__cause__" => return some e.cause
        | "__context__" => return some .none
        | "__traceback__" =>
          if e.trace = [] then return some .none
          else return some (← alloc { cls := BaseType.traceback.id, data := .traceback e.trace })
        | "__dict__" => return some (← dictOf o.attrs)
        | _ => return none
      | .property getter setter => return if name = "fget" then some getter else if name = "fset" then some setter else none
      | .staticMethod f | .classMethod f => return if name = "__func__" ∨ name = "__wrapped__" then some f else none
      | _ =>
        if name = "__dict__" ∧ (← hasAttrs o.cls) then return some (← dictOf o.attrs)
        else if name = "__module__" then return some (.ofString (← classInfo o.cls).module)
        else return none
    | _ => return none

/-- The attributes that every class has. -/
def computedClassAttr (id : Nat) (c : ClassInfo) (name : String) : Run (Option Value) := do
  match name with
  | "__name__" => return some (.ofString c.name)
  | "__qualname__" => return some (.ofString c.qualname)
  | "__module__" => return some (.ofString c.module)
  | "__bases__" => return some (.tuple (c.bases.map .ref))
  | "__base__" => return some ((c.bases.head?.map .ref).getD .none)
  | "__mro__" => return some (.tuple (c.mro.map .ref))
  | "__class__" => return some (.ref (← object id).cls)
  | "__dict__" => return some (← dictOf (← object id).attrs)
  | _ => return none

/-- The attribute of the first of some classes that has it, with the class. -/
def attrAmong (classes : List Nat) (name : String) : Run (Option Value) := do
  match classes with
  | [] => return none
  | c :: rest => match ← ownAttr c name with
    | some v => return some v
    | none => attrAmong rest name

/-- The attribute of a class, as the class gives it. -/
def attrOfClass (eng : Engine) (id : Nat) (c : ClassInfo) (name : String) : Run (Option Value) := do
  match ← computedClassAttr id c name with
  | some v => return some v
  | none => match ← attrAmong c.mro name with
    | some (.native f) =>
      return some (if f.name = "fromkeys" then .nativeOf (.ref id) f else .native f)
    | some (.ref a) => match ← data a with
      | .staticMethod f => return some f
      | .classMethod f => return some (← alloc { cls := BaseType.method.id, data := .method (.ref id) f })
      | .property .. =>
        -- what members of an enumeration have, their class has not
        if (name = "name" ∨ name = "value") ∧ (← isSubclass (← object id).cls BaseType.enumType.id) then return none
        else return some (.ref a)
      | _ => return some (.ref a)
    | some v => return some v
    | none => match ← classAttr (← object id).cls name with
      | some v => return some (← bindTo eng (.ref id) (← object id).cls v)
      | none => if name = "__doc__" then return some .none else return none

/-- The attribute of a value, if there is one; what a program does for missing attributes is left out. -/
def plainAttr (eng : Engine) (v : Value) (name : String) : Run (Option Value) := do
  let viaClass (own : Option Value) : Run (Option Value) := do
    let cls ← v.typeId
    let shared ← classAttr cls name
    let isProperty ← match shared with
      | some (.ref id) => match ← data id with
        | .property .. => pure true
        | _ => pure false
      | _ => pure false
    match isProperty, own, shared with
    | false, some a, _ => if name = "__class__" ∨ name = "__dict__" then computedAttr v name else return some a
    | _, _, some a => return some (← bindTo eng v cls a)
    | _, _, none => computedAttr v name
  match v with
  | .ref id => match ← data id with
    | .cls c => attrOfClass eng id c name
    | .super behind self => do
      let cls ← match ← self.class? with
        | some (i, c) => if c.mro.contains behind then pure i else self.typeId
        | none => self.typeId
      let later := ((← classInfo cls).mro.dropWhile (· ≠ behind)).drop 1
      match name, ← attrAmong later name with
      | "__class__", _ => computedAttr v name
      | _, some a => return some (← bindTo eng self cls a)
      | _, none => return none
    | .module names =>
      if name = "__dict__" then return some (.ref names) else viaClass (← lookName names name)
    | _ => viaClass (← ownAttr id name)
  | _ => viaClass none

/-- What a missing attribute is called in the exception for it. -/
def missingAttr (v : Value) (name : String) : Run String := do
  let quoted := "'" ++ name ++ "'"
  match v with
  | .ref id => match ← data id with
    | .cls c => return "type object '" ++ c.name ++ "' has no attribute " ++ quoted
    | .module names => match ← lookName names "__name__" with
      | some (.str s) => return "module '" ++ s.string ++ "' has no attribute " ++ quoted
      | _ => return "module has no attribute " ++ quoted
    | _ => return "'" ++ (← v.typeName) ++ "' object has no attribute " ++ quoted
  | _ => return "'" ++ (← v.typeName) ++ "' object has no attribute " ++ quoted

/-- Whether an exception is of a type that is built in, or of one that inherits from it. -/
def isRaised (e : Value) (name : String) : Run Bool := e.isInstance (exceptionId name)

/-- The attribute of a value, if there is one. Modules and classes may define what stands in for missing attributes. -/
def getAttr? (eng : Engine) (v : Value) (name : String) : Run (Option Value) := do
  let standIn ← match ← v.special? "__getattr__" with
    | some f => pure (some (f, [v, .ofString name]))
    | none => match v with
      | .ref id => match ← data id with
        | .module names => match ← lookName names "__getattr__" with
          | some f => pure (some (f, [.ofString name]))
          | none => pure none
        | _ => pure none
      | _ => pure none
  match standIn with
  | none => plainAttr eng v name
  | some (f, args) => match ← attempt (plainAttr eng v name) with
    | .ok (some a) => return some a
    | .ok none => return some (← eng.call f args [])
    | .error e => if ← isRaised e "AttributeError" then return some (← eng.call f args []) else throwValue e

/-- The attribute of a value. -/
def getAttr (eng : Engine) (v : Value) (name : String) : Run Value := do
  match ← getAttr? eng v name with
  | some a => return a
  | none =>
    throwValue (← exception "AttributeError" [.ofString (← missingAttr v name)] [("name", .ofString name), ("obj", v)])

/-- Raises the exception for an attribute that cannot be set. -/
def refuseAttr {α : Type} (v : Value) (name : String) : Run α := do
  let isNative : Bool := match v with
    | .native _ | .nativeOf .. => true
    | _ => false
  if isNative ∧ ["__doc__", "__name__", "__qualname__", "__text_signature__"].contains name then
    fail "AttributeError" ("attribute '" ++ name ++ "' of '" ++ (← v.typeName) ++ "' objects is not writable")
  else if name = "__doc__" ∨ (← classAttr (← v.typeId) name).isSome then
    fail "AttributeError" ("'" ++ (← v.typeName) ++ "' object attribute '" ++ name ++ "' is read-only")
  else fail "AttributeError" (← missingAttr v name)

/-- Gives an object other attributes, as its `__dict__`. -/
def setAttrs (id : Nat) (new : Value) : Run Unit := do
  let isDict ← new.isInstance BaseType.dict.id
  match isDict, new with
  | true, .ref d =>
    let attrs := (← entriesOf d).filterMap fun (k, v) => match k with
      | .str s => some (s.string, v)
      | _ => none
    update id fun o => { o with attrs }
  | _, _ => typeError ("__dict__ must be set to a dictionary, not a '" ++ (← new.typeName) ++ "'")

/-- The type of plain values, or of objects with contents, that a class builds on. -/
def layoutOf (cls : Nat) : Run Nat := do
  go (← classInfo cls).mro
where
  /-- The first class that is built in. -/
  go : List Nat → Run Nat
    | [] => return BaseType.object.id
    | c :: rest => do if (← classInfo c).isOpen then go rest else return c

/-- Gives an object another class, which has to be built on the same type. -/
def setClass (id : Nat) (cls : Value) : Run Unit := do
  match ← cls.class? with
  | none => typeError ("__class__ must be set to a class, not '" ++ (← cls.typeName) ++ "' object")
  | some (new, _) =>
    let old := (← object id).cls
    let isModule (c : Nat) : Run Bool := isSubclass c BaseType.module.id
    if ((← isModule old) && (← isModule new)) || ((← classInfo old).isOpen && (← classInfo new).isOpen) then
      if (← layoutOf old) = (← layoutOf new) then update id fun o => { o with cls := new }
      else typeError ("__class__ assignment: '" ++ (← classInfo new).name ++ "' object layout differs from '"
        ++ (← classInfo old).name ++ "'")
    else typeError "__class__ assignment only supported for mutable types or ModuleType subclasses"

/-- Sets an attribute as objects do that do not define how. -/
def plainSetAttr (eng : Engine) (v : Value) (name : String) (new : Value) : Run Unit := do
  match v with
  | .ref id => do
    let o ← object id
    let setter ← match ← classAttr o.cls name with
      | some (.ref p) => match ← data p with
        | .property _ setter => pure (some setter)
        | _ => pure none
      | _ => pure none
    match setter with
    | some .none => fail "AttributeError" ("property '" ++ name ++ "' of '" ++ (← v.typeName) ++ "' object has no setter")
    | some f => let _ ← eng.call f [v, new] []
    | none => match o.data with
      | .cls c =>
        let members ← match o.attrs.find? (·.1 = "_member_map_") with
          | some (_, .ref m) => entriesOf m
          | _ => pure []
        if members.any fun (k, _) => k.same (.ofString name) then fail "AttributeError" ("cannot reassign member '" ++ name ++ "'")
        else if c.isOpen then match name, new with
          | "__class__", _ => setClass id new
          | "__dict__", _ => fail "AttributeError" "attribute '__dict__' of 'type' objects is not writable"
          | "__mro__", _ => fail "AttributeError" "readonly attribute"
          | "__name__", .str s => setData id (.cls { c with name := s.string })
          | "__qualname__", .str s => setData id (.cls { c with qualname := s.string })
          | "__module__", .str s => setData id (.cls { c with module := s.string })
          | "__name__", _ => typeError ("can only assign string to " ++ c.name ++ ".__name__, not '"
              ++ (← new.typeName) ++ "'")
          | _, _ => update id fun o => { o with attrs := putAttr o.attrs name new }
        else typeError ("cannot set '" ++ name ++ "' attribute of immutable type '" ++ c.name ++ "'")
      | .module names =>
        if name = "__dict__" then fail "AttributeError" "readonly attribute"
        else if name = "__class__" then setClass id new
        else setName names name new
      | .function _ => match name, new with
        | "__name__", .str s | "__qualname__", .str s =>
          update id fun o => { o with attrs := putAttr o.attrs name (.str s) }
        | "__name__", _ | "__qualname__", _ => typeError (name ++ " must be set to a string object")
        | "__globals__", _ | "__closure__", _ => fail "AttributeError" "readonly attribute"
        | "__class__", _ => setClass id new
        | "__dict__", _ => setAttrs id new
        | _, _ => update id fun o => { o with attrs := putAttr o.attrs name new }
      | .exception e => match name with
        | "args" => match new with
          | .tuple items => setData id (.exception { e with args := items })
          | _ => setData id (.exception { e with args := [new] })
        | "__cause__" => setData id (.exception { e with cause := new })
        | "__class__" => setClass id new
        | "__dict__" => setAttrs id new
        | _ => update id fun o => { o with attrs := putAttr o.attrs name new }
      | _ =>
        if name = "__class__" then setClass id new
        else if ← hasAttrs o.cls then
          if name = "__dict__" then setAttrs id new else update id fun o => { o with attrs := putAttr o.attrs name new }
        else refuseAttr v name
  | _ =>
    if name = "__class__" then match ← new.class? with
      | none => typeError ("__class__ must be set to a class, not '" ++ (← new.typeName) ++ "' object")
      | some _ => typeError "__class__ assignment only supported for mutable types or ModuleType subclasses"
    else refuseAttr v name

/-- Sets an attribute. -/
def setAttr (eng : Engine) (v : Value) (name : String) (new : Value) : Run Unit := do
  match ← v.special? "__setattr__" with
  | some f => let _ ← eng.call f [v, .ofString name, new] []
  | none => plainSetAttr eng v name new

/-- Removes an attribute as objects do that do not define how. -/
def plainDelAttr (v : Value) (name : String) : Run Unit := do
  match v with
  | .ref id => do
    let o ← object id
    match o.data with
    | .module names =>
      if (← lookName names name).isSome then
        setData names (.dict (Dict.erase (← get).heap (← entriesOf names) (.ofString name)))
      else fail "AttributeError" (← missingAttr v name)
    | .cls c =>
      if !c.isOpen then typeError ("cannot set '" ++ name ++ "' attribute of immutable type '" ++ c.name ++ "'")
      else if o.attrs.any (·.1 = name) then update id fun o => { o with attrs := o.attrs.filter (·.1 ≠ name) }
      else fail "AttributeError" (← missingAttr v name)
    | _ =>
      if o.attrs.any (·.1 = name) then update id fun o => { o with attrs := o.attrs.filter (·.1 ≠ name) }
      else if ← hasAttrs o.cls then fail "AttributeError" (← missingAttr v name)
      else refuseAttr v name
  | _ => refuseAttr v name

/-- Removes an attribute. -/
def delAttr (eng : Engine) (v : Value) (name : String) : Run Unit := do
  match ← v.special? "__delattr__" with
  | some f => let _ ← eng.call f [v, .ofString name] []
  | none => plainDelAttr v name

/-- Whether a value can be called. -/
def isCallable (v : Value) : Run Bool := do
  match v with
  | .native _ | .nativeOf .. => return true
  | .ref id => do
    let o ← object id
    match o.data with
    | .function _ | .method .. | .cls _ => return true
    | .staticMethod _ => return true
    | _ => return (← classAttr o.cls "__call__").isSome
  | _ => return false

/-! ## Size and truth -/

/-- How many items a value has, if it has items. -/
def length? (eng : Engine) (v : Value) : Run (Option Nat) := do
  match ← v.special? "__len__" with
  | some f => match ← eng.call f [v] [] with
    | .int n => if n < 0 then fail "ValueError" "__len__() should return >= 0" else return some n.toNat
    | .bool b => return some (if b then 1 else 0)
    | r => typeError ("'" ++ (← r.typeName) ++ "' object cannot be interpreted as an integer")
  | none => match ← v.plain with
    | .str s => return some s.length
    | .bytes b => return some b.length
    | .tuple items => return some items.length
    | .range a b c => return some (rangeLength a b c)
    | .ref id => match ← data id with
      | .list items => return some items.size
      | .dict entries => return some entries.length
      | .set items => return some items.length
      | .bytearray b => return some b.length
      | _ => return none
    | _ => return none

/-- Whether a value counts as true. -/
def truth (eng : Engine) (v : Value) : Run Bool := do
  match ← v.special? "__bool__" with
  | some f => match ← eng.call f [v] [] with
    | .bool b => return b
    | r => typeError ("__bool__ should return bool, returned " ++ (← r.typeName))
  | none => match ← v.plain with
    | .none => return false
    | .bool b => return b
    | .int n => return n ≠ 0
    | .float x => return x != 0.0
    | .complex re im => return re != 0.0 || im != 0.0
    | _ => match ← length? eng v with
      | some n => return n ≠ 0
      | none => return true

/-! ## How values are shown -/

/-- Where an object is said to be. -/
def address (id : Nat) : String := "0x7f" ++ hexPadded 10 (0x1000000000 + 16 * id)

/-- The text that an object has as an attribute; empty if it has none. -/
def textAttr (o : Object) (name : String) : Text :=
  match o.attrs.find? (·.1 = name) with
  | some (_, .str s) => s
  | _ => []

/-- The full name of a class: with its module, unless it is built in. -/
def ClassInfo.path (c : ClassInfo) : String :=
  if c.module = "builtins" then c.qualname else c.module ++ "." ++ c.qualname

/-- How a class is shown. -/
def showClass (id : Nat) (c : ClassInfo) : Run String := do
  if ← isSubclass (← object id).cls BaseType.enumType.id then return "<enum '" ++ c.name ++ "'>"
  else return "<class '" ++ c.path ++ "'>"

mutual

/-- The text that shows a value. The fuel bounds how deep values are inside of each other; what is being shown
already is shown by dots. -/
def showWith (eng : Engine) : Nat → List Nat → Value → Run Text
  | 0, _, _ => fail "RecursionError" "maximum recursion depth exceeded while getting the repr of an object"
  | fuel + 1, seen, v => do
    match ← v.special? "__repr__" with
    | some f => match ← (← eng.call f [v] []).plain with
      | .str s => return s
      | r => typeError ("__repr__ returned non-string (type " ++ (← r.typeName) ++ ")")
    | none => match v with
      | .none => return Text.ofString "None"
      | .ellipsis => return Text.ofString "Ellipsis"
      | .notImplemented => return Text.ofString "NotImplemented"
      | .bool b => return Text.ofString (if b then "True" else "False")
      | .int n => return Text.ofString (toString n)
      | .float x => return Text.ofString (showFloat x)
      | .complex re im => return Text.ofString (showComplex re im)
      | .str s => return s.quoted
      | .bytes b => return Text.ofString (showBytes b)
      | .tuple [v] => nested " while getting the repr of an object" do
        return 40 :: (← showWith eng fuel seen v) ++ Text.ofString ",)"
      | .tuple items => nested " while getting the repr of an object" do
        return 40 :: Text.join (Text.ofString ", ") (← showAll eng fuel seen items) ++ [41]
      | .range a b c =>
        let step := if c = 1 then "" else ", " ++ toString c
        return Text.ofString ("range(" ++ toString a ++ ", " ++ toString b ++ step ++ ")")
      | .slice a b c =>
        let parts ← showAll eng fuel seen [a, b, c]
        return Text.ofString "slice(" ++ Text.join (Text.ofString ", ") parts ++ [41]
      | .native f =>
        if BaseType.table.any fun t => t.2.1 = f.owner then
          return Text.ofString ("<method '" ++ f.name ++ "' of '" ++ f.owner ++ "' objects>")
        else return Text.ofString ("<built-in function " ++ f.name ++ ">")
      | .nativeOf self f =>
        let place := match self with
          | .ref id => address id
          | _ => address 0
        return Text.ofString ("<built-in method " ++ f.name ++ " of " ++ (← self.typeName) ++ " object at " ++ place ++ ">")
      | .ref id =>
        if seen.contains id then
          let o ← object id
          return Text.ofString (match o.data with
            | .list _ => "[...]"
            | .dict _ => "\x7b...\x7d"
            | _ => "...")
        else nested " while getting the repr of an object" (showObject eng fuel (id :: seen) id)

/-- The texts that show some values. -/
def showAll (eng : Engine) : Nat → List Nat → List Value → Run (List Text)
  | 0, _, _ => fail "RecursionError" "maximum recursion depth exceeded while getting the repr of an object"
  | fuel + 1, seen, vs => vs.mapM (showWith eng fuel seen)

/-- The text that shows an object. -/
def showObject (eng : Engine) : Nat → List Nat → Nat → Run Text
  | 0, _, _ => fail "RecursionError" "maximum recursion depth exceeded while getting the repr of an object"
  | fuel + 1, seen, id => do
    let o ← object id
    let c ← classInfo o.cls
    let comma := Text.ofString ", "
    let entriesText (entries : List (Value × Value)) : Run Text := do
      let parts ← entries.mapM fun (k, v) => do
        return (← showWith eng fuel seen k) ++ Text.ofString ": " ++ (← showWith eng fuel seen v)
      return 123 :: Text.join comma parts ++ [125]
    let plain (what : String) : Text := Text.ofString ("<" ++ what ++ " at " ++ address id ++ ">")
    match o.data with
    | .list items => return 91 :: Text.join comma (← showAll eng fuel seen items.toList) ++ [93]
    | .dict entries =>
      if ← isSubclass o.cls BaseType.ordered.id then
        if entries.isEmpty then return Text.ofString (c.name ++ "()")
        else
          let parts ← entries.mapM fun (k, v) => showWith eng fuel seen (.tuple [k, v])
          return Text.ofString (c.name ++ "([") ++ Text.join comma parts ++ Text.ofString "])"
      else if ← isSubclass o.cls BaseType.defaulted.id then
        let factory := ((o.attrs.find? (·.1 = "default_factory")).map (·.2)).getD .none
        return Text.ofString (c.name ++ "(") ++ (← showWith eng fuel seen factory) ++ comma ++ (← entriesText entries) ++ [41]
      else entriesText entries
    | .set items =>
      let inner := Text.join comma (← showAll eng fuel seen items)
      if o.cls = BaseType.set.id then
        return if items.isEmpty then Text.ofString "set()" else 123 :: inner ++ [125]
      else if items.isEmpty then return Text.ofString (c.name ++ "()")
      else return Text.ofString (c.name ++ "(\x7b") ++ inner ++ Text.ofString "\x7d)"
    | .bytearray b => return Text.ofString (c.name ++ "(" ++ showBytes b ++ ")")
    | .payload p =>
      if ← isSubclass (← object o.cls).cls BaseType.enumType.id then
        let name := (textAttr o "_name_").string
        return Text.ofString ("<" ++ c.name ++ "." ++ name ++ ": ") ++ (← showWith eng fuel seen p) ++ [62]
      else match p, ← classAttr o.cls "_fields" with
        | .tuple items, some (.tuple fields) =>
          let parts ← (fields.zip items).mapM fun (f, v) => do
            let name : Text := match f with
              | .str s => s
              | _ => []
            return name ++ [61] ++ (← showWith eng fuel seen v)
          return Text.ofString (c.name ++ "(") ++ Text.join comma parts ++ [41]
        | _, _ => showWith eng fuel seen p
    | .function f => return plain ("function " ++ f.qualname)
    | .method self f =>
      let name ← match f with
        | .ref fid => match ← data fid with
          | .function g => pure g.qualname
          | _ => pure "?"
        | _ => pure "?"
      return Text.ofString ("<bound method " ++ name ++ " of ") ++ (← showWith eng fuel seen self) ++ [62]
    | .cls info => return Text.ofString (← showClass id info)
    | .module names =>
      let name ← match ← lookName names "__name__" with
        | some v => showWith eng fuel seen v
        | none => pure (Text.ofString "'?'")
      return Text.ofString "<module " ++ name ++ Text.ofString " (built-in)>"
    | .exception e => match e.args with
      | [a] => return Text.ofString (c.name ++ "(") ++ (← showWith eng fuel seen a) ++ [41]
      | args => return Text.ofString c.name ++ (← showWith eng fuel seen (.tuple args))
    | .iterator (.comp _ _ _ inner) => return plain ("generator object " ++ (inner.path.dropEnd ".<locals>.".length).toString)
    | .iterator (.call f _) => return plain ("generator object " ++ f.qualname)
    | .super behind self =>
      return Text.ofString ("<super: <class '" ++ (← classInfo behind).name ++ "'>, <" ++ (← self.typeName) ++ " object>>")
    | _ =>
      if ← isSubclass (← object o.cls).cls BaseType.enumType.id then
        let name := (textAttr o "_name_").string
        let v := ((o.attrs.find? (·.1 = "_value_")).map (·.2)).getD .none
        return Text.ofString ("<" ++ c.name ++ "." ++ name ++ ": ") ++ (← showWith eng fuel seen v) ++ [62]
      else return plain (c.path ++ " object")

end

/-- The text that shows a value as a program would write it. -/
def repr (eng : Engine) (v : Value) : Run Text := showWith eng (3 * recursionFuel) [] v

/-- The text of a value whose class does not define one. -/
def plainStr (eng : Engine) (v : Value) : Run Text := do
  match v with
  | .str s => return s
  | .ref id => do
    let o ← object id
    let attr (name : String) : Value := ((o.attrs.find? (·.1 = name)).map (·.2)).getD .none
    let isA (name : String) : Run Bool := isSubclass o.cls (exceptionId name)
    let isEnum ← isSubclass (← object o.cls).cls BaseType.enumType.id
    match o.data with
    | .payload p => match p, isEnum with
      | .str s, false => return s
      | p, true => if ← isSubclass o.cls BaseType.intEnum.id then repr eng p else enumText o
      | _, false => repr eng v
    | .exception e =>
      if ← isA "OSError" then match attr "errno", attr "strerror", attr "filename" with
        | .none, _, _ => argsText e.args
        | n, m, f =>
          let head := Text.ofString "[Errno " ++ (← strPlain n) ++ Text.ofString "] " ++ (← strPlain m)
          match f with
          | .none => return head
          | f => return head ++ Text.ofString ": " ++ (← repr eng f)
      else if (← isA "UnicodeDecodeError") || (← isA "UnicodeEncodeError") then match e.args with
        | [.str codec, given, .int start, .int stop, .str reason] =>
          let (verb, one, many) := match given with
            | .bytes b => ("decode", "byte 0x" ++ hexPadded 2 (b.getD start.toNat 0).toNat, "bytes")
            | .str s => ("encode", "character '" ++ (Text.showPoint 0 (s.getD start.toNat 0)).string ++ "'", "characters")
            | _ => ("", "", "")
          let place := if stop = start + 1 then one ++ " in position " ++ toString start
            else many ++ " in position " ++ toString start ++ "-" ++ toString (stop - 1)
          return Text.ofString ("'" ++ codec.string ++ "' codec can't " ++ verb ++ " " ++ place ++ ": " ++ reason.string)
        | args => argsText args
      else match e.args with
        | [a] => if ← isA "KeyError" then repr eng a else strPlain a
        | args => argsText args
    | _ => if isEnum then enumText o else repr eng v
  | v => repr eng v
where
  /-- The text of an argument of an exception. -/
  strPlain (v : Value) : Run Text := do
    match v with
    | .str s => return s
    | .ref id => do
      match ← v.special? "__str__" with
      | some f => match ← (← eng.call f [v] []).plain with
        | .str s => return s
        | r => typeError ("__str__ returned non-string (type " ++ (← r.typeName) ++ ")")
      | none => match (← object id).data with
        | .payload (.str s) => return s
        | .exception e => match e.args with
          | [] => return []
          | [.str s] => return s
          | args => repr eng (.tuple args)
        | _ => repr eng v
    | v => repr eng v
  /-- The text of the arguments of an exception. -/
  argsText : List Value → Run Text
    | [] => return []
    | [a] => strPlain a
    | args => repr eng (.tuple args)
  /-- The name of a member of an enumeration, with its class. -/
  enumText (o : Object) : Run Text := do
    return Text.ofString ((← classInfo o.cls).name ++ ".") ++ textAttr o "_name_"

/-- The text of a value. -/
def str (eng : Engine) (v : Value) : Run Text := do
  match ← v.special? "__str__" with
  | some f => match ← (← eng.call f [v] []).plain with
    | .str s => return s
    | r => typeError ("__str__ returned non-string (type " ++ (← r.typeName) ++ ")")
  | none => plainStr eng v

/-! ## Equality and order -/

/-- Whether two numbers are equal, if the values are numbers. -/
def numbersEqual? (a b : Value) : Option Bool :=
  let integer? : Value → Option Int
    | .int n => some n
    | .bool b => some (if b then 1 else 0)
    | _ => none
  match integer? a, integer? b, a, b with
  | some m, some n, _, _ => some (m == n)
  | some m, _, _, .float y => some (compareIntFloat m y == some .eq)
  | _, some n, .float x, _ => some (compareIntFloat n x == some .eq)
  | _, _, .float x, .float y => some (x == y)
  | _, _, .complex r i, .complex s j => some (r == s && i == j)
  | some m, _, _, .complex s j => some (j == 0.0 && compareIntFloat m s == some .eq)
  | _, some n, .complex r i, _ => some (i == 0.0 && compareIntFloat n r == some .eq)
  | _, _, .float x, .complex s j => some (j == 0.0 && x == s)
  | _, _, .complex r i, .float y => some (i == 0.0 && r == y)
  | _, _, _, _ => none

mutual

/-- Whether values are equal. The fuel bounds how deep they are compared. -/
def equalWith (eng : Engine) : Nat → Value → Value → Run Bool
  | 0, _, _ => fail "RecursionError" "maximum recursion depth exceeded in comparison"
  | fuel + 1, a, b => do
    let ask (f : Option Value) (x y : Value) : Run (Option Value) := do
      match f with
      | none => return none
      | some f => match ← eng.call f [x, y] [] with
        | .notImplemented => return none
        | r => return some r
    match ← ask (← a.special? "__eq__") a b with
    | some r => truth eng r
    | none => match ← ask (← b.special? "__eq__") b a with
      | some r => truth eng r
      | none =>
        let p ← a.plain
        let q ← b.plain
        match numbersEqual? p q with
        | some r => return r
        | none => match p, q with
          | .tuple xs, .tuple ys => nested " in comparison" (allEqual eng fuel xs ys)
          | .range a b c, .range d e f =>
            let n := rangeLength a b c
            return n == rangeLength d e f && (n == 0 || a == d && (n == 1 || c == f))
          | .bytes x, .ref j => match ← data j with
            | .bytearray y => return x == y
            | _ => return false
          | .ref i, .ref j =>
            if i = j then return true
            else match ← data i, ← data j with
              | .list xs, .list ys => nested " in comparison" (allEqual eng fuel xs.toList ys.toList)
              | .dict xs, .dict ys =>
                if xs.length ≠ ys.length then return false
                else nested " in comparison" (allFound eng fuel xs ys)
              | .set xs, .set ys =>
                let heap := (← get).heap
                return xs.length == ys.length
                  && xs.all fun x => ys.any fun y => (keyOf heap x).sameKey (keyOf heap y)
              | .bytearray x, .bytearray y => return x == y
              | .method s f, .method t g => return s.same t && f.same g
              | _, _ => return false
          | .ref i, .bytes y => match ← data i with
            | .bytearray x => return x == y
            | _ => return false
          | p, q => return p.same q

/-- Whether values are equal one by one. -/
def allEqual (eng : Engine) : Nat → List Value → List Value → Run Bool
  | 0, _, _ => fail "RecursionError" "maximum recursion depth exceeded in comparison"
  | fuel + 1, xs, ys => do
    if xs.length ≠ ys.length then return false
    else (xs.zip ys).allM fun (x, y) => do if x.same y then return true else equalWith eng fuel x y

/-- Whether entries are found among others. -/
def allFound (eng : Engine) : Nat → List (Value × Value) → List (Value × Value) → Run Bool
  | 0, _, _ => fail "RecursionError" "maximum recursion depth exceeded in comparison"
  | fuel + 1, xs, ys => xs.allM fun (k, v) => do
      match Dict.find? (← get).heap ys k with
      | some w => if v.same w then return true else equalWith eng fuel v w
      | none => return false

end

/-- Whether values are equal. -/
def equal (eng : Engine) (a b : Value) : Run Bool := equalWith eng (3 * recursionFuel) a b

/-- Whether values are equal, or the same. -/
def equalOrSame (eng : Engine) (a b : Value) : Run Bool := do if a.same b then return true else equal eng a b

/-- The sign of an ordering comparison. -/
def CmpOp.sign : CmpOp → String
  | .eq => "==" | .ne => "!=" | .lt => "<" | .le => "<=" | .gt => ">" | .ge => ">="
  | .is => "is" | .isNot => "is not" | .in => "in" | .notIn => "not in"

/-- The methods that an ordering comparison asks for: of the left operand, and of the right one. -/
def CmpOp.methods : CmpOp → String × String
  | .lt => ("__lt__", "__gt__") | .le => ("__le__", "__ge__") | .gt => ("__gt__", "__lt__") | .ge => ("__ge__", "__le__")
  | .eq => ("__eq__", "__eq__") | _ => ("__ne__", "__ne__")

/-- Whether an ordering comparison accepts an ordering. -/
def CmpOp.accepts (op : CmpOp) (o : Ordering) : Bool :=
  match op with
  | .lt => o == .lt
  | .le => o != .gt
  | .gt => o == .gt
  | .ge => o != .lt
  | .eq => o == .eq
  | _ => o != .eq

/-- How two numbers are ordered, if the values are numbers; none inside if one is not a number at all. -/
def numbersOrder? (a b : Value) : Option (Option Ordering) :=
  let integer? : Value → Option Int
    | .int n => some n
    | .bool b => some (if b then 1 else 0)
    | _ => none
  match integer? a, integer? b, a, b with
  | some m, some n, _, _ => some (some (Ord.compare m n))
  | some m, _, _, .float y => some (compareIntFloat m y)
  | _, some n, .float x, _ => some ((compareIntFloat n x).map Ordering.swap)
  | _, _, .float x, .float y => some (compareFloats x y)
  | _, _, _, _ => none

/-- Whether values are ordered as a comparison says. The fuel bounds how deep they are compared. -/
def orderWith (eng : Engine) (op : CmpOp) : Nat → Value → Value → Run Value
  | 0, _, _ => fail "RecursionError" "maximum recursion depth exceeded in comparison"
  | fuel + 1, a, b => do
    let ask (f : Option Value) (x y : Value) : Run (Option Value) := do
      match f with
      | none => return none
      | some f => match ← eng.call f [x, y] [] with
        | .notImplemented => return none
        | r => return some r
    match ← ask (← a.special? op.methods.1) a b with
    | some r => return r
    | none => match ← ask (← b.special? op.methods.2) b a with
      | some r => return r
      | none =>
        let refuse : Run Value := do
          typeError ("'" ++ op.sign ++ "' not supported between instances of '" ++ (← a.typeName) ++ "' and '"
            ++ (← b.typeName) ++ "'")
        let items (xs ys : List Value) : Run Value := do
          match ← (xs.zip ys).findM? fun (x, y) => return !(← equalOrSame eng x y) with
          | some (x, y) => nested " in comparison" (orderWith eng op fuel x y)
          | none => return .bool (op.accepts (Ord.compare xs.length ys.length))
        let p ← a.plain
        let q ← b.plain
        match numbersOrder? p q with
        | some r => return .bool (r.any op.accepts)
        | none => match p, q with
          | .str s, .str t => return .bool (op.accepts (Text.compare s t))
          | .bytes s, .bytes t =>
            return .bool (op.accepts (Text.compare (s.map UInt8.toNat) (t.map UInt8.toNat)))
          | .tuple xs, .tuple ys => items xs ys
          | .ref i, .ref j => match ← data i, ← data j with
            | .list xs, .list ys => items xs.toList ys.toList
            | .set xs, .set ys =>
              let heap := (← get).heap
              let within (xs ys : List Value) : Bool :=
                xs.all fun x => ys.any fun y => (keyOf heap x).sameKey (keyOf heap y)
              return .bool (match op with
                | .lt => within xs ys && xs.length < ys.length
                | .le => within xs ys
                | .gt => within ys xs && ys.length < xs.length
                | _ => within ys xs)
            | _, _ => refuse
          | _, _ => refuse

/-- Whether values are ordered as a comparison says. -/
def order (eng : Engine) (op : CmpOp) (a b : Value) : Run Value := orderWith eng op recursionFuel a b

/-- Raises an exception unless a value can be a key. -/
def checkHashable (eng : Engine) : Nat → Value → Run Unit
  | 0, _ => return ()
  | fuel + 1, v => do
    let refuse : Run Unit := do typeError ("unhashable type: '" ++ (← v.typeName) ++ "'")
    match ← v.special? "__hash__" with
    | some .none => refuse
    | some f => let _ ← eng.call f [v] []
    | none => match v with
      | .slice .. => refuse
      | .tuple items => items.forM (checkHashable eng fuel)
      | .ref id => do
        let o ← object id
        match o.data with
        | .list _ | .dict _ | .bytearray _ => refuse
        | .set _ => if ← isSubclass o.cls BaseType.set.id then refuse
        | .payload p => checkHashable eng fuel p
        | _ => return ()
      | _ => return ()

/-- Gives a key of a dictionary object a value. -/
def setItemOf (eng : Engine) (id : Nat) (key v : Value) : Run Unit := do
  checkHashable eng recursionFuel key
  setData id (.dict (Dict.insert (← get).heap (← entriesOf id) key v))

/-- The items with one more, unless it is there. -/
def addMember (eng : Engine) (items : List Value) (v : Value) : Run (List Value) := do
  checkHashable eng recursionFuel v
  let heap := (← get).heap
  return if items.any fun x => (keyOf heap x).sameKey (keyOf heap v) then items else items ++ [v]

/-! ## Iteration -/

/-- The next value, or none if the end is announced by an exception. -/
def untilStop (x : Run Value) : Run (Option Value) := do
  match ← attempt x with
  | .ok v => return some v
  | .error e => if ← isRaised e "StopIteration" then return none else throwValue e

/-- The iterator over a value. -/
def iter (eng : Engine) (v : Value) : Run Value := do
  match ← v.special? "__iter__" with
  | some f =>
    let it ← eng.call f [v] []
    let isIterator ← match it with
      | .ref id => match ← data id with
        | .iterator _ => pure true
        | _ => pure (← it.special? "__next__").isSome
      | _ => pure false
    if isIterator then return it
    else typeError ("iter() returned non-iterator of type '" ++ (← it.typeName) ++ "'")
  | none => match ← v.plain with
    | .str s => iterator .iterator (.items (s.map fun c => .str [c]))
    | .bytes b => iterator .iterator (.items (b.map fun x => .int x.toNat))
    | .tuple items => iterator .iterator (.items items)
    | .range a b c => iterator .iterator (.range a b c)
    | .ref id => do
      let o ← object id
      match o.data with
      | .list _ => iterator .iterator (.list id 0)
      | .dict entries => iterator .iterator (.items (entries.map (·.1)))
      | .set items => iterator .iterator (.items items)
      | .bytearray b => iterator .iterator (.items (b.map fun x => .int x.toNat))
      | .iterator _ => return v
      | .cls _ =>
        if ← isSubclass o.cls BaseType.enumType.id then
          let members ← match ← ownAttr id "_member_map_" with
            | some (.ref m) => entriesOf m
            | _ => pure []
          iterator .iterator (.items (members.map (·.2)))
        else refuse v
      | _ =>
        if (← v.special? "__getitem__").isSome then iterator .iterator (.sequence v 0) else refuse v
    | _ => refuse v
where
  /-- Raises the exception for a value without items. -/
  refuse (v : Value) : Run Value := do
    typeError ("'" ++ (← v.typeName) ++ "' object is not iterable")

mutual

/-- The next value of an iterator. The fuel bounds how deep iterators are inside of each other. -/
def nextWith (eng : Engine) : Nat → Value → Run (Option Value)
  | 0, _ => throw .exhausted
  | fuel + 1, it => do
    let step (id : Nat) : Iterator → Run (Option Value)
      | .items [] => return none
      | .items (v :: rest) => do
        setData id (.iterator (.items rest))
        return some v
      | .list l i => do
        match ← data l with
        | .list items => match items[i]? with
          | some v =>
            setData id (.iterator (.list l (i + 1)))
            return some v
          | none => return none
        | _ => return none
      | .range a b c => do
        if (0 < c ∧ a < b) ∨ (c < 0 ∧ b < a) then
          setData id (.iterator (.range (a + c) b c))
          return some (.int a)
        else return none
      | .map f inner => do
        match ← nextAll eng fuel inner with
        | some args => return some (← eng.call f args [])
        | none => return none
      | .filter f inner => nextFiltered eng fuel f inner loopFuel
      | .zip inner => do
        if inner.isEmpty then return none
        else return (← nextAll eng fuel inner).map .tuple
      | .enumerate n inner => do
        match ← nextWith eng fuel inner with
        | some v =>
          setData id (.iterator (.enumerate (n + 1) inner))
          return some (.tuple [.int n, v])
        | none => return none
      | .sequence o i => do
        match ← o.special? "__getitem__" with
        | some f => match ← attempt (eng.call f [o, .int i] []) with
          | .ok v =>
            setData id (.iterator (.sequence o (i + 1)))
            return some v
          | .error e =>
            if (← isRaised e "IndexError") || (← isRaised e "StopIteration") then return none else throwValue e
        | none => return none
      | .comp .. | .call .. => eng.resume id
    match it with
    | .ref id => match ← data id with
      | .iterator i => step id i
      | _ => match ← it.special? "__next__" with
        | some f => untilStop (eng.call f [it] [])
        | none => typeError ("'" ++ (← it.typeName) ++ "' object is not an iterator")
    | _ => typeError ("'" ++ (← it.typeName) ++ "' object is not an iterator")

/-- The next values of iterators, or none as soon as one has ended. -/
def nextAll (eng : Engine) : Nat → List Value → Run (Option (List Value))
  | 0, _ => throw .exhausted
  | _ + 1, [] => return some []
  | fuel + 1, it :: rest => do
    match ← nextWith eng fuel it with
    | none => return none
    | some v => match ← nextAll eng fuel rest with
      | none => return none
      | some vs => return some (v :: vs)

/-- The next value of an iterator that a function accepts; the last number bounds how many are tried. -/
def nextFiltered (eng : Engine) : Nat → Value → Value → Nat → Run (Option Value)
  | 0, _, _, _ => throw .exhausted
  | fuel + 1, f, inner, tries => do
    let mut result : Option (Option Value) := none
    for _ in [0:tries] do
      match ← nextWith eng fuel inner with
      | none =>
        result := some none
        break
      | some v =>
        let isAccepted ← match f with
          | .none => truth eng v
          | f => truth eng (← eng.call f [v] [])
        if isAccepted then
          result := some (some v)
          break
    match result with
    | some r => return r
    | none => throw .exhausted

end

/-- The next value of an iterator. -/
def next (eng : Engine) (it : Value) : Run (Option Value) := nextWith eng recursionFuel it

/-- All values of an iterator, behind those collected so far. The fuel bounds how many they are. -/
def drain (eng : Engine) (it : Value) : Nat → Array Value → Run (Array Value)
  | 0, _ => throw .exhausted
  | fuel + 1, acc => do
    match ← next eng it with
    | some v => drain eng it fuel (acc.push v)
    | none => return acc

/-- All items of a value. -/
def itemsOf (eng : Engine) (v : Value) : Run (List Value) := do
  match v with
  | .tuple items => return items
  | _ => return (← drain eng (← iter eng v) loopFuel #[]).toList

/-- The integer that a value is as an index, if it is one. -/
def index? (eng : Engine) (v : Value) : Run (Option Int) := do
  match ← v.plain with
  | .int n => return some n
  | .bool b => return some (if b then 1 else 0)
  | _ => match ← v.special? "__index__" with
    | some f => match ← (← eng.call f [v] []).plain with
      | .int n => return some n
      | r => typeError ("__index__ returned non-int (type " ++ (← r.typeName) ++ ")")
    | none => return none

end PluginHost.Python
