import PluginHost.Script.PythonOperator

/-!
# Classes of Python programs

How a class is made of its bases and its body, in which order attributes are looked up along the bases, how enumerations get
their members, and how an instance is made.
-/

namespace PluginHost.Python

open Run

/-! ## The order of lookups -/

/-- The first head of some lists that is in no tail of them. -/
def goodHead? (lists : List (List Nat)) : Option Nat :=
  lists.findSome? fun
    | [] => none
    | h :: _ => if lists.any fun l => (l.drop 1).contains h then none else some h

/-- Merges orders of lookups; each of them is kept. The fuel is the number of classes. -/
def mergeOrders : Nat → List (List Nat) → Option (List Nat)
  | 0, lists => if lists.all List.isEmpty then some [] else none
  | fuel + 1, lists =>
    if lists.all List.isEmpty then some []
    else match goodHead? lists with
      | none => none
      | some h => (mergeOrders fuel (lists.map fun l => if l.head? = some h then l.drop 1 else l)).map (h :: ·)

/-- The order of lookups along some bases. -/
def orderAlong (bases : List Nat) : Run (List Nat) := do
  let orders ← bases.mapM fun b => return (← classInfo b).mro
  match mergeOrders ((orders.map List.length).foldl (· + ·) bases.length) (orders ++ [bases]) with
  | some order => return order
  | none =>
    let names ← bases.mapM fun b => return (← classInfo b).name
    typeError ("Cannot create a consistent method resolution\norder (MRO) for bases " ++ String.intercalate ", " names)

/-! ## Making classes -/

/-- Types that nothing can inherit from. -/
def sealedTypes : List BaseType :=
  [.bool, .noneType, .ellipsis, .notImplemented, .range, .slice, .function, .native, .method, .generator, .iterator, .traceback]

/-- Whether a name has underscores at both ends. -/
def isReserved (name : String) : Bool := name.startsWith "_" && name.endsWith "_"

/-- Turns the plain values of the body of an enumeration into its members. -/
def addMembers (eng : Engine) (cls : Nat) (body : List (String × Value)) : Run Unit := do
  let isInt ← isSubclass cls BaseType.int.id
  let mut members : List (Value × Value) := []
  for (name, v) in body do
    let isValue ← match v with
      | .ref id => match ← data id with
        | .function _ | .property .. | .staticMethod _ | .classMethod _ => pure false
        | _ => pure true
      | .native _ => pure false
      | _ => pure true
    if isValue && !isReserved name then
      let earlier ← members.findM? fun (_, m) => do
        match m with
        | .ref id => equal eng (((← object id).attrs.find? (·.1 = "_value_")).map (·.2) |>.getD .none) v
        | _ => return false
      let member ← match earlier with
        | some (_, m) => pure m
        | none => alloc { cls, attrs := [("_name_", .ofString name), ("_value_", v)],
                          data := if isInt then .payload v else .plain }
      members := members ++ [(.ofString name, member)]
      update cls fun o => { o with attrs := putAttr o.attrs name member }
  let map ← alloc { cls := BaseType.dict.id, data := .dict members }
  update cls fun o => { o with attrs := putAttr o.attrs "_member_map_" map }

/-- Makes a class of its name, its bases and what its body defined. -/
def makeClass (eng : Engine) (metaclass : Option Nat) (name qualname module : String) (bases : List Value)
    (body : List (String × Value)) : Run Value := do
  let bases ← (if bases.isEmpty then [Value.ref BaseType.object.id] else bases).mapM fun b => do
    match ← b.class? with
    | some (id, c) =>
      if sealedTypes.any fun t => t.id = id then typeError ("type '" ++ c.name ++ "' is not an acceptable base type")
      else return id
    | none => typeError "bases must be types"
  let inherited ← bases.mapM fun b => return (← object b).cls
  let metaclass ← inherited.foldlM (fun (m : Nat) (i : Nat) => do
    if ← isSubclass i m then return i
    else if ← isSubclass m i then return m
    else typeError ("metaclass conflict: the metaclass of a derived class must be a (non-strict) subclass of the "
      ++ "metaclasses of all its bases"))
    (metaclass.getD BaseType.type.id)
  let layouts := ((← bases.mapM layoutOf).filter (· ≠ BaseType.object.id)).eraseDups
  let isConflict ← layouts.anyM fun a => layouts.anyM fun b => return !(← isSubclass a b) && !(← isSubclass b a)
  if isConflict then typeError "multiple bases have instance lay-out conflict"
  else
    let order ← orderAlong bases
    let wrapped ← body.mapM fun (n, v) => do
      match v with
      | .ref id => match n, ← data id with
        | "__new__", .function _ => return (n, ← alloc { cls := BaseType.staticMethod.id, data := .staticMethod v })
        | "__init_subclass__", .function _ | "__class_getitem__", .function _ =>
          return (n, ← alloc { cls := BaseType.classMethod.id, data := .classMethod v })
        | _, _ => return (n, v)
      | _ => return (n, v)
    let attrs := if body.any (·.1 = "__eq__") && !body.any (·.1 = "__hash__") then wrapped ++ [("__hash__", .none)] else wrapped
    let cls ← alloc { cls := metaclass, attrs }
    match cls with
    | .ref id =>
      setData id (.cls { name, qualname, module, bases, mro := id :: order })
      if ← isSubclass metaclass BaseType.enumType.id then addMembers eng id body
      match ← attrAmong order "__init_subclass__" with
      | some (.ref f) => match ← data f with
        | .classMethod g => let _ ← eng.call g [cls] []
        | _ => pure ()
      | _ => pure ()
      return cls
    | v => return v

/-! ## Instances -/

/-- Whether a value is an instance of a class or of one in a tuple. -/
def isInstanceOf (v : Value) : Nat → Value → Run Bool
  | 0, _ => return false
  | fuel + 1, cls => do
    match cls with
    | .tuple items => items.anyM (isInstanceOf v fuel)
    | _ => match ← cls.class? with
      | some (id, _) => v.isInstance id
      | none => typeError "isinstance() arg 2 must be a type, a tuple of types, or a union"

/-- The exception types for numbers that a system gives for its errors. -/
def systemErrors : List (Int × String) := [
  (1, "PermissionError"), (2, "FileNotFoundError"), (3, "ProcessLookupError"), (4, "InterruptedError"), (10, "ChildProcessError"),
  (11, "BlockingIOError"), (13, "PermissionError"), (17, "FileExistsError"), (20, "NotADirectoryError"),
  (21, "IsADirectoryError"), (32, "BrokenPipeError"), (103, "ConnectionAbortedError"), (104, "ConnectionResetError"),
  (108, "BrokenPipeError"), (110, "TimeoutError"), (111, "ConnectionRefusedError"), (114, "BlockingIOError"),
  (115, "BlockingIOError")]

/-- Makes an exception of some class with arguments. -/
def newException (cls : Nat) (args : List Value) : Run Value := do
  if ← isSubclass cls (exceptionId "OSError") then
    let cls := match args with
      | .int n :: _ :: _ =>
        if cls = exceptionId "OSError" then match systemErrors.find? (·.1 = n) with
          | some (_, name) => exceptionId name
          | none => cls
        else cls
      | _ => cls
    match args with
    | n :: m :: rest =>
      if rest.length ≤ 3 then
        let filename := rest.headD .none
        alloc { cls, attrs := [("errno", n), ("strerror", m), ("filename", filename)],
                data := .exception { args := if rest.isEmpty then args else [n, m] } }
      else alloc { cls, data := .exception { args } }
    | _ => alloc { cls, data := .exception { args } }
  else alloc { cls, data := .exception { args } }

/-- Prepares an exception with its arguments, as types of exceptions do that take special ones. -/
def initException (id : Nat) (args : List Value) (kw : List (String × Value)) : Run Unit := do
  let o ← object id
  let isA (name : String) : Run Bool := isSubclass o.cls (exceptionId name)
  let set (attrs : List (String × Value)) : Run Unit :=
    update id fun o => { o with attrs := attrs.foldl (fun as (n, v) => putAttr as n v) o.attrs }
  let given (name : String) : Value := ((kw.find? (·.1 = name)).map (·.2)).getD .none
  let allowed ← if ← isA "ImportError" then pure ["name", "path"]
    else if ← isA "AttributeError" then pure ["name", "obj"]
    else if ← isA "NameError" then pure ["name"]
    else pure []
  match kw.find? fun (n, _) => !allowed.contains n with
  | some (n, _) =>
    if allowed.isEmpty then typeError ((← classInfo o.cls).name ++ "() takes no keyword arguments")
    else typeError ("'" ++ n ++ "' is an invalid keyword argument for " ++ (← classInfo o.cls).name ++ "()")
  | none =>
    match ← data id with
    | .exception e => if !(← isA "OSError") then setData id (.exception { e with args })
    | _ => pure ()
    set (allowed.map fun n => (n, given n))
    if ← isA "StopIteration" then set [("value", args.headD .none)]
    else if ← isA "SystemExit" then
      set [("code", match args with
        | [] => .none
        | [v] => v
        | vs => .tuple vs)]
    else if ← isA "ImportError" then set [("msg", args.headD .none)]
    else if ← isA "UnicodeDecodeError" then
      if args.length ≠ 5 then
        typeError ("function takes exactly 5 arguments (" ++ toString args.length ++ " given)")
      else
        let wanted (i : Nat) (message : String → String) (isRight : Value → Bool) : Run Unit := do
          let v ← (args.getD i .none).plain
          unless isRight v do
            typeError (message (← v.typeName))
        let isText : Value → Bool
          | .str _ => true
          | _ => false
        let isBytes : Value → Bool
          | .bytes _ => true
          | _ => false
        let noInteger (t : String) : String := "'" ++ t ++ "' object cannot be interpreted as an integer"
        wanted 0 ("argument 1 must be str, not " ++ ·) isText
        wanted 2 noInteger fun v => v.int?.isSome
        wanted 3 noInteger fun v => v.int?.isSome
        wanted 4 ("argument 5 must be str, not " ++ ·) isText
        wanted 1 (fun t => "a bytes-like object is required, not '" ++ t ++ "'") isBytes
    else pure ()

/-- The instance that a call of a class makes. -/
def instantiate (eng : Engine) (id : Nat) (args : List Value) (kw : List (String × Value)) : Run Value := do
  let o ← object id
  let c ← classInfo id
  match id == BaseType.type.id, args, kw with
  | true, [v], [] => return .ref (← v.typeId)
  | _, _, _ => match ← Value.special? (.ref id) "__call__" with
    | some f => eng.call f (.ref id :: args) kw
    | none =>
      let members ← match ← attrAmong c.mro "_member_map_" with
        | some (.ref m) => entriesOf m
        | _ => pure []
      match (← isSubclass o.cls BaseType.enumType.id), args with
      | true, [v] =>
        let found ← members.findM? fun (_, m) => do
          match m with
          | .ref i => equal eng (((← object i).attrs.find? (·.1 = "_value_")).map (·.2) |>.getD .none) v
          | _ => return false
        match found with
        | some (_, m) => return m
        | none => match ← v.isInstance id with
          | true => return v
          | false =>
            fail "ValueError" ((← repr eng v).string ++ " is not a valid " ++ c.qualname)
      | _, _ =>
        let made ← match ← classAttr id "__new__" with
          | some (.ref f) => match ← data f with
            | .staticMethod g => eng.call g (.ref id :: args) kw
            | _ => eng.call (.ref f) (.ref id :: args) kw
          | some f => eng.call f (.ref id :: args) kw
          | none => typeError ("cannot create '" ++ c.name ++ "' instances")
        if ← made.isInstance id then
          match ← classAttr (← made.typeId) "__init__" with
          | some (.native f) =>
            let _ ← eng.call (.native f) (made :: args) kw
            return made
          | some f =>
            match ← eng.call (← bindTo eng made id f) args kw with
            | .none => return made
            | r => typeError ("__init__() should return None, not '" ++ (← r.typeName) ++ "'")
          | none => return made
        else return made

/-- The exception that a raised value stands for: itself, or an instance of the class that it is. -/
def exceptionOf (eng : Engine) (v : Value) : Run Value := do
  let refuse : Run Value := typeError "exceptions must derive from BaseException"
  match ← v.class? with
  | some (_, c) =>
    if c.mro.contains (exceptionId "BaseException") then
      let made ← eng.call v [] []
      if ← made.isInstance (exceptionId "BaseException") then return made
      else typeError ("calling " ++ (← repr eng v).string ++ " should have returned an instance of BaseException, not "
        ++ (← made.typeName))
    else refuse
  | none => if ← v.isInstance (exceptionId "BaseException") then return v else refuse

end PluginHost.Python
