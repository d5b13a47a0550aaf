import PluginHost.Script.PythonFunctions

/-!
# The constructors of Python

How the types that are built in make their instances. A class that inherits from such a type makes an instance of its own with
the same contents (`wrapAs`).
-/

namespace PluginHost.Python

open Run

/-- The integer that a value is turned into. -/
def toInteger (eng : Engine) (v : Value) (base : Option Value) : Run Int := do
  let spelled (s : Text) (base : Nat) (shown : Value) : Run Int := do
    match readInt? base s with
    | some n => return n
    | none =>
      fail "ValueError" ("invalid literal for int() with base " ++ toString base ++ ": " ++ (← repr eng shown).string)
  let p ← v.plain
  match base with
  | some b =>
    let b ← needInt eng b
    if b ≠ 0 ∧ (b < 2 ∨ 36 < b) then fail "ValueError" "int() base must be >= 2 and <= 36, or 0"
    else match p with
      | .str s => spelled s b.toNat p
      | .bytes s => spelled (s.map UInt8.toNat) b.toNat p
      | _ => typeError "int() can't convert non-string with explicit base"
  | none => match ← v.special? "__int__" with
    | some f => match ← (← eng.call f [v] []).plain with
      | .int n => return n
      | r => typeError ("__int__ returned non-int (type " ++ (← r.typeName) ++ ")")
    | none => match p with
      | .str s => spelled s 10 p
      | .bytes s => spelled (s.map UInt8.toNat) 10 p
      | .float x => match Decimal.truncate? x with
        | some n => return n
        | none =>
          if x.isNaN then fail "ValueError" "cannot convert float NaN to integer"
          else fail "OverflowError" "cannot convert float infinity to integer"
      | _ => match ← index? eng v with
        | some n => return n
        | none =>
          typeError ("int() argument must be a string, a bytes-like object or a real number, not '" ++ (← v.typeName) ++ "'")

/-- The double that a value is turned into. -/
def toDouble (eng : Engine) (v : Value) : Run Float := do
  match ← v.special? "__float__" with
  | some f => match ← (← eng.call f [v] []).plain with
    | .float x => return x
    | r => typeError ((← v.typeName) ++ ".__float__ returned non-float (type " ++ (← r.typeName) ++ ")")
  | none => match ← v.plain with
    | .float x => return x
    | .str s => match readFloat? s with
      | some x => return x
      | none => fail "ValueError" ("could not convert string to float: " ++ s.quoted.string)
    | _ => match ← index? eng v with
      | some n => needFloat n
      | none => typeError ("float() argument must be a string or a real number, not '" ++ (← v.typeName) ++ "'")

/-- Adds the entries of mappings, or pairs, and named ones to a dictionary. -/
def fillDict (eng : Engine) (id : Nat) (args : List Value) (kw : List (String × Value)) : Run Unit := do
  checkCount "dict" 0 1 args.length
  match args with
  | v :: _ =>
    let entries? ← match v with
      | .ref i => match ← data i with
        | .dict entries => pure (some entries)
        | _ => pure none
      | _ => pure none
    match entries? with
    | some entries => for (k, x) in entries do setItemOf eng id k x
    | none =>
      match ← getAttr? eng v "keys" with
      | some keys => for k in ← itemsOf eng (← eng.call keys [] []) do setItemOf eng id k (← getItem eng v k)
      | none =>
        let mut i := 0
        for item in ← itemsOf eng v do
          match ← attempt (itemsOf eng item) with
          | .error _ =>
            typeError ("cannot convert dictionary update sequence element #" ++ toString i ++ " to a sequence")
          | .ok [k, x] => setItemOf eng id k x
          | .ok other =>
            fail "ValueError" ("dictionary update sequence element #" ++ toString i ++ " has length "
              ++ toString other.length ++ "; 2 is required")
          i := i + 1
  | [] => pure ()
  for (n, v) in kw do setItemOf eng id (.ofString n) v

/-- An iterator of a type that is built in, made by calling the type. -/
def iteratorType (t : BaseType) (make : Engine → List Value → List (String × Value) → Run Iterator) :
    String × NativeBody :=
  ("__new__", fun eng args kw => do
    let (cls, args) ← classArgument t.name args
    alloc { cls, data := .iterator (← make eng args kw) })

/-- The constructors of types, by type. -/
def constructors : List (String × List (String × NativeBody)) := [
  ("object", [
    ("__new__", fun _ args kw => do
      let (cls, rest) ← classArgument "object" args
      let hasExtra := !(rest.isEmpty && kw.isEmpty)
      if hasExtra && (← overrides cls "__new__") then
        typeError "object.__new__() takes exactly one argument (the type to instantiate)"
      else if hasExtra && !(← overrides cls "__init__") then typeError ((← classInfo cls).name ++ "() takes no arguments")
      else alloc { cls }),
    ("__init__", fun _ args kw => do
      match args with
      | [] => typeError "unbound method object.__init__() needs an argument"
      | self :: rest =>
        let cls ← self.typeId
        let hasExtra := !(rest.isEmpty && kw.isEmpty)
        if hasExtra && (← overrides cls "__init__") then
          typeError "object.__init__() takes exactly one argument (the instance to initialize)"
        else if hasExtra && !(← overrides cls "__new__") && (← layoutOf cls) = BaseType.object.id then
          typeError ((← classInfo cls).name ++ ".__init__() takes exactly one argument (the instance to initialize)")
        else return .none)]),
  ("type", [("__new__", fun eng args _ => do
    let (metaclass, rest) ← classArgument "type" args
    match rest with
    | [.str name, .tuple bases, .ref body] =>
      let attrs := (← entriesOf body).filterMap fun (k, v) => match k with
        | .str s => some (s.string, v)
        | _ => none
      let module ← match ← currentEnv with
        | some env => match ← lookName env.globals "__name__" with
          | some (.str s) => pure s.string
          | _ => pure "builtins"
        | none => pure "builtins"
      let attrs := attrs.filter fun a => a.1 ≠ "__module__" ∧ a.1 ≠ "__qualname__"
      makeClass eng (some metaclass) name.string name.string module bases attrs
    | [_, _, _] => typeError "type.__new__() argument 1 must be str"
    | _ => typeError "type() takes 1 or 3 arguments"),
    ("__init__", fun _ _ _ => return .none),
    methodZero "type" "mro" fun _ self => do
      match ← self.class? with
      | some (_, c) => list (c.mro.map .ref)
      | none => return .none]),
  ("int", [("__new__", fun eng args kw => do
    let (cls, rest) ← classArgument "int" args
    match rest, kw.find? (·.1 = "base") with
    | [], _ => wrapAs cls .int (.int 0)
    | [v], base => wrapAs cls .int (.int (← toInteger eng v (base.map (·.2))))
    | [v, base], _ => wrapAs cls .int (.int (← toInteger eng v (some base)))
    | _, _ => typeError ("int() takes at most 2 arguments (" ++ toString rest.length ++ " given)"))]),
  ("bool", [("__new__", fun eng args _ => do
    let (_, rest) ← classArgument "bool" args
    checkCount "bool" 0 1 rest.length
    match rest with
    | [v] => return .bool (← truth eng v)
    | _ => return .bool false)]),
  ("float", [("__new__", fun eng args _ => do
    let (cls, rest) ← classArgument "float" args
    checkCount "float" 0 1 rest.length
    match rest with
    | [v] => wrapAs cls .float (.float (← toDouble eng v))
    | _ => wrapAs cls .float (.float 0.0))]),
  ("complex", [("__new__", fun _ args kw => do
    let (cls, rest) ← classArgument "complex" args
    let part (i : Nat) (name : String) : Run (Float × Float) := do
      match (rest[i]? <|> named? kw name) with
      | none => return (0.0, 0.0)
      | some v => match ← complexParts? (← v.plain) with
        | some p => return p
        | none => match ← v.plain with
          | .str s => match readFloat? s with
            | some x => return (x, 0.0)
            | none => fail "ValueError" "complex() arg is a malformed string"
          | _ => typeError ("complex() first argument must be a string or a number, not '" ++ (← v.typeName) ++ "'")
    let (a, b) ← part 0 "real"
    let (c, d) ← part 1 "imag"
    wrapAs cls .complex (.complex (a - d) (b + c)))]),
  ("str", [("__new__", fun eng args kw => do
    let (cls, rest) ← classArgument "str" args
    if 3 < rest.length then typeError ("str() takes at most 3 arguments (" ++ toString rest.length ++ " given)")
    else
      let v := rest.head? <|> named? kw "object"
      let encoding := rest[1]? <|> named? kw "encoding"
      match v, encoding with
      | none, _ => wrapAs cls .str (.str [])
      | some v, none => wrapAs cls .str (.str (← str eng v))
      | some v, some e => match ← v.plain with
        | .bytes b =>
          checkEncoding (some e) "str() argument 2"
          wrapAs cls .str (← decodeBytes b)
        | _ => typeError ("decoding to str: need a bytes-like object, " ++ (← v.typeName) ++ " found"))]),
  ("bytes", [("__new__", fun eng args _ => do
    let (cls, rest) ← classArgument "bytes" args
    wrapAs cls .bytes (.bytes (← bytesOf eng "bytes" rest)))]),
  ("bytearray", [
    ("__new__", fun _ args _ => do
      let (cls, _) ← classArgument "bytearray" args
      alloc { cls, data := .bytearray [] }),
    ("__init__", fun eng args _ => do
      match args with
      | .ref id :: rest => setData id (.bytearray (← bytesOf eng "bytearray" rest))
      | _ => pure ()
      return .none)]),
  ("tuple", [("__new__", fun eng args _ => do
    let (cls, rest) ← classArgument "tuple" args
    checkCount "tuple" 0 1 rest.length
    match rest with
    | [v] => wrapAs cls .tuple (.tuple (← itemsOf eng v))
    | _ => wrapAs cls .tuple (.tuple []))]),
  ("list", [
    ("__new__", fun _ args _ => do
      let (cls, _) ← classArgument "list" args
      alloc { cls, data := .list #[] }),
    ("__init__", fun eng args kw => do
      noKeywords "list" kw
      match args with
      | .ref id :: rest =>
        checkCount "list" 0 1 rest.length
        let items ← match rest with
          | [v] => itemsOf eng v
          | _ => pure []
        setData id (.list items.toArray)
      | _ => pure ()
      return .none)]),
  ("dict", [
    ("__new__", fun _ args _ => do
      let (cls, _) ← classArgument "dict" args
      alloc { cls, data := .dict [] }),
    ("__init__", fun eng args kw => do
      match args with
      | .ref id :: rest => fillDict eng id rest kw
      | _ => pure ()
      return .none)]),
  ("defaultdict", [("__init__", fun eng args kw => do
    match args with
    | .ref id :: factory :: rest =>
      match factory with
      | .none => pure ()
      | f => unless ← isCallable f do typeError "first argument must be callable or None"
      update id fun o => { o with attrs := putAttr o.attrs "default_factory" factory }
      fillDict eng id rest kw
    | .ref id :: _ =>
      update id fun o => { o with attrs := putAttr o.attrs "default_factory" .none }
      fillDict eng id [] kw
    | _ => pure ()
    return .none)]),
  ("set", [
    ("__new__", fun _ args _ => do
      let (cls, _) ← classArgument "set" args
      alloc { cls, data := .set [] }),
    ("__init__", fun eng args _ => do
      match args with
      | .ref id :: rest =>
        checkCount "set" 0 1 rest.length
        let items ← match rest with
          | [v] => itemsOf eng v
          | _ => pure []
        setData id (.set (← items.foldlM (addMember eng) []))
      | _ => pure ()
      return .none)]),
  ("frozenset", [("__new__", fun eng args _ => do
    let (cls, rest) ← classArgument "frozenset" args
    checkCount "frozenset" 0 1 rest.length
    let items ← match rest with
      | [v] => itemsOf eng v
      | _ => pure []
    alloc { cls, data := .set (← items.foldlM (addMember eng) []) })]),
  ("range", [("__new__", fun eng args _ => do
    let (_, rest) ← classArgument "range" args
    checkCount "range" 1 3 rest.length
    let ns ← rest.mapM (needInt eng)
    match ns with
    | [stop] => return .range 0 stop 1
    | [start, stop] => return .range start stop 1
    | [start, stop, step] =>
      if step = 0 then fail "ValueError" "range() arg 3 must not be zero" else return .range start stop step
    | _ => return .none)]),
  ("slice", [("__new__", fun _ args _ => do
    let (_, rest) ← classArgument "slice" args
    checkCount "slice" 1 3 rest.length
    match rest with
    | [stop] => return .slice .none stop .none
    | [start, stop] => return .slice start stop .none
    | _ => return .slice (rest.getD 0 .none) (rest.getD 1 .none) (rest.getD 2 .none))]),
  ("property", [
    ("__new__", fun _ args kw => do
      let (cls, rest) ← classArgument "property" args
      let part (i : Nat) (name : String) : Value := (rest[i]? <|> named? kw name).getD .none
      alloc { cls, data := .property (part 0 "fget") (part 1 "fset") }),
    ("__init__", fun _ _ _ => return .none),
    methodOne "property" "getter" fun _ self f => do
      match self with
      | .ref id => match ← data id with
        | .property _ setter => alloc { cls := (← object id).cls, data := .property f setter }
        | _ => return .none
      | _ => return .none,
    methodOne "property" "setter" fun _ self f => do
      match self with
      | .ref id => match ← data id with
        | .property getter _ => alloc { cls := (← object id).cls, data := .property getter f }
        | _ => return .none
      | _ => return .none]),
  ("staticmethod", [
    ("__new__", fun _ args _ => do
      let (cls, rest) ← classArgument "staticmethod" args
      checkCount "staticmethod" 1 1 rest.length
      alloc { cls, data := .staticMethod (rest.getD 0 .none) }),
    ("__init__", fun _ _ _ => return .none)]),
  ("classmethod", [
    ("__new__", fun _ args _ => do
      let (cls, rest) ← classArgument "classmethod" args
      checkCount "classmethod" 1 1 rest.length
      alloc { cls, data := .classMethod (rest.getD 0 .none) }),
    ("__init__", fun _ _ _ => return .none)]),
  ("super", [
    ("__new__", fun _ args _ => newSuper (args.drop 1)),
    ("__init__", fun _ _ _ => return .none)]),
  ("map", [iteratorType .map fun eng args _ => do
    match args with
    | f :: first :: more => return .map f (← (first :: more).mapM (iter eng))
    | _ => typeError "map() must have at least two arguments."]),
  ("filter", [iteratorType .filter fun eng args _ => do
    checkCount "filter" 2 2 args.length
    return .filter (args.getD 0 .none) (← iter eng (args.getD 1 .none))]),
  ("zip", [iteratorType .zip fun eng args _ => return .zip (← args.mapM (iter eng))]),
  ("enumerate", [iteratorType .enumerate fun eng args kw => do
    checkCount "enumerate" 1 2 args.length
    let start := (args[1]? <|> named? kw "start").getD (.int 0)
    return .enumerate (← needInt eng start) (← iter eng (args.getD 0 .none))]),
  ("reversed", [iteratorType .reversed fun _ args _ => do
    checkCount "reversed" 1 1 args.length
    let v := args.getD 0 .none
    let items? ← match ← v.plain with
      | .str s => pure (some (s.map fun c => Value.str [c]))
      | .tuple items => pure (some items)
      | .range a b c => pure (some ((rangeItems a c (rangeLength a b c)).map .int))
      | .bytes b => pure (some (b.map fun x => .int x.toNat))
      | .ref id => match ← data id with
        | .list items => pure (some items.toList)
        | .dict entries => pure (some (entries.map (·.1)))
        | _ => pure none
      | _ => pure none
    match items? with
    | some items => return .items items.reverse
    | none => typeError ("'" ++ (← v.typeName) ++ "' object is not reversible")]),
  ("module", [
    ("__new__", fun _ args _ => do
      let (cls, _) ← classArgument "module" args
      let names ← dictOf []
      alloc { cls, data := .module (names.id?.getD 0) }),
    ("__init__", fun _ args kw => do
      match args with
      | .ref id :: rest => match ← data id with
        | .module names =>
          match rest.head? <|> named? kw "name" with
          | none => typeError "module() missing required argument 'name' (pos 1)"
          | some name =>
            setName names "__name__" (.str (← needText "module() argument 'name'" name))
            setName names "__doc__" ((rest[1]? <|> named? kw "doc").getD .none)
            setName names "__package__" .none
            setName names "__loader__" .none
            setName names "__spec__" .none
            return .none
        | _ => return .none
      | _ => return .none)]),
  ("BaseException", [
    ("__new__", fun _ args _ => do
      let (cls, rest) ← classArgument "BaseException" args
      newException cls rest),
    ("__init__", fun _ args kw => do
      match args with
      | .ref id :: rest =>
        initException id rest kw
        return .none
      | _ => return .none)])]

end PluginHost.Python
