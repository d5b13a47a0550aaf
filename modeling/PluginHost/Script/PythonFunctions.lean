import PluginHost.Script.PythonEncoding
import PluginHost.Script.PythonSorting

/-!
# The functions that every Python program has

Their table is `functions`. Some look at the surroundings of the call: `super()` at the class that the running function was
defined in, `globals()` and `locals()` at its variables.
-/

namespace PluginHost.Python

open Run

/-- The module of a name, if it can be imported. -/
def importModule (name : String) : Run Value := do
  match ← lookName (← get).modules name with
  | some .none =>
    throwValue (← exception "ModuleNotFoundError"
      [.ofString ("import of " ++ name ++ " halted; None in sys.modules")] [("name", .ofString name)])
  | some m => return m
  | none =>
    throwValue (← exception "ModuleNotFoundError" [.ofString ("No module named '" ++ name ++ "'")]
      [("name", .ofString name), ("msg", .ofString ("No module named '" ++ name ++ "'"))])

/-- The function that is running. -/
def currentEnv : Run (Option Env) := return (← get).frames.head?

/-- The variables of a scope. -/
def scopeOf (id : Nat) : Run Scope := do
  match ← data id with
  | .scope s => return s
  | _ => return { names := [] }

/-- The class that a function was defined in, found along the scopes around it. The fuel is the number of scopes. -/
def definingClass : Nat → Option Nat → Run (Option Value)
  | 0, _ | _, none => return none
  | fuel + 1, some id => do
    let s ← scopeOf id
    match s.vars.find? (·.1 = "__class__") with
    | some (_, v) => return some v
    | none => definingClass fuel s.parent

/-- The object seen as an instance of what comes behind a class. -/
def newSuper (args : List Value) : Run Value := do
  let make (cls self : Value) : Run Value := do
    match ← cls.class? with
    | some (id, _) =>
      let fits ← match ← self.class? with
        | some (_, c) => pure (c.mro.contains id || (← self.isInstance id))
        | none => self.isInstance id
      if fits then alloc { cls := BaseType.superType.id, data := .super id self }
      else typeError "super(type, obj): obj must be an instance or subtype of type"
    | none => typeError ("super() argument 1 must be a type, not " ++ (← cls.typeName))
  match args with
  | [] => do
    match (← currentEnv).bind (·.scope) with
    | none => fail "RuntimeError" "super(): no arguments"
    | some id =>
      let s ← scopeOf id
      match s.names.head?.bind fun n => s.vars.find? (·.1 = n) with
      | none => fail "RuntimeError" "super(): no arguments"
      | some (_, self) => match ← definingClass recursionFuel (some id) with
        | some cls => make cls self
        | none => fail "RuntimeError" "super(): __class__ cell not found"
  | [cls, self] => make cls self
  | _ => typeError ("super expected at most 2 arguments, got " ++ toString args.length)

/-- The names that a value has attributes for. -/
def attrNames (v : Value) : Run (List String) := do
  let shared ← (← classInfo (← v.typeId)).mro.mapM fun c => return (← object c).attrs.map (·.1)
  let own ← match v with
    | .ref id => match ← data id with
      | .module names => pure ((← entriesOf names).filterMap fun (k, _) => match k with
        | .str s => some s.string
        | _ => none)
      | .cls c => do pure ((← c.mro.mapM fun b => return (← object b).attrs.map (·.1)).flatten)
      | _ => pure ((← object id).attrs.map (·.1))
    | _ => pure []
  return ((own ++ shared.flatten).eraseDups.toArray.qsort (· < ·)).toList

/-- The functions that every program has. -/
def functions : List (String × NativeBody) := [
  oneArgument "abs" fun eng v => do
    match ← v.special? "__abs__" with
    | some f => eng.call f [v] []
    | none => match ← v.plain with
      | .float x => return .float x.abs
      | .complex re im => return .float (re * re + im * im).sqrt
      | p => match p.int? with
        | some n => return .int n.natAbs
        | none => typeError ("bad operand type for abs(): '" ++ (← v.typeName) ++ "'"),
  oneArgument "all" fun eng v => return .bool (← (← itemsOf eng v).allM (truth eng)),
  oneArgument "any" fun eng v => return .bool (← (← itemsOf eng v).anyM (truth eng)),
  oneArgument "ascii" fun eng v => return .str (← asciiRepr eng v),
  oneArgument "bin" fun eng v => return .ofString (showIn 2 "0b" (← needInt eng v)),
  oneArgument "callable" fun _ v => return .bool (← isCallable v),
  oneArgument "chr" fun eng v => do
    let n ← needInt eng v
    if n < 0 ∨ 0x10FFFF < n then fail "ValueError" "chr() arg not in range(0x110000)" else return .str [n.toNat],
  someArguments "delattr" 2 2 fun eng args => do
    delAttr eng (args.getD 0 .none) (← needName "attribute name" (args.getD 1 .none))
    return .none,
  ("dir", fun eng args _ => do
    match args with
    | [] => do
      let env ← currentEnv
      let names ← entriesOf ((env.map (·.globals)).getD (← get).globals)
      list (← sortedItems eng "dir" (names.map (·.1)) [])
    | v :: _ => list ((← attrNames v).map .ofString)),
  someArguments "divmod" 2 2 fun eng args => do
    let a := args.getD 0 .none
    let b := args.getD 1 .none
    return .tuple [← binary eng .floorDiv false a b, ← binary eng .mod false a b],
  someArguments "format" 1 2 fun eng args => do
    return .str (← format eng (args.getD 0 .none) (← match args[1]? with
      | some v => needText "format() argument 2" v
      | none => pure [])),
  someArguments "getattr" 2 3 fun eng args => do
    let v := args.getD 0 .none
    let name ← needName "attribute name" (args.getD 1 .none)
    match args[2]? with
    | none => getAttr eng v name
    | some default => match ← attempt (getAttr eng v name) with
      | .ok a => return a
      | .error e => if ← isRaised e "AttributeError" then return default else throwValue e,
  ("globals", fun _ args _ => do
    unless args.isEmpty do typeError ("globals() takes no arguments (" ++ toString args.length ++ " given)")
    return .ref (((← currentEnv).map (·.globals)).getD (← get).globals)),
  someArguments "hasattr" 2 2 fun eng args => do
    match ← attempt (getAttr eng (args.getD 0 .none) (← needName "attribute name" (args.getD 1 .none))) with
    | .ok _ => return .bool true
    | .error e => if ← isRaised e "AttributeError" then return .bool false else throwValue e,
  oneArgument "hash" fun eng v => do
    match ← v.special? "__hash__" with
    | some .none => typeError ("unhashable type: '" ++ (← v.typeName) ++ "'")
    | some f => eng.call f [v] []
    | none =>
      checkHashable eng recursionFuel v
      match ← v.plain with
      | .ref id => return .int (id * 16)
      | p => return .int (p.integral?.getD 0),
  oneArgument "hex" fun eng v => return .ofString (showIn 16 "0x" (← needInt eng v)),
  oneArgument "id" fun _ v => return .int (match v with
    | .ref id => 0x7f1000000000 + 16 * (id : Int)
    | _ => 0x7f0000000000),
  someArguments "isinstance" 2 2 fun _ args => do
    return .bool (← isInstanceOf (args.getD 0 .none) recursionFuel (args.getD 1 .none)),
  someArguments "issubclass" 2 2 fun _ args => do
    match ← (args.getD 0 .none).class? with
    | none => typeError "issubclass() arg 1 must be a class"
    | some (id, _) =>
      let bases := match args.getD 1 .none with
        | .tuple items => items
        | v => [v]
      return .bool (← bases.anyM fun b => do
        match ← b.class? with
        | some (base, _) => isSubclass id base
        | none => typeError "issubclass() arg 2 must be a class, a tuple of classes, or a union"),
  someArguments "iter" 1 2 fun eng args => iter eng (args.getD 0 .none),
  oneArgument "len" fun eng v => do
    match ← length? eng v with
    | some n => return .int n
    | none => typeError ("object of type '" ++ (← v.typeName) ++ "' has no len()"),
  ("locals", fun _ _ _ => do
    match ← currentEnv with
    | some { scope := some id, .. } => dictOf (← scopeOf id).vars
    | some env => return .ref env.globals
    | none => return .ref (← get).globals),
  ("max", fun eng args kw => extreme eng "max" .gt args kw),
  ("min", fun eng args kw => extreme eng "min" .lt args kw),
  someArguments "next" 1 2 fun eng args => do
    match ← next eng (args.getD 0 .none), args[1]? with
    | some v, _ => return v
    | none, some default => return default
    | none, none => throwValue (← exception "StopIteration" [] [("value", .none)]),
  oneArgument "oct" fun eng v => return .ofString (showIn 8 "0o" (← needInt eng v)),
  oneArgument "ord" fun _ v => do
    match ← v.plain with
    | .str [n] => return .int n
    | .bytes [b] => return .int b.toNat
    | .str s => typeError ("ord() expected a character, but string of length " ++ toString s.length ++ " found")
    | _ => typeError ("ord() expected string of length 1, but " ++ (← v.typeName) ++ " found"),
  someArguments "pow" 2 3 fun eng args => do
    match args with
    | [a, b, m] =>
      let a ← needInt eng a
      let b ← needInt eng b
      let m ← needInt eng m
      if m = 0 then fail "ValueError" "pow() 3rd argument cannot be 0" else return .int ((a ^ b.toNat).fmod m)
    | _ => binary eng .pow false (args.getD 0 .none) (args.getD 1 .none),
  ("print", fun eng args kw => do
    match kw.find? fun a => !(["sep", "end", "file", "flush"].contains a.1) with
    | some (n, _) => typeError ("'" ++ n ++ "' is an invalid keyword argument for print()")
    | none =>
      let option (name : String) (default : Text) : Run Text := do
        match kw.find? (·.1 = name) with
        | some (_, .none) | none => return default
        | some (_, v) => match ← v.plain with
          | .str s => return s
          | _ => typeError (name ++ " must be None or a string, not " ++ (← v.typeName))
      let sep ← option "sep" [32]
      let stop ← option "end" [10]
      let texts ← args.mapM (str eng)
      let line := (Text.join sep texts ++ stop).string
      modify fun s => { s with output := s.output ++ line }
      return .none),
  oneArgument "repr" fun eng v => return .str (← repr eng v),
  someArguments "round" 1 2 fun eng args => do
    let v := args.getD 0 .none
    match ← v.special? "__round__" with
    | some f => eng.call f args []
    | none => match ← v.plain, (args[1]?).getD .none with
      | .float x, .none => match roundFloat? x with
        | some n => return .int n
        | none =>
          if x.isNaN then fail "ValueError" "cannot convert float NaN to integer"
          else fail "OverflowError" "cannot convert float infinity to integer"
      | .float x, digits =>
        let n ← needInt eng digits
        if x.isNaN || x.isInf then return .float x
        else
          let text := Decimal.fixed n.toNat (.ofFloat x)
          return .float ((readFloat? (Text.ofString text)).getD x)
      | p, _ => match p.int? with
        | some n => return .int n
        | none => typeError ("type " ++ (← v.typeName) ++ " doesn't define __round__ method"),
  someArguments "setattr" 3 3 fun eng args => do
    setAttr eng (args.getD 0 .none) (← needName "attribute name" (args.getD 1 .none)) (args.getD 2 .none)
    return .none,
  ("sorted", fun eng args kw => do
    match args with
    | [v] => list (← sortedItems eng "sort" (← itemsOf eng v) kw)
    | _ => typeError ("sorted expected 1 argument, got " ++ toString args.length)),
  ("sum", fun eng args kw => do
    checkCount "sum" 1 2 args.length
    let start := (args[1]? <|> named? kw "start").getD (.int 0)
    match start with
    | .str _ => typeError "sum() can't sum strings [use ''.join(seq) instead]"
    | _ => (← itemsOf eng (args.getD 0 .none)).foldlM (binary eng .add false) start),
  ("vars", fun eng args _ => do
    match args with
    | [] => match ← currentEnv with
      | some { scope := some id, .. } => dictOf (← scopeOf id).vars
      | some env => return .ref env.globals
      | none => return .ref (← get).globals
    | v :: _ => match ← attempt (getAttr eng v "__dict__") with
      | .ok d => return d
      | .error _ => typeError "vars() argument must have __dict__ attribute"),
  ("__import__", fun _ args _ => do importModule (← needName "module name" (args.getD 0 .none)))]

end PluginHost.Python
