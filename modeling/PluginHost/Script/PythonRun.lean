import PluginHost.Script.PythonLibrary

/-!
# Running Python programs

Expressions give values, statements say how the statements behind them go on. Each operation that can fail notes its place in
the exception that it raises; a function that is left by an exception lets the place of its call be noted as well. The fuel
bounds how deep evaluation goes, loops included; a program that runs out of it has no result.
-/

namespace PluginHost.Python

open Run

/-- How a block of statements ends. -/
inductive Flow
  | next
  | return (v : Value)
  | break
  | continue

/-! ## Names -/

/-- What a name is bound to along the scopes around a function. The fuel is the number of scopes. -/
def lookScopes (name : String) : Nat → Option Nat → Run (Option Value)
  | 0, _ | _, none => return none
  | fuel + 1, some id => do
    let s ← scopeOf id
    if s.names.contains name then match s.vars.find? (·.1 = name) with
      | some (_, v) => return some v
      | none =>
        throwValue (← exception "NameError"
          [.ofString ("cannot access free variable '" ++ name
            ++ "' where it is not associated with a value in enclosing scope")] [("name", .ofString name)])
    else lookScopes name fuel s.parent

/-- The value of a global name, or of one that every program has. -/
def lookGlobal (env : Env) (name : String) : Run Value := do
  match ← lookName env.globals name with
  | some v => return v
  | none => match ← lookName (← get).builtins name with
    | some v => return v
    | none =>
      throwValue (← exception "NameError" [.ofString ("name '" ++ name ++ "' is not defined")] [("name", .ofString name)])

/-- Raises the exception for a variable of a function that has no value. -/
def unbound {α : Type} (name : String) : Run α :=
  fail "UnboundLocalError" ("cannot access local variable '" ++ name ++ "' where it is not associated with a value")

/-- The value of a name. -/
def lookUp (env : Env) (name : String) : Run Value := do
  let ofClass ← match env.classBody with
    | some id => do
      let s ← scopeOf id
      pure ((s.vars.find? (·.1 = name)).map (·.2))
    | none => pure none
  match ofClass, env.scope with
  | some v, _ => return v
  | none, none => lookGlobal env name
  | none, some id => do
    let s ← scopeOf id
    if env.classBody.isNone && s.names.contains name then match s.vars.find? (·.1 = name) with
      | some (_, v) => return v
      | none => unbound name
    else if env.classBody.isNone && s.globals.contains name then lookGlobal env name
    else match ← lookScopes name recursionFuel (if env.classBody.isSome then some id else s.parent) with
      | some v => return v
      | none => lookGlobal env name

/-- Gives a variable of a scope a value. -/
def setVar (id : Nat) (name : String) (v : Value) : Run Unit :=
  update id fun o => match o.data with
    | .scope s => { o with data := .scope { s with vars := putAttr s.vars name v } }
    | _ => o

/-- Takes the value of a variable of a scope away. -/
def dropVar (id : Nat) (name : String) : Run Unit :=
  update id fun o => match o.data with
    | .scope s => { o with data := .scope { s with vars := s.vars.filter (·.1 ≠ name) } }
    | _ => o

/-- The scope, along those around a function, that a name belongs to. The fuel is the number of scopes. -/
def owningScope (name : String) : Nat → Option Nat → Run (Option Nat)
  | 0, _ | _, none => return none
  | fuel + 1, some id => do
    let s ← scopeOf id
    if s.globals.contains name then return none
    else if s.names.contains name then return some id
    else owningScope name fuel s.parent

/-- Where a name is bound by an assignment: a scope, or the global names. -/
def bindingScope (env : Env) (name : String) : Run (Option Nat) := do
  match env.classBody with
  | some id => if (← scopeOf id).globals.contains name then return none else return some id
  | none => owningScope name recursionFuel env.scope

/-- Binds a name. -/
def bindName (env : Env) (name : String) (v : Value) : Run Unit := do
  match ← bindingScope env name with
  | some id => setVar id name v
  | none => setName env.globals name v

/-- Removes a name. -/
def unbindName (env : Env) (name : String) : Run Unit := do
  match ← bindingScope env name with
  | some id =>
    if (← scopeOf id).vars.any (·.1 = name) then dropVar id name
    else if env.classBody.isSome then
      throwValue (← exception "NameError" [.ofString ("name '" ++ name ++ "' is not defined")] [("name", .ofString name)])
    else unbound name
  | none =>
    if (← lookName env.globals name).isSome then
      setData env.globals (.dict (Dict.erase (← get).heap (← entriesOf env.globals) (.ofString name)))
    else
      throwValue (← exception "NameError" [.ofString ("name '" ++ name ++ "' is not defined")] [("name", .ofString name)])

/-- Splits values among targets, of which the one at a place may take several. -/
def spreadOver (count : Nat) (starred : Option Nat) (vs : List Value) : Run (List Value) := do
  match starred with
  | none =>
    if vs.length < count then
      fail "ValueError" ("not enough values to unpack (expected " ++ toString count ++ ", got " ++ toString vs.length ++ ")")
    else if count < vs.length then fail "ValueError" ("too many values to unpack (expected " ++ toString count ++ ")")
    else return vs
  | some i =>
    if vs.length + 1 < count then
      fail "ValueError" ("not enough values to unpack (expected at least " ++ toString (count - 1) ++ ", got "
        ++ toString vs.length ++ ")")
    else
      let behind := count - 1 - i
      let middle ← list ((vs.drop i).take (vs.length - i - behind))
      return vs.take i ++ [middle] ++ vs.drop (vs.length - behind)

/-- The full name of a function, as reports of calls give it. -/
def calledName (f : Value) : Run String := do
  match f with
  | .native g | .nativeOf _ g => return if g.owner = "" then g.name else g.owner ++ "." ++ g.name
  | .ref id => match ← data id with
    | .function g => return "__main__." ++ g.qualname
    | .method _ (.ref g) => match ← data g with
      | .function g => return "__main__." ++ g.qualname
      | _ => return "function"
    | .cls c => return c.path
    | _ => return (← f.typeName) ++ " object"
  | _ => return (← f.typeName) ++ " object"

/-- The bytes, numbers and texts of a program. -/
def Literal.value : Literal → Value
  | .none => .none
  | .ellipsis => .ellipsis
  | .bool b => .bool b
  | .int n => .int n
  | .float x => .float x
  | .imaginary x => .complex 0.0 x
  | .str s => .str s
  | .bytes b => .bytes b

/-- Runs a handler of an exception: it is the one being handled meanwhile. -/
def handling {α : Type} (e : Value) (x : Run α) : Run α := fun s =>
  let (r, s') := x { s with handled := e :: s.handled }
  (r, { s' with handled := s.handled })

mutual

/-- Calls a value. -/
def callValue : Nat → Value → List Value → List (String × Value) → Run Value
  | 0, _, _, _ => throw .exhausted
  | fuel + 1, f, args, kw => do
    let eng : Engine := ⟨callValue fuel, resume fuel⟩
    match f with
    | .native g => callNative eng g args kw
    | .nativeOf self g => callNative eng g (self :: args) kw
    | .ref id => do
      let o ← object id
      match o.data with
      | .function g => callFunction fuel g args kw
      | .method self g => callValue fuel g (self :: args) kw
      | .staticMethod g => callValue fuel g args kw
      | .cls _ => instantiate eng id args kw
      | _ => match ← classAttr o.cls "__call__" with
        | some g => nested " while calling a Python object" do callValue fuel (← bindTo eng f o.cls g) args kw
        | none => typeError ("'" ++ (← f.typeName) ++ "' object is not callable")
    | _ => typeError ("'" ++ (← f.typeName) ++ "' object is not callable")

/-- Calls a function of a program. -/
def callFunction : Nat → Function → List Value → List (String × Value) → Run Value
  | 0, _, _, _ => throw .exhausted
  | fuel + 1, f, args, kw => do
    let code := f.code
    let vars ← bindArguments { name := f.qualname, params := code.params.map Param.name, positionalOnly := code.positionalOnly,
                               defaults := f.defaults, rest := code.rest, keywordOnly := code.keywordOnly.map Param.name,
                               keywordDefaults := f.keywordDefaults, restKeywords := code.restKeywords } args kw
    let scope ← alloc { cls := 0, data := .scope { names := code.locals, globals := code.globals, vars, parent := f.env.scope } }
    let env := { f.env with function := code.name, path := f.qualname ++ ".<locals>.", scope := scope.id?, classBody := none }
    if code.yields then iterator .generator (.call f env)
    else inFrame env do
      match ← execAll fuel env code.body with
      | .return v => return v
      | _ => return .none

/-- The next value of a comprehension or of a function that hands values out. -/
def resume : Nat → Nat → Run (Option Value)
  | 0, _ => throw .exhausted
  | fuel + 1, id => do
    match ← data id with
    | .iterator (.comp item clauses entered env) =>
      inFrame env (resumeComp fuel id item clauses entered env)
    | .iterator (.call f env) =>
      -- the values are collected while the function runs
      let made ← list []
      inFrame env do
        let _ ← execAll fuel { env with yields := made.id? } f.code.body
      let items ← match made with
        | .ref l => match ← data l with
          | .list items => pure items.toList
          | _ => pure []
        | _ => pure []
      setData id (.iterator (.items (items.drop 1)))
      return items.head?
    | _ => return none

/-- Goes on with a comprehension that gives its items one by one. -/
def resumeComp : Nat → Nat → Expr → List Clause → List Value → Env → Run (Option Value)
  | 0, _, _, _, _, _ => throw .exhausted
  | fuel + 1, id, item, clauses, entered, env => do
    let eng : Engine := ⟨callValue fuel, resume fuel⟩
    match entered with
    | [] =>
      setData id (.iterator (.items []))
      return none
    | it :: outer => match clauses[outer.length]? with
      | none => return none
      | some (.mk target _ conditions) =>
        match ← at_ env item.span (next eng it) with
        | none => resumeComp fuel id item clauses outer env
        | some v =>
          assign fuel env target v
          if ← holdAll fuel env conditions then match clauses[entered.length]? with
            | none =>
              setData id (.iterator (.comp item clauses entered env))
              return some (← eval fuel env item)
            | some (.mk _ iterable _) =>
              let inner ← at_ env iterable.span (iter eng (← eval fuel env iterable))
              resumeComp fuel id item clauses (inner :: entered) env
          else resumeComp fuel id item clauses entered env

/-- Whether conditions hold. -/
def holdAll : Nat → Env → List Expr → Run Bool
  | 0, _, _ => throw .exhausted
  | _ + 1, _, [] => return true
  | fuel + 1, env, e :: rest => do
    if ← holds fuel env e then holdAll fuel env rest else return false

/-- Whether a condition holds. -/
def holds : Nat → Env → Expr → Run Bool
  | 0, _, _ => throw .exhausted
  | fuel + 1, env, e => do
    let v ← eval fuel env e
    at_ env e.span (truth ⟨callValue fuel, resume fuel⟩ v)

/-- Runs the loops of a comprehension. What they make is left to the last argument. -/
def runClauses : Nat → Env → Span → List Clause → Run Unit → Run Unit
  | 0, _, _, _, _ => throw .exhausted
  | _ + 1, _, _, [], emit => emit
  | fuel + 1, env, span, .mk target iterable conditions :: rest, emit => do
    let v ← eval fuel env iterable
    let it ← at_ env span (iter ⟨callValue fuel, resume fuel⟩ v)
    runClause fuel env span it target conditions rest emit

/-- Runs a loop of a comprehension over an iterator. -/
def runClause : Nat → Env → Span → Value → Expr → List Expr → List Clause → Run Unit → Run Unit
  | 0, _, _, _, _, _, _, _ => throw .exhausted
  | fuel + 1, env, span, it, target, conditions, rest, emit => do
    match ← at_ env span (next ⟨callValue fuel, resume fuel⟩ it) with
    | none => return ()
    | some v =>
      assign fuel env target v
      if ← holdAll fuel env conditions then runClauses fuel env span rest emit
      runClause fuel env span it target conditions rest emit

/-- Runs a comprehension as a function of its own; the iterator of the first loop is made outside. -/
def comprehend : Nat → Env → String → List String → List Clause → Span → (Env → Run Unit) → Run Unit
  | 0, _, _, _, _, _, _ => throw .exhausted
  | fuel + 1, env, name, locals, clauses, span, emit => do
    match clauses with
    | [] => return ()
    | .mk target iterable conditions :: rest =>
      let v ← eval fuel env iterable
      let it ← at_ env span (iter ⟨callValue fuel, resume fuel⟩ v)
      let inner ← innerEnv env name locals
      at_ env span (inFrame inner (runClause fuel inner span it target conditions rest (emit inner)))
where
  /-- The surroundings in which the loops run. -/
  innerEnv (env : Env) (name : String) (locals : List String) : Run Env := do
    let scope ← alloc { cls := 0, data := .scope { names := locals, parent := env.scope } }
    return { env with function := name, path := env.path ++ name ++ ".<locals>.", scope := scope.id?, classBody := none }

/-- The values of expressions, of which some are spread. -/
def evalItems : Nat → Env → Span → Bool → List Expr → Run (List Value)
  | 0, _, _, _, _ => throw .exhausted
  | _ + 1, _, _, _, [] => return []
  | fuel + 1, env, span, inSet, .starred e _ :: rest => do
    let v ← eval fuel env e
    let eng : Engine := ⟨callValue fuel, resume fuel⟩
    let vs ← match ← attempt (iter eng v) with
      | .ok it => at_ env span (itemsOf eng it)
      | .error e =>
        if inSet then at_ env span (throwValue e)
        else at_ env span (typeError ("Value after * must be an iterable, not " ++ (← v.typeName)))
    return vs ++ (← evalItems fuel env span inSet rest)
  | fuel + 1, env, span, inSet, e :: rest => do
    let v ← eval fuel env e
    return v :: (← evalItems fuel env span inSet rest)

/-- The arguments of a call. -/
def evalArgs : Nat → Env → String → List Arg → List Value → List (String × Value) → Run (List Value × List (String × Value))
  | 0, _, _, _, _, _ => throw .exhausted
  | _ + 1, _, _, [], args, kw => return (args, kw)
  | fuel + 1, env, f, a :: rest, args, kw => do
    let eng : Engine := ⟨callValue fuel, resume fuel⟩
    match a with
    | .positional e => do
      let v ← eval fuel env e
      evalArgs fuel env f rest (args ++ [v]) kw
    | .spread e => do
      let v ← eval fuel env e
      match ← attempt (iter eng v) with
      | .ok it => evalArgs fuel env f rest (args ++ (← itemsOf eng it)) kw
      | .error _ =>
        let place := if args = [] then f ++ "() argument" else "Value"
        typeError (place ++ " after * must be an iterable, not " ++ (← v.typeName))
    | .keyword n e => do
      let v ← eval fuel env e
      evalArgs fuel env f rest args (kw ++ [(n, v)])
    | .merge e => do
      let v ← eval fuel env e
      let entries ← match v with
        | .ref id => match ← data id with
          | .dict entries => pure entries
          | _ => typeError (f ++ "() argument after ** must be a mapping, not " ++ (← v.typeName))
        | _ => typeError (f ++ "() argument after ** must be a mapping, not " ++ (← v.typeName))
      let named ← entries.mapM fun (k, v) => do
        match ← k.plain with
        | .str s =>
          if kw.any (·.1 = s.string) then
            typeError (f ++ "() got multiple values for keyword argument '" ++ s.string ++ "'")
          else return (s.string, v)
        | _ => typeError "keywords must be strings"
      evalArgs fuel env f rest args (kw ++ named)

/-- The value of the first operand that decides a chain of alternatives or conditions. -/
def evalChain : Nat → Env → Bool → List Expr → Run Value
  | 0, _, _, _ => throw .exhausted
  | _ + 1, _, _, [] => return .none
  | fuel + 1, env, _, [e] => eval fuel env e
  | fuel + 1, env, isAnd, e :: rest => do
    let v ← eval fuel env e
    if (← at_ env e.span (truth ⟨callValue fuel, resume fuel⟩ v)) = isAnd then evalChain fuel env isAnd rest else return v

/-- The value of comparisons in a row; each operand is evaluated once. -/
def evalComparisons : Nat → Env → Span → Value → List (CmpOp × Expr) → Run Value
  | 0, _, _, _, _ => throw .exhausted
  | _ + 1, _, _, v, [] => return v
  | fuel + 1, env, span, left, (op, e) :: rest => do
    let eng : Engine := ⟨callValue fuel, resume fuel⟩
    let right ← eval fuel env e
    let r ← at_ env span (compare eng op left right)
    match rest with
    | [] => return r
    | rest => if ← at_ env span (truth eng r) then evalComparisons fuel env span right rest else return r

/-- The entries of a dictionary. -/
def evalEntries : Nat → Env → Span → Nat → List (Option Expr × Expr) → Run Unit
  | 0, _, _, _, _ => throw .exhausted
  | _ + 1, _, _, _, [] => return ()
  | fuel + 1, env, span, id, (k, e) :: rest => do
    let eng : Engine := ⟨callValue fuel, resume fuel⟩
    match k with
    | some k =>
      let key ← eval fuel env k
      let v ← eval fuel env e
      at_ env span (setItemOf eng id key v)
    | none =>
      let v ← eval fuel env e
      match v with
      | .ref m => match ← data m with
        | .dict entries => for (key, x) in entries do setItemOf eng id key x
        | _ => at_ env span (typeError ("'" ++ (← v.typeName) ++ "' object is not a mapping"))
      | _ => at_ env span (typeError ("'" ++ (← v.typeName) ++ "' object is not a mapping"))
    evalEntries fuel env span id rest

/-- The text of pieces, of which some are values. -/
def evalParts : Nat → Env → Span → List Part → Run Text
  | 0, _, _, _ => throw .exhausted
  | _ + 1, _, _, [] => return []
  | fuel + 1, env, span, .text s :: rest => do
    return s ++ (← evalParts fuel env span rest)
  | fuel + 1, env, span, .value e conversion formatParts :: rest => do
    let eng : Engine := ⟨callValue fuel, resume fuel⟩
    let v ← eval fuel env e
    let spec ← evalParts fuel env span formatParts
    let text ← at_ env span do
      match conversion with
      | some 'r' => format eng (.str (← repr eng v)) spec
      | some 's' => format eng (.str (← str eng v)) spec
      | some 'a' => format eng (.str (← asciiRepr eng v)) spec
      | _ => format eng v spec
    return text ++ (← evalParts fuel env span rest)

/-- The value of an expression. -/
def eval : Nat → Env → Expr → Run Value
  | 0, _, _ => throw .exhausted
  | fuel + 1, env, e => do
    let eng : Engine := ⟨callValue fuel, resume fuel⟩
    match e with
    | .literal v _ => return v.value
    | .name n span => at_ env span (lookUp env n)
    | .tuple items span => return .tuple (← evalItems fuel env span false items)
    | .list items span => list (← evalItems fuel env span false items)
    | .set items span => do
      let vs ← evalItems fuel env span true items
      alloc { cls := BaseType.set.id, data := .set (← at_ env span (vs.foldlM (addMember eng) [])) }
    | .dict entries span => do
      let d ← dictOf []
      evalEntries fuel env span (d.id?.getD 0) entries
      return d
    | .unary op operand span => do
      let v ← eval fuel env operand
      at_ env span (unary eng op v)
    | .binary op left right span => do
      let a ← eval fuel env left
      let b ← eval fuel env right
      at_ env span (binary eng op false a b)
    | .all operands _ => evalChain fuel env true operands
    | .any operands _ => evalChain fuel env false operands
    | .compare first rest span => do
      let v ← eval fuel env first
      evalComparisons fuel env span v rest
    | .call f args span => do
      let g ← eval fuel env f
      let (vs, kw) ← at_ env span (do evalArgs fuel env (← calledName g) args [] [])
      at_ env span (callValue fuel g vs kw)
    | .field object name span => do
      let v ← eval fuel env object
      at_ env span (getAttr eng v name)
    | .subscript object index span => do
      let v ← eval fuel env object
      let i ← eval fuel env index
      at_ env span (getItem eng v i)
    | .slice a b c _ => do
      let part (e : Option Expr) : Run Value := match e with
        | some e => eval fuel env e
        | none => return .none
      return .slice (← part a) (← part b) (← part c)
    | .lambda code _ => makeFunction fuel env code
    | .choose condition yes no _ => do
      if ← holds fuel env condition then eval fuel env yes else eval fuel env no
    | .comp kind item clauses locals span => do
      match kind with
      | .list => do
        let made ← list []
        comprehend fuel env "<listcomp>" locals clauses span fun inner => do
          let v ← eval fuel inner item
          push (made.id?.getD 0) v
        return made
      | .set => do
        let made ← alloc { cls := BaseType.set.id, data := .set [] }
        comprehend fuel env "<setcomp>" locals clauses span fun inner => do
          let v ← eval fuel inner item
          match ← data (made.id?.getD 0) with
          | .set items => setData (made.id?.getD 0) (.set (← at_ inner span (addMember eng items v)))
          | _ => return ()
        return made
      | .generator => match clauses with
        | [] => return .none
        | .mk _ iterable _ :: _ => do
          let v ← eval fuel env iterable
          let it ← at_ env span (iter eng v)
          let scope ← alloc { cls := 0, data := .scope { names := locals, parent := env.scope } }
          let inner := { env with function := "<genexpr>", path := env.path ++ "<genexpr>.<locals>.", scope := scope.id?,
                                  classBody := none }
          iterator .generator (.comp item clauses [it] inner)
    | .dictComp key value clauses locals span => do
      let made ← dictOf []
      comprehend fuel env "<dictcomp>" locals clauses span fun inner => do
        let k ← eval fuel inner key
        let v ← eval fuel inner value
        at_ inner span (setItemOf eng (made.id?.getD 0) k v)
      return made
    | .starred e _ => eval fuel env e
    | .walrus name value _ => do
      let v ← eval fuel env value
      bindName env name v
      return v
    | .joined parts span => return .str (← evalParts fuel env span parts)
    | .yield value _ => do
      let v ← match value with
        | some e => eval fuel env e
        | none => pure .none
      match env.yields with
      | some id => push id v
      | none => pure ()
      return .none
where
  /-- Adds an item to a list. -/
  push (id : Nat) (v : Value) : Run Unit :=
    update id fun o => match o.data with
      | .list items => { o with data := .list (items.push v) }
      | _ => o

/-- The function that a piece of a program makes. -/
def makeFunction : Nat → Env → FunctionCode → Run Value
  | 0, _, _ => throw .exhausted
  | fuel + 1, env, code => do
    let defaults ← evalItems fuel env {} false (code.params.filterMap Param.default)
    let named := code.keywordOnly.filterMap fun p => p.default.map fun e => (p.name, e)
    let values ← evalItems fuel env {} false (named.map (·.2))
    let keywordDefaults := (named.map (·.1)).zip values
    let inner := { env with classBody := none, yields := none }
    alloc { cls := BaseType.function.id,
            data := .function { code, env := inner, defaults, keywordDefaults, qualname := env.path ++ code.name } }

/-- Assigns a value to a target. -/
def assign : Nat → Env → Expr → Value → Run Unit
  | 0, _, _, _ => throw .exhausted
  | fuel + 1, env, target, v => do
    let eng : Engine := ⟨callValue fuel, resume fuel⟩
    match target with
    | .name n span => at_ env span (bindName env n v)
    | .field object name span => do
      let o ← eval fuel env object
      at_ env span (setAttr eng o name v)
    | .subscript object index span => do
      let o ← eval fuel env object
      let i ← eval fuel env index
      at_ env span (setItem eng o i v)
    | .starred e _ => assign fuel env e v
    | .tuple targets span | .list targets span => do
      let vs ← at_ env span do
        match ← attempt (iter eng v) with
        | .ok it => spreadOver targets.length (targets.findIdx? fun
            | .starred .. => true
            | _ => false) (← itemsOf eng it)
        | .error _ => typeError ("cannot unpack non-iterable " ++ (← v.typeName) ++ " object")
      assignAll fuel env targets vs
    | _ => return ()

/-- Assigns values to targets one by one. -/
def assignAll : Nat → Env → List Expr → List Value → Run Unit
  | 0, _, _, _ => throw .exhausted
  | fuel + 1, env, t :: targets, v :: vs => do
    assign fuel env t v
    assignAll fuel env targets vs
  | _ + 1, _, _, _ => return ()

/-- Removes targets. -/
def deleteAll : Nat → Env → List Expr → Run Unit
  | 0, _, _ => throw .exhausted
  | _ + 1, _, [] => return ()
  | fuel + 1, env, t :: rest => do
    let eng : Engine := ⟨callValue fuel, resume fuel⟩
    match t with
    | .name n span => at_ env span (unbindName env n)
    | .field object name span => do
      let o ← eval fuel env object
      at_ env span (delAttr eng o name)
    | .subscript object index span => do
      let o ← eval fuel env object
      let i ← eval fuel env index
      at_ env span (delItem eng o i)
    | .tuple items _ | .list items _ => deleteAll fuel env items
    | _ => return ()
    deleteAll fuel env rest

/-- Runs statements. -/
def execAll : Nat → Env → List Stmt → Run Flow
  | 0, _, _ => throw .exhausted
  | _ + 1, _, [] => return .next
  | fuel + 1, env, s :: rest => do
    match ← exec fuel env s with
    | .next => execAll fuel env rest
    | flow => return flow

/-- Runs a statement. -/
def exec : Nat → Env → Stmt → Run Flow
  | 0, _, _ => throw .exhausted
  | fuel + 1, env, s => do
    let eng : Engine := ⟨callValue fuel, resume fuel⟩
    match s with
    | .expr e => do
      let _ ← eval fuel env e
      return .next
    | .assign targets value _ => do
      let v ← eval fuel env value
      assignAll fuel env targets (targets.map fun _ => v)
      return .next
    | .augmented op target value span => do
      match target with
      | .field object name targetSpan => do
        let o ← eval fuel env object
        let old ← at_ env targetSpan (getAttr eng o name)
        let v ← eval fuel env value
        let new ← at_ env span (binary eng op true old v)
        at_ env targetSpan (setAttr eng o name new)
      | .subscript object index targetSpan => do
        let o ← eval fuel env object
        let i ← eval fuel env index
        let old ← at_ env targetSpan (getItem eng o i)
        let v ← eval fuel env value
        let new ← at_ env span (binary eng op true old v)
        at_ env targetSpan (setItem eng o i new)
      | target => do
        let old ← eval fuel env target
        let v ← eval fuel env value
        let new ← at_ env span (binary eng op true old v)
        assign fuel env target new
      return .next
    | .return value _ => match value with
      | some e => return .return (← eval fuel env e)
      | none => return .return .none
    | .raise e cause span => do
      match e with
      | none => match (← get).handled with
        | e :: _ => throw (.error e true)
        | [] => at_ env span (fail "RuntimeError" "No active exception to reraise")
      | some e =>
        let v ← eval fuel env e
        let c ← match cause with
          | some c => pure (some (← eval fuel env c))
          | none => pure none
        at_ env span do
          let ex ← exceptionOf eng v
          match c with
          | none => pure ()
          | some c =>
            let c ← match c with
              | .none => pure Value.none
              | c => match ← attempt (exceptionOf eng c) with
                | .ok x => pure x
                | .error _ => typeError "exception causes must derive from BaseException"
            match ex with
            | .ref id => update id fun o => match o.data with
              | .exception i => { o with data := .exception { i with cause := c } }
              | _ => o
            | _ => pure ()
          throwValue ex
    | .assert test message span => do
      if ← holds fuel env test then return .next
      else
        let args ← match message with
          | some m => pure [← eval fuel env m]
          | none => pure []
        at_ env span (do throwValue (← exception "AssertionError" args []))
    | .del targets => do
      deleteAll fuel env targets
      return .next
    | .pass => return .next
    | .break => return .break
    | .continue => return .continue
    | .import modules span => do
      for (m, as_) in modules do
        let v ← at_ env span (importModule m)
        bindName env (as_.getD m) v
      return .next
    | .importFrom module names span => do
      let m ← at_ env span (importModule module)
      for (n, as_) in names do
        let v ← at_ env span do
          match ← getAttr? eng m n with
          | some v => return v
          | none =>
            throwValue (← exception "ImportError"
              [.ofString ("cannot import name '" ++ n ++ "' from '" ++ module ++ "' (unknown location)")]
              [("name", .ofString module)])
        bindName env (as_.getD n) v
      return .next
    | .branch condition yes no => do
      if ← holds fuel env condition then execAll fuel env yes else execAll fuel env no
    | .while condition body otherwise => whileLoop fuel env condition body otherwise
    | .for target iterable body otherwise span => do
      let v ← eval fuel env iterable
      let it ← at_ env span (iter eng v)
      forLoop fuel env it target body otherwise span
    | .try body handlers otherwise cleanup => do
      let guarded : Run Flow := do
        match ← captured (execAll fuel env body) with
        | .ok .next => execAll fuel env otherwise
        | .ok flow => return flow
        | .error (e, isNoted) => runHandlers fuel env e isNoted handlers
      if cleanup.isEmpty then guarded
      else match ← captured guarded with
        | .ok flow => match ← execAll fuel env cleanup with
          | .next => return flow
          | other => return other
        | .error (e, isNoted) => match ← handling e (execAll fuel env cleanup) with
          | .next => throw (.error e isNoted)
          | other => return other
    | .with context target body span => do
      let manager ← eval fuel env context
      let (enter, leave) ← at_ env span do
        match ← classAttr (← manager.typeId) "__enter__", ← classAttr (← manager.typeId) "__exit__" with
        | some enter, some leave =>
          return (← bindTo eng manager (← manager.typeId) enter, ← bindTo eng manager (← manager.typeId) leave)
        | none, _ => typeError ("'" ++ (← manager.typeName) ++ "' object does not support the context manager protocol")
        | _, none =>
          typeError ("'" ++ (← manager.typeName) ++ "' object does not support the context manager protocol "
            ++ "(missed __exit__ method)")
      let v ← at_ env span (callValue fuel enter [] [])
      match ← captured (do
          match target with
          | some t => assign fuel env t v
          | none => pure ()
          execAll fuel env body) with
      | .ok flow => do
        let _ ← at_ env span (callValue fuel leave [.none, .none, .none] [])
        return flow
      | .error (e, isNoted) => do
        let trace ← getAttr eng e "__traceback__"
        let r ← handling e (at_ env span (callValue fuel leave [.ref (← e.typeId), e, trace] []))
        if ← truth eng r then return .next else throw (.error e isNoted)
    | .function code decorators span => do
      let wrappers ← evalItems fuel env {} false decorators
      let f ← makeFunction fuel env code
      let v ← decorate fuel env span (wrappers.zip decorators).reverse f
      bindName env code.name v
      return .next
    | .cls name bases body locals globals decorators span => do
      let wrappers ← evalItems fuel env {} false decorators
      let c ← makeClassOf fuel env name bases body locals globals span
      let v ← decorate fuel env span (wrappers.zip decorators).reverse c
      bindName env name v
      return .next
where
  /-- What a computation raises, with whether its place is noted. -/
  captured {α : Type} (x : Run α) : Run (Except (Value × Bool) α) := fun s =>
    match x s with
    | (.error (.error e isNoted), s) => (.ok (.error (e, isNoted)), s)
    | (.error .exhausted, s) => (.error .exhausted, s)
    | (.ok a, s) => (.ok (.ok a), s)

/-- Hands a definition to what stands above it, the nearest first. -/
def decorate : Nat → Env → Span → List (Value × Expr) → Value → Run Value
  | 0, _, _, _, _ => throw .exhausted
  | _ + 1, _, _, [], v => return v
  | fuel + 1, env, span, (f, e) :: rest, v => do
    let r ← at_ env e.span (callValue fuel f [v] [])
    decorate fuel env span rest r

/-- Runs the body of a class and makes the class. -/
def makeClassOf : Nat → Env → String → List Arg → List Stmt → List String → List String → Span → Run Value
  | 0, _, _, _, _, _, _, _ => throw .exhausted
  | fuel + 1, env, name, bases, body, locals, globals, span => do
    let eng : Engine := ⟨callValue fuel, resume fuel⟩
    let (baseValues, kw) ← evalArgs fuel env name bases [] []
    let metaclass ← match kw.find? (·.1 = "metaclass") with
      | some (_, .ref m) => pure (some m)
      | _ => pure none
    -- functions of the body find the class in a scope around them
    let around ← alloc { cls := 0, data := .scope { names := ["__class__"], parent := env.scope } }
    let own ← alloc { cls := 0, data := .scope { names := locals, globals } }
    let qualname := env.path ++ name
    let inner := { env with function := name, path := qualname ++ ".", scope := around.id?, classBody := own.id? }
    at_ env span do
      inFrame inner do
        let _ ← execAll fuel inner body
      let vars := (← scopeOf (own.id?.getD 0)).vars
      let module ← match ← lookName env.globals "__name__" with
        | some (.str s) => pure s.string
        | _ => pure "builtins"
      let c ← makeClass eng metaclass name qualname module baseValues vars
      setVar (around.id?.getD 0) "__class__" c
      return c

/-- Runs the first handler that an exception matches; it is raised again if there is none. -/
def runHandlers : Nat → Env → Value → Bool → List Handler → Run Flow
  | 0, _, _, _, _ => throw .exhausted
  | _ + 1, _, e, isNoted, [] => throw (.error e isNoted)
  | fuel + 1, env, e, isNoted, .mk type name body :: rest => do
    let isMatch ← match type with
      | none => pure true
      | some t =>
        let v ← handling e (eval fuel env t)
        at_ env t.span (matchesType e v)
    if isMatch then handling e do
      match name with
      | none => execAll fuel env body
      | some n =>
        bindName env n e
        let unbindAfter : Run Unit := do
          match ← attempt (unbindName env n) with
          | _ => return ()
        fun s => match execAll fuel env body s with
          | (r, s) => match unbindAfter s with
            | (_, s) => (r, s)
    else runHandlers fuel env e isNoted rest
where
  /-- Whether an exception is of a type or of one of some types. -/
  matchesType (e v : Value) : Run Bool := do
    let one (t : Value) : Run Bool := do
      match ← t.class? with
      | some (id, c) =>
        if c.mro.contains (exceptionId "BaseException") then e.isInstance id
        else typeError "catching classes that do not inherit from BaseException is not allowed"
      | none => typeError "catching classes that do not inherit from BaseException is not allowed"
    match v with
    | .tuple items => items.anyM one
    | t => one t

/-- Runs a loop while a condition holds. -/
def whileLoop : Nat → Env → Expr → List Stmt → List Stmt → Run Flow
  | 0, _, _, _, _ => throw .exhausted
  | fuel + 1, env, condition, body, otherwise => do
    if ← holds fuel env condition then
      match ← execAll fuel env body with
      | .break => return .next
      | .return v => return .return v
      | _ => whileLoop fuel env condition body otherwise
    else execAll fuel env otherwise

/-- Runs a loop over an iterator. -/
def forLoop : Nat → Env → Value → Expr → List Stmt → List Stmt → Span → Run Flow
  | 0, _, _, _, _, _, _ => throw .exhausted
  | fuel + 1, env, it, target, body, otherwise, span => do
    match ← at_ env span (next ⟨callValue fuel, resume fuel⟩ it) with
    | none => execAll fuel env otherwise
    | some v =>
      assign fuel env target v
      match ← execAll fuel env body with
      | .break => return .next
      | .return v => return .return v
      | _ => forLoop fuel env it target body otherwise span

end

/-- How deep evaluation may go. -/
def runFuel : Nat := 1000000000

/-- The engine that programs run with. -/
def engine : Engine := ⟨callValue runFuel, resume runFuel⟩

end PluginHost.Python
