import PluginHost.Script.PythonArguments

/-!
# The form of what is built into Python

A function or method that is built in gets the arguments and the named arguments of the call (`NativeBody`). The functions here
make such bodies for the usual numbers of arguments, with the exceptions for all other numbers.
-/

namespace PluginHost.Python

open Run

/-- A function or method that is built in: what it does with its arguments and its named arguments. -/
abbrev NativeBody := Engine → List Value → List (String × Value) → Run Value

/-! ## Arguments of what is built in -/

/-- Refuses named arguments. -/
def noKeywords (name : String) (kw : List (String × Value)) : Run Unit := do
  unless kw.isEmpty do typeError (name ++ "() takes no keyword arguments")

/-- A function of exactly one argument. -/
def oneArgument (name : String) (f : Engine → Value → Run Value) : String × NativeBody :=
  (name, fun eng args kw => do
    noKeywords name kw
    match args with
    | [v] => f eng v
    | _ => typeError (name ++ "() takes exactly one argument (" ++ toString args.length ++ " given)"))

/-- A number of arguments in words. -/
def countWords (n : Nat) : String := toString n ++ " argument" ++ (if n = 1 then "" else "s")

/-- Refuses numbers of arguments outside of a range. -/
def checkCount (name : String) (least most given : Nat) : Run Unit := do
  if least = most then
    unless given = least do typeError (name ++ " expected " ++ countWords least ++ ", got " ++ toString given)
  else
    if given < least then typeError (name ++ " expected at least " ++ countWords least ++ ", got " ++ toString given)
    if most < given then typeError (name ++ " expected at most " ++ countWords most ++ ", got " ++ toString given)

/-- A function that takes some number of arguments. -/
def someArguments (name : String) (least most : Nat) (f : Engine → List Value → Run Value) : String × NativeBody :=
  (name, fun eng args kw => do
    noKeywords name kw
    checkCount name least most args.length
    f eng args)

/-- The first argument of a method, which has to be of its type. -/
def receiver (owner name : String) (args : List Value) : Run (Value × List Value) := do
  match args with
  | [] => typeError ("unbound method " ++ owner ++ "." ++ name ++ "() needs an argument")
  | self :: rest =>
    let cls := match BaseType.table.find? (·.2.1 = owner) with
      | some (t, _) => t.id
      | none => exceptionId owner
    if ← self.isInstance cls then return (self, rest)
    else typeError ("descriptor '" ++ name ++ "' for '" ++ owner ++ "' objects doesn't apply to a '" ++ (← self.typeName)
      ++ "' object")

/-- A method without arguments. -/
def methodZero (owner name : String) (f : Engine → Value → Run Value) : String × NativeBody :=
  (name, fun eng args kw => do
    let (self, rest) ← receiver owner name args
    noKeywords (owner ++ "." ++ name) kw
    unless rest.isEmpty do
      typeError (owner ++ "." ++ name ++ "() takes no arguments (" ++ toString rest.length ++ " given)")
    f eng self)

/-- A method with one argument. -/
def methodOne (owner name : String) (f : Engine → Value → Value → Run Value) : String × NativeBody :=
  (name, fun eng args kw => do
    let (self, rest) ← receiver owner name args
    noKeywords (owner ++ "." ++ name) kw
    match rest with
    | [v] => f eng self v
    | _ => typeError (owner ++ "." ++ name ++ "() takes exactly one argument (" ++ toString rest.length ++ " given)"))

/-- A method with some number of arguments. -/
def methodSome (owner name : String) (least most : Nat) (f : Engine → Value → List Value → Run Value) : String × NativeBody :=
  (name, fun eng args kw => do
    let (self, rest) ← receiver owner name args
    noKeywords (owner ++ "." ++ name) kw
    checkCount name least most rest.length
    f eng self rest)

/-- A method of which some arguments may be given by name. -/
def methodNamed (owner name : String) (names : List String) (f : Engine → Value → (String → Option Value) → Run Value) :
    String × NativeBody :=
  (name, fun eng args kw => do
    let (self, rest) ← receiver owner name args
    checkCount name 0 names.length rest.length
    match kw.find? fun a => !names.contains a.1 with
    | some (n, _) => typeError ("'" ++ n ++ "' is an invalid keyword argument for " ++ name ++ "()")
    | none => f eng self fun n => ((names.zip rest ++ kw).find? (·.1 = n)).map (·.2))

/-- The named argument of a name. -/
def named? (kw : List (String × Value)) (name : String) : Option Value := (kw.find? (·.1 = name)).map (·.2)

/-- The integer that an argument has to be. -/
def needInt (eng : Engine) (v : Value) : Run Int := do
  match ← index? eng v with
  | some n => return n
  | none => typeError ("'" ++ (← v.typeName) ++ "' object cannot be interpreted as an integer")

/-- The text that an argument has to be. -/
def needText (what : String) (v : Value) : Run Text := do
  match ← v.plain with
  | .str s => return s
  | _ => typeError (what ++ " must be str, not " ++ (← v.typeName))

/-- The name that an argument has to be. -/
def needName (what : String) (v : Value) : Run String := do
  match ← v.plain with
  | .str s => return s.string
  | _ => typeError (what ++ " must be string, not '" ++ (← v.typeName) ++ "'")

/-- A value as an instance of a class: itself, or an object of a class that inherits from its type. -/
def wrapAs (cls : Nat) (base : BaseType) (v : Value) : Run Value := do
  if cls = base.id then return v else alloc { cls, data := .payload v }

/-- The class that a constructor is called for. -/
def classArgument (name : String) (args : List Value) : Run (Nat × List Value) := do
  match args with
  | [] => typeError (name ++ ".__new__(): not enough arguments")
  | cls :: rest => match ← cls.class? with
    | some (id, _) => return (id, rest)
    | none => typeError (name ++ ".__new__(X): X is not a type object (" ++ (← cls.typeName) ++ ")")

/-- Whether a class or one that it inherits from defines a method itself. -/
def overrides (cls : Nat) (name : String) : Run Bool := do
  match ← classAttr cls name with
  | some (.native _) | none => return false
  | some _ => return true

end PluginHost.Python
