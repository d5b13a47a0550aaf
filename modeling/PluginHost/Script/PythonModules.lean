import PluginHost.Script.PythonConstructors
import PluginHost.Script.PythonTraceback

/-!
# The modules that Python programs can import
-/

namespace PluginHost.Python

open Run

/-- The signature of the constructor of a tuple with names. -/
def namedSignature (name : String) (fields : List String) : Signature :=
  { name := name ++ ".__new__", params := "_cls" :: fields }

/-- A class of tuples whose items have names. -/
def namedTuple (eng : Engine) (args : List Value) : Run Value := do
  match args with
  | typename :: names :: _ =>
    let name ← needName "typename" typename
    let fields ← match ← names.plain with
      | .str s => pure ((Text.words (s.length + 1) none (s.map fun c => if c = 44 then 32 else c)).map Text.string)
      | v => (← itemsOf eng v).mapM fun f => return (← str eng f).string
    let getters ← fields.zipIdx.mapM fun (f, i) => do
      return (f, ← alloc { cls := BaseType.property.id,
                           data := .property (.nativeOf (.int i) ⟨"namedtuple", "field"⟩) .none })
    let fieldTexts : List Value := fields.map .ofString
    let new ← alloc { cls := BaseType.staticMethod.id,
                      data := .staticMethod (.nativeOf (.tuple (.ofString name :: fieldTexts)) ⟨"namedtuple", "new"⟩) }
    let module ← match ← currentEnv with
      | some env => match ← lookName env.globals "__name__" with
        | some (.str s) => pure s.string
        | _ => pure "__main__"
      | none => pure "__main__"
    let cls ← makeClass eng none name name module [.ref BaseType.tuple.id] ([("_fields", .tuple fieldTexts)] ++ getters)
    match cls with
    | .ref id => update id fun o => { o with attrs := o.attrs ++ [("__new__", new), ("_asdict", .native ⟨"namedtuple", "_asdict"⟩)] }
    | _ => pure ()
    return cls
  | _ => typeError ("namedtuple() missing " ++ toString (2 - args.length) ++ " required positional arguments")

/-- The places that an exception went through, as texts. -/
def tracebackReports (v : Value) : Run (List String) := do
  match v with
  | .ref id => match ← data id with
    | .traceback trace => return reports (← get).files none 0 trace
    | _ => return []
  | _ => return []

/-- The functions of modules, by module. -/
def moduleFunctions : List (String × List (String × NativeBody)) := [
  ("sys", [
    ("exit", fun _ args _ => do
      checkCount "exit" 0 1 args.length
      throwValue (← exception "SystemExit" args [("code", args.headD .none)])),
    ("getrecursionlimit", fun _ _ _ => return .int depthLimit),
    ("setrecursionlimit", fun _ _ _ => return .none),
    ("exc_info", fun eng _ _ => do
      match (← get).handled with
      | e :: _ => return .tuple [.ref (← e.typeId), e, ← getAttr eng e "__traceback__"]
      | [] => return .tuple [.none, .none, .none]),
    ("intern", fun _ args _ => return args.headD .none)]),
  ("collections", [("namedtuple", fun eng args _ => namedTuple eng args)]),
  ("namedtuple", [
    ("field", fun _ args _ => do
      match args with
      | [.int i, self] => match ← self.plain with
        | .tuple items => return items.getD i.toNat .none
        | _ => return .none
      | _ => return .none),
    ("new", fun _ args kw => do
      match args with
      | .tuple (.str name :: fields) :: rest =>
        let fields := fields.map fun f => match f with
          | .str s => s.string
          | _ => ""
        let bound ← bindArguments (namedSignature name.string fields) rest kw
        let items := fields.map fun f => ((bound.find? (·.1 = f)).map (·.2)).getD .none
        match ← (rest.headD .none).class? with
        | some (cls, _) => alloc { cls, data := .payload (.tuple items) }
        | none => return .tuple items
      | _ => return .none),
    ("_asdict", fun _ args _ => do
      match args with
      | self :: _ => match ← self.plain, ← classAttr (← self.typeId) "_fields" with
        | .tuple items, some (.tuple fields) => alloc { cls := BaseType.dict.id, data := .dict (fields.zip items) }
        | _, _ => return .none
      | [] => return .none)]),
  ("enum", [
    ("name", fun _ args _ => do
      match args with
      | .ref id :: _ => return ((← ownAttr id "_name_")).getD .none
      | _ => return .none),
    ("value", fun _ args _ => do
      match args with
      | .ref id :: _ => return ((← ownAttr id "_value_")).getD .none
      | _ => return .none)]),
  ("traceback", [("format_tb", fun _ args _ => do list ((← tracebackReports (args.headD .none)).map .ofString))])]

end PluginHost.Python
