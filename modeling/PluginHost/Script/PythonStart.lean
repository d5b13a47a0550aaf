import PluginHost.Script.PythonRun

/-!
# A fresh Python interpreter

The types and exceptions that are built in, the modules that can be imported, and the module that scripts run in.
-/

namespace PluginHost.Python

open Run

/-- What is built in of some type or module, as attributes. -/
def nativeAttrs (owner : String) : List (String × Value) :=
  (nativesOf owner).map fun (name, _) => (name, .native ⟨owner, name⟩)

/-- The order of lookups of a type that is built in. -/
def baseOrder : Nat → BaseType → List Nat
  | 0, t => [t.id]
  | fuel + 1, t =>
    if t = .object then [t.id]
    else if t = .intEnum then [t.id, BaseType.int.id, BaseType.enum.id, BaseType.object.id]
    else match BaseType.table.find? (·.1 = t) with
      | some (_, _, _, base) => t.id :: baseOrder fuel base
      | none => [t.id]

/-- The types that programs can add attributes to. -/
def openTypes : List BaseType := [.enum, .intEnum]

/-- A type that is built in, as an object. -/
def baseClass (t : BaseType) (name module : String) (base : BaseType) : Object :=
  { cls := if t = .enum ∨ t = .intEnum then BaseType.enumType.id else BaseType.type.id
    attrs := nativeAttrs name
    data := .cls { name, qualname := name, module, mro := baseOrder 10 t, isOpen := openTypes.contains t
                   bases := if t = .object then [] else if t = .intEnum then [BaseType.int.id, BaseType.enum.id] else [base.id] } }

/-- The order of lookups of an exception that is built in. -/
def exceptionOrder : Nat → String → List Nat
  | 0, _ => []
  | fuel + 1, name =>
    if name = "object" then [BaseType.object.id]
    else match exceptionTable.find? (·.1 = name) with
      | some (_, base) => exceptionId name :: exceptionOrder fuel base
      | none => []

/-- An exception that is built in, as an object. -/
def exceptionClass (name base : String) : Object :=
  { cls := BaseType.type.id
    attrs := nativeAttrs name
    data := .cls { name, qualname := name, module := "builtins", mro := exceptionOrder 10 name, isOpen := false
                   bases := [if base = "object" then BaseType.object.id else exceptionId base] } }

/-- The classes that every interpreter has. -/
def classHeap : Array Object :=
  (BaseType.table.map fun (t, name, module, base) => baseClass t name module base).toArray
    ++ (exceptionTable.map fun (name, base) => exceptionClass name base).toArray

/-- Makes a module. -/
def makeModule (name : String) (attrs : List (String × Value)) : Run (Value × Nat) := do
  let names ← dictOf ([("__name__", Value.ofString name), ("__doc__", .none), ("__package__", .ofString ""),
    ("__loader__", .ref BaseType.builtinLoader.id), ("__spec__", .none)] ++ attrs)
  let id := names.id?.getD 0
  return (← alloc { cls := BaseType.module.id, data := .module id }, id)

/-- The types that every program can name. -/
def namedTypes : List BaseType :=
  [.object, .type, .int, .bool, .float, .complex, .str, .bytes, .bytearray, .tuple, .list, .dict, .set, .frozenset, .range,
    .slice, .property, .staticMethod, .classMethod, .superType, .map, .filter, .zip, .enumerate, .reversed]

/-- Makes the modules of a fresh interpreter. -/
def setUp : Run Unit := do
  for (t, name) in [(BaseType.enum, "name"), (.enum, "value")] do
    let p ← alloc { cls := BaseType.property.id, data := .property (.native ⟨"enum", name⟩) .none }
    update t.id fun o => { o with attrs := o.attrs ++ [(name, p)] }
  let types := namedTypes.map fun t => (t.name, Value.ref t.id)
  let exceptions := exceptionTable.map fun (n, _) => (n, Value.ref (exceptionId n))
  let (builtins, builtinNames) ← makeModule "builtins" (nativeAttrs "" ++ types ++ exceptions
    ++ [("EnvironmentError", .ref (exceptionId "OSError")), ("IOError", .ref (exceptionId "OSError")),
      ("NotImplemented", .notImplemented), ("Ellipsis", .ellipsis), ("__debug__", .bool true)])
  let annotations ← dictOf []
  let (main, mainNames) ← makeModule "__main__" []
  setData mainNames (.dict ([("__name__", Value.ofString "__main__"), ("__doc__", .none), ("__package__", .none),
    ("__loader__", .ref BaseType.builtinLoader.id), ("__spec__", .none), ("__annotations__", annotations),
    ("__builtins__", builtins)].map fun (n, v) => (.ofString n, v)))
  let loaded ← dictOf []
  let path ← list []
  let argv ← list [.ofString ""]
  let (sys, _) ← makeModule "sys" (nativeAttrs "sys" ++ [("modules", loaded), ("maxsize", .int (2 ^ 63 - 1)),
    ("maxunicode", .int 0x10FFFF), ("platform", .ofString "linux"), ("byteorder", .ofString "little"), ("path", path),
    ("argv", argv)])
  let (typesModule, _) ← makeModule "types" [("ModuleType", .ref BaseType.module.id),
    ("FunctionType", .ref BaseType.function.id), ("LambdaType", .ref BaseType.function.id),
    ("MethodType", .ref BaseType.method.id), ("BuiltinFunctionType", .ref BaseType.native.id),
    ("GeneratorType", .ref BaseType.generator.id), ("NoneType", .ref BaseType.noneType.id),
    ("TracebackType", .ref BaseType.traceback.id)]
  let (collections, _) ← makeModule "collections" (nativeAttrs "collections"
    ++ [("OrderedDict", .ref BaseType.ordered.id), ("defaultdict", .ref BaseType.defaulted.id)])
  let (enum, _) ← makeModule "enum" [("Enum", .ref BaseType.enum.id), ("IntEnum", .ref BaseType.intEnum.id),
    ("EnumType", .ref BaseType.enumType.id), ("EnumMeta", .ref BaseType.enumType.id)]
  let (json, _) ← makeModule "json" []
  let (traceback, _) ← makeModule "traceback" (nativeAttrs "traceback")
  setData (loaded.id?.getD 0) (.dict ([("sys", sys), ("builtins", builtins), ("__main__", main), ("types", typesModule),
    ("collections", collections), ("enum", enum), ("json", json), ("traceback", traceback)].map
      fun (n, v) => (.ofString n, v)))
  modify fun s => { s with main := main.id?.getD 0, globals := mainNames, modules := loaded.id?.getD 0,
                           builtins := builtinNames }

/-- A fresh interpreter that sees some files. -/
def Interp.start (files : FileTree) : Interp :=
  (setUp.run { heap := classHeap, main := 0, globals := 0, modules := 0, builtins := 0, files }).2

end PluginHost.Python
