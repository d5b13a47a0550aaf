import PluginHost.Script.PythonContainerMethods
import PluginHost.Script.PythonModules
import PluginHost.Script.PythonObjectMethods

/-!
# What is built into Python

One table (`natives`) of the functions that every program has, the methods of the types that are built in, and the functions of
the modules that can be imported, by the type or module they belong to. The classes of the interpreter get their attributes
from it, and `callNative` looks bodies up in it.
-/

namespace PluginHost.Python

open Run

/-- Everything that is built in, by the type or module it belongs to; the functions of every program come without a name. -/
def natives : List (String × List (String × NativeBody)) :=
  [("", functions)] ++ constructors ++ [("object", objectMethods), ("str", textMethods), ("list", listMethods),
    ("tuple", tupleMethods), ("dict", dictMethods), ("set", setMethods), ("frozenset", commonSetMethods "frozenset"),
    ("bytes", bytesMethods "bytes"), ("bytearray", bytesMethods "bytearray"), ("generator", iteratorMethods "generator"),
    ("iterator", iteratorMethods "iterator"), ("map", iteratorMethods "map"), ("filter", iteratorMethods "filter"),
    ("zip", iteratorMethods "zip"), ("enumerate", iteratorMethods "enumerate"), ("reversed", iteratorMethods "reversed"),
    ("int", [methodZero "int" "bit_length" fun _ self => do
      match (← self.plain).int? with
      | some n => return .int (if n = 0 then 0 else Nat.log2 n.natAbs + 1 : Nat)
      | none => return .int 0]),
    ("float", [methodZero "float" "is_integer" fun _ self => do
      match ← self.plain with
      | .float x => return .bool (Decimal.toInt? x).isSome
      | _ => return .bool false]),
    ("BaseException", exceptionMethods)] ++ moduleFunctions

/-- What is built in and belongs to a type or module. -/
def nativesOf (owner : String) : List (String × NativeBody) := (natives.filter (·.1 = owner)).flatMap (·.2)

/-- Calls what is built in. -/
def callNative (eng : Engine) (f : Native) (args : List Value) (kw : List (String × Value)) : Run Value := do
  match natives.findSome? fun (owner, table) =>
      if owner = f.owner then (table.find? (·.1 = f.name)).map (·.2) else none with
  | some body => body eng args kw
  | none => typeError ("'" ++ f.name ++ "' is not built in")

end PluginHost.Python
