import PluginHost.Script.PythonFunctions

/-!
# The methods of objects, iterators and exceptions of Python
-/

namespace PluginHost.Python

open Run

/-- The methods that every object has. -/
def objectMethods : List (String × NativeBody) := [
  methodOne "object" "__getattribute__" fun eng self name => do
    let name ← needName "attribute name" name
    match ← plainAttr eng self name with
    | some v => return v
    | none => fail "AttributeError" (← missingAttr self name),
  methodSome "object" "__setattr__" 2 2 fun eng self args => do
    plainSetAttr eng self (← needName "attribute name" (args.getD 0 .none)) (args.getD 1 .none)
    return .none,
  methodOne "object" "__delattr__" fun _ self name => do
    plainDelAttr self (← needName "attribute name" name)
    return .none,
  methodZero "object" "__repr__" fun eng self => do
    match self with
    | .ref id => return .str (← showObject eng (3 * recursionFuel) [id] id)
    | v => return .str (← repr eng v),
  methodZero "object" "__str__" fun eng self => return .str (← plainStr eng self),
  methodZero "object" "__hash__" fun _ self => return .int (16 * ((self.id?).getD 0 : Int)),
  methodOne "object" "__eq__" fun eng self other => do
    if self.same other then return .bool true
    else match self, other with
      | .ref i, .ref j => match ← data i, ← data j with
        | .plain, _ | _, .plain => return .notImplemented
        | _, _ => return .bool (← equal eng self other)
      | _, _ => if (← self.typeId) = (← other.typeId) then return .bool (← equal eng self other) else return .notImplemented,
  methodOne "object" "__ne__" fun eng self other => return .bool !(← equalOrSame eng self other),
  methodOne "object" "__format__" fun eng self spec => return .str (← formatPlain eng self (← needText "format_spec" spec)),
  methodZero "object" "__dir__" fun _ self => do list ((← attrNames self).map .ofString),
  ("__init_subclass__", fun _ _ _ => return .none)]

/-- The methods of an iterator. -/
def iteratorMethods (owner : String) : List (String × NativeBody) := [
  methodZero owner "__next__" fun eng self => do
    match ← next eng self with
    | some v => return v
    | none => throwValue (← exception "StopIteration" [] [("value", .none)]),
  methodZero owner "__iter__" fun _ self => return self]

/-- The methods of exceptions. -/
def exceptionMethods : List (String × NativeBody) := [
  methodOne "BaseException" "with_traceback" fun _ self _ => return self,
  methodOne "BaseException" "add_note" fun eng self note => do
    let notes ← match ← getAttr? eng self "__notes__" with
      | some (.ref id) => match ← data id with
        | .list items => pure items.toList
        | _ => pure []
      | _ => pure []
    setAttr eng self "__notes__" (← list (notes ++ [note]))
    return .none,
  methodZero "BaseException" "__str__" fun eng self => return .str (← plainStr eng self),
  methodZero "BaseException" "__repr__" fun eng self => do
    match self with
    | .ref id => return .str (← showObject eng (3 * recursionFuel) [id] id)
    | v => return .str (← repr eng v)]

end PluginHost.Python
