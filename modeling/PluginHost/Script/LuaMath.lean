import PluginHost.Script.LuaArguments

/-!
# The `math` library of Lua

These functions only look at their arguments.
-/

namespace PluginHost.Lua

/-- A double that is integral as the integer it equals, if that fits. -/
def integerOrFloat (x : Float) : Value :=
  match floatToInteger? x with
  | some n => .integer n
  | none => .number x

/-- The largest of some values, or the smallest. Numbers and texts compare as the operators on them do. -/
def extreme (args : Args) (better : Ordering) : Except Failure Value := do
  match args.values with
  | [] => throw (.argument 1 "value expected")
  | first :: rest => rest.foldlM (fun best v =>
      match Machine.order? v best with
      | some o => return if o = some better then v else best
      | none =>
        let (low, high) := if better = .gt then (best, v) else (v, best)
        let x := args.heap.typeName low
        let y := args.heap.typeName high
        throw (.bare (if x = y then s!"attempt to compare two {x} values" else s!"attempt to compare {x} with {y}"))) first

/-- The remainder of a division toward zero. -/
def fmod (args : Args) : Except Failure Value := do
  match ← args.number 1, ← args.number 2 with
  | .integer a, .integer b =>
    if b = 0 then throw (.argument 2 "zero")
    else return .integer (Int64.ofInt (a.toInt.tmod b.toInt))
  | a, b => return .number (floatRemainder a.toFloat b.toFloat)

/-- The logarithm, natural unless a base is given. -/
def logarithm (args : Args) : Except Failure Value := do
  let x := (← args.number 1).toFloat
  if args.isAbsent 2 then return .number x.log
  else
    let base := (← args.number 2).toFloat
    return .number (if base == 2.0 then x.log2 else if base == 10.0 then x.log10 else x.log / base.log)

/-- What a function of the library gives. -/
def MathFunction.apply (f : MathFunction) (args : Args) : Except Failure (List Value) := do
  let unary (g : Float → Float) : Except Failure (List Value) := do
    return [.number (g (← args.number 1).toFloat)]
  match f with
  | abs => match ← args.number 1 with
    | .integer n => return [.integer (if n < 0 then -n else n)]
    | .float x => return [.number x.abs]
  | acos => unary Float.acos
  | asin => unary Float.asin
  | atan =>
    let y := (← args.number 1).toFloat
    let x ← if args.isAbsent 2 then pure 1.0 else return [.number (Float.atan2 y (← args.number 2).toFloat)]
    return [.number (Float.atan2 y x)]
  | ceil => match ← args.number 1 with
    | .integer n => return [.integer n]
    | .float x => return [integerOrFloat x.ceil]
  | cos => unary Float.cos
  | exp => unary Float.exp
  | floor => match ← args.number 1 with
    | .integer n => return [.integer n]
    | .float x => return [integerOrFloat x.floor]
  | fmod => return [← Lua.fmod args]
  | log => return [← logarithm args]
  | max => return [← extreme args .gt]
  | min => return [← extreme args .lt]
  | modf => match ← args.number 1 with
    | .integer n => return [.integer n, .number 0.0]
    | .float x =>
      let whole := if x < 0.0 then x.ceil else x.floor
      return [.number whole, .number (if x == whole then 0.0 else x - whole)]
  | sin => unary Float.sin
  | sqrt => unary Float.sqrt
  | tan => unary Float.tan
  | toInteger => match (← args.any 1).toInteger? with
    | some n => return [.integer n]
    | none => return [.nil]
  | type => match ← args.any 1 with
    | .integer _ => return [.ofString "integer"]
    | .number _ => return [.ofString "float"]
    | _ => return [.nil]
  | ult => return [.boolean ((← args.integer 1).toUInt64 < (← args.integer 2).toUInt64)]

end PluginHost.Lua
