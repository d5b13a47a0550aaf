import PluginHost.Native.Image

/-!
# Sample libraries

Shared libraries on which the host can be tried: one whose functions are its symbols, one whose functions are reached through
alias variables, and one with functions and variables of every scalar type.
-/

namespace PluginHost.Samples

open PluginHost.Native

/-- A function that only looks at its arguments. -/
def pureFunction (params : List Ty) (result : Ty) (f : List Datum → Option Datum) : Function where
  params
  result
  body := fun m args => match f args with
    | some d => .returned d m
    | none => .fault m
  names_body m args := by split <;> rfl

/-- A function of two integers of one type. -/
def integers (t : IntTy) (f : Int → Int → Int) : Function :=
  pureFunction [.int t, .int t] (.int t) fun
    | [.int a, .int b] => some (.int (t.wrap (f a b)))
    | _ => none

/-- A function that sets a variable to its argument. -/
def setter (name : String) (result : Ty) : Function where
  params := [.int .i32]
  result
  body := fun m args => match args with
    | d :: _ => .returned d (m.set name ((bytesOf d).take 4))
    | [] => .fault m
  names_body m args := by
    cases args with
    | nil => rfl
    | cons d _ => exact m.names_set _ _

/-- A function that reads a variable. -/
def getter (name : String) : Function where
  params := []
  result := .int .i32
  body := fun m _ => .returned (ofBytes (.int .i32) (m.get name)) m
  names_body _ _ := rfl

/-- A function that touches memory that is not there. -/
def crashing (params : List Ty) (result : Ty) : Function where
  params
  result
  body := fun m _ => .fault m
  names_body _ _ := rfl

/-- A variable that starts with an integer. -/
def integerVariable (t : IntTy) (n : Int) : Symbol := .variable (littleEndian n (t.bits / 8))

/-! ## Functions as symbols -/

/-- Calls a function with the counter and puts its answer there. -/
def countUp : Function where
  params := []
  result := .unit
  body := fun m _ => match ofBytes (.int .i32) (m.get "counter") with
    | .int n => .returned .unit (m.set "counter" (littleEndian (n + 1) 4))
    | _ => .fault m
  names_body m _ := by
    split
    · exact m.names_set _ _
    · rfl

/-- The product of a number, a count and the scale of the library. -/
def multiply : Function where
  params := [.f64, .int .i32]
  result := .f64
  body := fun m args => match args, ofBytes .f64 (m.get "scale") with
    | [.f64 x, .int n], .f64 scale => .returned (.f64 (x * Float.ofInt n * scale)) m
    | _, _ => .fault m
  names_body m args := by split <;> rfl

/-- The number of bytes of a text up to its end; none for no text. -/
def textLength : Function :=
  pureFunction [.opt .str] (.int .u64) fun
    | [.some (.str s)] => some (.int (s.toList.takeWhile (· ≠ '\x00') |> String.ofList).utf8ByteSize)
    | [.none] => some (.int 0)
    | _ => none

/-- A library whose functions are its symbols. -/
def direct : Image where
  exports := [
    ("counter", integerVariable .i32 0),
    ("scale", .variable (bytesOf (.f64 1.5))),
    ("add", .function (integers .i32 (· + ·))),
    ("multiply", .function multiply),
    ("increment", .function countUp),
    ("get_counter", .function (getter "counter")),
    ("string_length", .function textLength),
    ("is_positive", .function (pureFunction [.int .i64] (.int .i32) fun
      | [.int n] => some (.int (if 0 < n then 1 else 0))
      | _ => none)),
    ("loop", .function (setter "counter" (.int .i32))),
    ("initialize", .function {
      params := [], result := .unit, body := fun m _ => .returned .unit (m.set "counter" (littleEndian 0 4))
      names_body := fun m _ => m.names_set _ _ }),
    ("crash", .function (crashing [.int .i32] (.int .i32)))]

/-! ## Functions behind aliases -/

/-- Makes a counter with a start. A counter is known by its place among all counters. -/
def createCounter : Function where
  params := [.int .i32]
  result := .int .u64
  body := fun m args => match args with
    | d :: _ =>
      let all := m.get "counters"
      .returned (.int (all.length / 4)) (m.set "counters" (all ++ (bytesOf d).take 4))
    | [] => .fault m
  names_body m args := by
    cases args with
    | nil => rfl
    | cons d _ => exact m.names_set _ _

/-- Counts on and answers the new count. -/
def incrementCounter : Function where
  params := [.int .u64]
  result := .int .i32
  body := fun m args => match args with
    | [.int id] =>
      let at_ := id.toNat * 4
      let all := m.get "counters"
      match ofBytes (.int .i32) (all.drop at_) with
      | .int n =>
        let n := IntTy.i32.wrap (n + 1)
        .returned (.int n) (m.set "counters" (all.take at_ ++ littleEndian n 4 ++ all.drop (at_ + 4)))
      | _ => .fault m
    | _ => .fault m
  names_body m args := by
    dsimp only
    split
    · split
      · exact m.names_set _ _
      · rfl
    · rfl

/-- A library whose functions are reached through alias variables. -/
def aliased : Image where
  exports := [
    ("version", integerVariable .i32 3),
    ("create_counter_alias", .alias (some createCounter)),
    ("square_alias", .alias (some (pureFunction [.int .i32] (.int .i32) fun
      | [.int n] => some (.int (IntTy.i32.wrap (n * n)))
      | _ => none))),
    ("negate_alias", .alias (some (pureFunction [.int .i32] (.int .i32) fun
      | [.int n] => some (.int (IntTy.i32.wrap (-n)))
      | _ => none))),
    ("null_alias", .alias none)]
  hidden := [("counters", [])]
  internal := [("increment", incrementCounter)]

/-! ## Every scalar type -/

/-- Adds integers, each times its place from one up. -/
def weigh (count : Nat) : Function :=
  pureFunction (List.replicate count (.int .i64)) (.int .i64) fun args =>
    some (.int (IntTy.i64.wrap ((args.zipIdx.map fun (d, i) => match d with
      | .int n => n * (i + 1)
      | _ => 0).foldl (· + ·) 0)))

/-- Mixes arguments of eight types. -/
def mix : Function :=
  pureFunction [.int .i32, .f64, .bool, .int .i64, .f32, .int .u8, .int .i16, .int .u32] .f64 fun
    | [.int a, .f64 b, .bool c, .int d, .f32 e, .int f, .int g, .int h] =>
      let sum := Float.ofInt a + 2 * b + (if c then 4 else 0) + 8 * Float.ofInt d + (16 * e).toFloat
      some (.f64 (sum + Float.ofInt (32 * f) + Float.ofInt (64 * g) + 128 * Float.ofInt h))
    | _ => none

/-- A library with functions and variables of every scalar type. -/
def extended : Image where
  exports := [
    ("g_i8", integerVariable .i8 (-8)), ("g_i16", integerVariable .i16 (-1600)), ("g_i32", integerVariable .i32 (-320000)),
    ("g_i64", integerVariable .i64 (-64000000000)), ("g_u8", integerVariable .u8 8), ("g_u16", integerVariable .u16 1600),
    ("g_u32", integerVariable .u32 3200000000), ("g_u64", integerVariable .u64 18446744073709551615),
    ("g_f32", .variable (bytesOf (.f32 0.5))), ("g_f64", .variable (bytesOf (.f64 0.1))),
    ("g_bool", .variable (bytesOf (.bool true))),
    ("add_i8", .function (integers .i8 (· + ·))), ("add_u8", .function (integers .u8 (· + ·))),
    ("add_i16", .function (integers .i16 (· + ·))), ("add_u16", .function (integers .u16 (· + ·))),
    ("add_i32", .function (integers .i32 (· + ·))), ("add_u32", .function (integers .u32 (· + ·))),
    ("add_i64", .function (integers .i64 (· + ·))), ("add_u64", .function (integers .u64 (· + ·))),
    ("add_f32", .function (pureFunction [.f32, .f32] .f32 fun
      | [.f32 a, .f32 b] => some (.f32 (a + b))
      | _ => none)),
    ("add_f64", .function (pureFunction [.f64, .f64] .f64 fun
      | [.f64 a, .f64 b] => some (.f64 (a + b))
      | _ => none)),
    ("not_bool", .function notBool),
    ("xor_bool", .function (pureFunction [.bool, .bool] .bool fun
      | [.bool a, .bool b] => some (.bool (a != b))
      | _ => none)),
    ("weigh0", .function (weigh 0)), ("weigh1", .function (weigh 1)), ("weigh2", .function (weigh 2)),
    ("weigh3", .function (weigh 3)), ("weigh4", .function (weigh 4)), ("weigh5", .function (weigh 5)),
    ("weigh6", .function (weigh 6)), ("weigh7", .function (weigh 7)), ("weigh8", .function (weigh 8)),
    ("mix", .function mix),
    ("store", .function (setter "stored" .unit)), ("fetch", .function (getter "stored")),
    ("store_and_crash", .function {
      params := [.int .i32], result := .int .i32
      body := fun m args => .fault (m.set "stored" ((args.headD .unit |> bytesOf).take 4))
      names_body := fun m _ => m.names_set _ _ }),
    ("crash_f64", .function (crashing [.f64] .f64)), ("crash_bool", .function (crashing [.bool] .bool)),
    ("crash_void", .function (crashing [] .unit)),
    ("weigh3_alias", .alias (some (weigh 3))), ("mix_alias", .alias (some mix)),
    ("fetch_alias", .alias (some (getter "stored"))), ("store_alias", .alias (some (setter "stored" .unit))),
    ("not_alias", .alias (some notBool)), ("empty_alias", .alias none)]
  hidden := [("stored", littleEndian 0 4)]
where
  /-- The opposite of a truth value. -/
  notBool : Function :=
    pureFunction [.bool] .bool fun
      | [.bool b] => some (.bool !b)
      | _ => none

end PluginHost.Samples
