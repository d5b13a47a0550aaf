import PluginHost.Datum

/-!
# Shared libraries as data

An `Image` is what a shared library file holds: exported functions and variables, aliases (variables that hold the address of a
function), and what is reachable only through those. A function may change the variables of its library and may hit
invalid memory (`Outcome.fault`). Scalars live in memory as little-endian bytes, so a variable can be read at another width
than it was written.
-/

namespace PluginHost.Native

/-! ## Scalars in memory -/

/-- The number of bytes of a scalar type; other types take none. -/
def sizeOfTy : Ty → Nat
  | .int t => t.bits / 8
  | .f32 => 4
  | .f64 => 8
  | .bool => 1
  | _ => 0

/-- The low `count` bytes of a number, lowest first. -/
def littleEndian (n : Int) (count : Nat) : List UInt8 :=
  (List.range count).map fun i => UInt8.ofNat ((n / 256 ^ i) % 256).toNat

/-- The number that bytes spell, lowest first. -/
def ofLittleEndian (bytes : List UInt8) : Nat :=
  bytes.foldr (fun b n => n * 256 + b.toNat) 0

/-- The bytes of a scalar. An integer fills a whole register. -/
def bytesOf : Datum → List UInt8
  | .int n => littleEndian n 8
  | .f64 x => littleEndian x.toBits.toNat 8
  | .f32 x => littleEndian x.toBits.toNat 4
  | .bool b => [if b then 1 else 0]
  | _ => []

/-- The scalar of a type that bytes spell; missing bytes are zero. -/
def ofBytes (t : Ty) (bytes : List UInt8) : Datum :=
  let n := ofLittleEndian (bytes.take (sizeOfTy t))
  match t with
  | .int w => .int (w.wrap n)
  | .f64 => .f64 (Float.ofBits (UInt64.ofNat n))
  | .f32 => .f32 (Float32.ofBits (UInt32.ofNat n))
  | .bool => .bool (n ≠ 0)
  | t => .zero t

/-- A value as another function signature sees it. Values that are no scalars pass as they are. -/
def recast (t : Ty) (d : Datum) : Datum :=
  match t with
  | .int _ | .f32 | .f64 | .bool => ofBytes t (bytesOf d)
  | .unit => .unit
  | _ => d

/-! ## Images -/

/-- The variables of a library by name. -/
abbrev Memory := List (String × List UInt8)

/-- Which variables there are. -/
def Memory.names (m : Memory) : List String := m.map (·.1)

/-- The bytes of a variable. -/
def Memory.get (m : Memory) (name : String) : List UInt8 :=
  ((m.find? (·.1 = name)).map (·.2)).getD []

/-- Overwrites the first bytes of a variable. -/
def Memory.set (m : Memory) (name : String) (bytes : List UInt8) : Memory :=
  m.map fun (n, old) => if n = name then (n, bytes ++ old.drop bytes.length) else (n, old)

@[simp] theorem Memory.names_set (m : Memory) (name : String) (bytes : List UInt8) : (m.set name bytes).names = m.names := by
  rw [names, names, set, List.map_map]
  refine List.map_congr_left fun e _ => ?_
  dsimp only [Function.comp_apply]
  split <;> rfl

/-- How a call into a library ends. -/
inductive Outcome
  | returned (result : Datum) (memory : Memory)
  /-- The call touched memory that is not there. -/
  | fault (memory : Memory)

/-- The variables as a call leaves them. -/
def Outcome.memory : Outcome → Memory
  | returned _ m | fault m => m

/-- A function of a library with its true signature. -/
structure Function where
  params : List Ty
  result : Ty
  body : Memory → List Datum → Outcome
  /-- A call may change what variables hold, but not which there are. -/
  names_body (m : Memory) (args : List Datum) : (body m args).memory.names = m.names

/-- Calls a function with a signature of the caller's choice; both sides see the same bytes. -/
def Function.call (f : Function) (m : Memory) (args : List Datum) (result : Ty) : Outcome :=
  match f.body m (List.zipWith recast f.params args) with
  | .returned d m => .returned (recast result d) m
  | .fault m => .fault m

/-- What an exported name stands for. -/
inductive Symbol
  | function (f : Function)
  /-- A variable, with its bytes at the start. -/
  | variable (initial : List UInt8)
  /-- A variable that holds the address of a function, or none. -/
  | alias (target : Option Function)

/-- A shared library file. -/
structure Image where
  exports : List (String × Symbol)
  /-- Variables that are not exported, with their bytes at the start. -/
  hidden : Memory := []
  /-- Functions that are reachable only through addresses inside returned data. -/
  internal : List (String × Function) := []

namespace Image

/-- What a name stands for. -/
def symbol? (i : Image) (name : String) : Option Symbol := (i.exports.find? (·.1 = name)).map (·.2)

/-- All variables at the start. -/
def initialMemory (i : Image) : Memory :=
  i.exports.filterMap (fun (name, s) => match s with
    | .variable initial => some (name, initial)
    | _ => none) ++ i.hidden

/-- A function behind an address inside data. -/
def internal? (i : Image) (name : String) : Option Function := (i.internal.find? (·.1 = name)).map (·.2)

end Image

end PluginHost.Native
