import PluginHost.Instances

/-!
# Data that crosses into a plugin

`Ty` names the types a host may pass to a plugin or ask from it, `Datum` is a value of one of them, and `Datum.hasType` says
which values belong to a type. The order `Datum.compare` sorts the keys of a map.
-/

namespace PluginHost

/-- The integer types. The last two of each sign are the pointer-sized ones, which have 64 bits. -/
inductive IntTy
  | i8 | i16 | i32 | i64 | isize | u8 | u16 | u32 | u64 | usize
deriving DecidableEq, Repr

namespace IntTy

/-- Whether the type has negative values. -/
def signed : IntTy → Bool
  | i8 | i16 | i32 | i64 | isize => true
  | u8 | u16 | u32 | u64 | usize => false

/-- The number of bits. -/
def bits : IntTy → Nat
  | i8 | u8 => 8
  | i16 | u16 => 16
  | i32 | u32 => 32
  | i64 | u64 | isize | usize => 64

/-- The smallest value. -/
def min (t : IntTy) : Int := if t.signed then -2 ^ (t.bits - 1) else 0

/-- The largest value. -/
def max (t : IntTy) : Int := if t.signed then 2 ^ (t.bits - 1) - 1 else 2 ^ t.bits - 1

/-- Whether a number is a value of the type. -/
def holds (t : IntTy) (n : Int) : Bool := decide (t.min ≤ n) && decide (n ≤ t.max)

/-- The value that the low bits of a number spell. -/
def wrap (t : IntTy) (n : Int) : Int := if t.signed then n.bmod (2 ^ t.bits) else n % 2 ^ t.bits

theorem holds_iff {t : IntTy} {n : Int} : t.holds n = true ↔ t.min ≤ n ∧ n ≤ t.max := by
  simp [holds]

end IntTy

/-- The types of data. `nil` is the absent value of a script, `unit` the absent result of a call. -/
inductive Ty
  | int (t : IntTy)
  | f32 | f64 | bool | str | nil | unit
  | opt (item : Ty)
  | vec (item : Ty)
  | map (key value : Ty)
  | tuple (items : List Ty)
deriving Repr

/-- A value. Vectors and tuples differ in type only, and so do the absent values. -/
inductive Datum
  | int (n : Int)
  | f32 (x : Float32)
  | f64 (x : Float)
  | bool (b : Bool)
  | str (s : String)
  | unit
  | none
  | some (d : Datum)
  | list (items : List Datum)
  | map (entries : List (Datum × Datum))

namespace Datum

mutual

/-- The order of keys: absent values first, numbers and booleans by value, texts by code point, and sequences item by
item. -/
def compare : Datum → Datum → Ordering
  | .int a, .int b => Ord.compare a b
  | .bool a, .bool b => Ord.compare a b
  | .str a, .str b => Ord.compare a b
  | .none, .none => .eq
  | .none, .some _ => .lt
  | .some _, .none => .gt
  | .some a, .some b => a.compare b
  | .list xs, .list ys => compareList xs ys
  | .map xs, .map ys => compareEntries xs ys
  | .f64 a, .f64 b => if a < b then .lt else if b < a then .gt else .eq
  | .f32 a, .f32 b => if a < b then .lt else if b < a then .gt else .eq
  | _, _ => .eq
termination_by structural x => x

/-- The lexicographic order of sequences. -/
def compareList : List Datum → List Datum → Ordering
  | [], [] => .eq
  | [], _ :: _ => .lt
  | _ :: _, [] => .gt
  | x :: xs, y :: ys => (x.compare y).then (compareList xs ys)
termination_by structural x => x

/-- The lexicographic order of sorted entries. -/
def compareEntries : List (Datum × Datum) → List (Datum × Datum) → Ordering
  | [], [] => .eq
  | [], _ :: _ => .lt
  | _ :: _, [] => .gt
  | (j, x) :: xs, (k, y) :: ys => ((j.compare k).then (x.compare y)).then (compareEntries xs ys)
termination_by structural x => x

end

/-- Puts an entry into a sorted map; an entry with an equal key is replaced. -/
def insertEntry (k v : Datum) : List (Datum × Datum) → List (Datum × Datum)
  | [] => [(k, v)]
  | (j, w) :: rest => match k.compare j with
    | .lt => (k, v) :: (j, w) :: rest
    | .eq => (j, v) :: rest
    | .gt => (j, w) :: insertEntry k v rest

/-- The map of a sequence of entries, sorted; of entries with equal keys the last one counts. -/
def mapOfEntries (entries : List (Datum × Datum)) : Datum :=
  .map (entries.foldl (fun m (k, v) => insertEntry k v m) [])

mutual

/-- Whether a value belongs to a type. -/
@[simp] def hasType : Datum → Ty → Bool
  | .int n, .int t => t.holds n
  | .f32 _, .f32 => true
  | .f64 _, .f64 => true
  | .bool _, .bool => true
  | .str _, .str => true
  | .unit, .nil => true
  | .unit, .unit => true
  | .none, .opt _ => true
  | .some d, .opt t => d.hasType t
  | .list ds, .vec t => allHaveType ds t
  | .list ds, .tuple ts => haveTypes ds ts
  | .map es, .map k v => entriesHaveType es k v
  | _, _ => false
termination_by structural x => x

/-- Whether every item belongs to one type. -/
def allHaveType : List Datum → Ty → Bool
  | [], _ => true
  | d :: ds, t => d.hasType t && allHaveType ds t
termination_by structural x => x

/-- Whether the items belong to the types, one by one. -/
def haveTypes : List Datum → List Ty → Bool
  | [], [] => true
  | d :: ds, t :: ts => d.hasType t && haveTypes ds ts
  | _, _ => false
termination_by structural x => x

/-- Whether every key and every value belongs to its type. -/
def entriesHaveType : List (Datum × Datum) → Ty → Ty → Bool
  | [], _, _ => true
  | (k, v) :: es, s, t => k.hasType s && v.hasType t && entriesHaveType es s t
termination_by structural x => x

end

/-- The value that a call answers when there is nothing to answer with. -/
def zero : Ty → Datum
  | .int _ => .int 0
  | .f32 => .f32 0
  | .f64 => .f64 0
  | .bool => .bool false
  | .str => .str ""
  | .nil | .unit => .unit
  | .opt _ => .none
  | .vec _ => .list []
  | .map _ _ => .map []
  | .tuple ts => .list (zeros ts)
where
  zeros : List Ty → List Datum
    | [] => []
    | t :: ts => zero t :: zeros ts

end Datum

end PluginHost
