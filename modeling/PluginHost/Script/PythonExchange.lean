import PluginHost.Script.PythonObject
import PluginHost.Datum
import PluginHost.Error
import PluginHost.Single

/-!
# Data as Python objects

What a host passes in is first a `Draft`, an object with everything it holds, and is then placed in the heap. Vectors become
lists; where one is a key of a dictionary, which has to be hashable, it becomes a tuple instead, and so do the vectors that are
its items. Reading is strict: each type accepts values of its own Python type only, and one item that does not fit makes the
whole fail. Reading changes nothing.
-/

namespace PluginHost.Python

/-- The objects of an interpreter. -/
abbrev Heap := Array Object

/-- An object that is not in a heap yet. -/
inductive Draft
  | plain (v : Value)
  | list (items : List Draft)
  | tuple (items : List Draft)
  | dict (entries : List (Draft × Draft))

namespace Draft

mutual

/-- A list as a key: a tuple of its items as keys. Other objects stay what they are. -/
def asKey : Draft → Draft
  | .list items => .tuple (asKeys items)
  | d => d
termination_by structural d => d

/-- Objects as keys. -/
def asKeys : List Draft → List Draft
  | [] => []
  | d :: ds => asKey d :: asKeys ds
termination_by structural ds => ds

end

mutual

/-- Whether an object can be a key. -/
def isHashable : Draft → Bool
  | .plain _ => true
  | .tuple items => allHashable items
  | .list _ | .dict _ => false
termination_by structural d => d

/-- Whether objects can be keys. -/
def allHashable : List Draft → Bool
  | [] => true
  | d :: ds => isHashable d && allHashable ds
termination_by structural ds => ds

end

/-- Reads the items of a sequence one by one, all by the same rule. -/
def traverse {α β : Type} (f : α → Option β) : List α → Option (List β)
  | [] => some []
  | x :: xs => match f x, traverse f xs with
    | some y, some ys => some (y :: ys)
    | _, _ => none

/-- The entry of a dictionary; none if its key cannot be one. -/
def entry? (key value : Option Draft) : Option (Draft × Draft) :=
  match key, value with
  | some k, some v => if k.asKey.isHashable then some (k.asKey, v) else none
  | _, _ => none

mutual

/-- The object for a datum of a type. -/
def ofDatum? : Ty → Datum → Option Draft
  | .int _, .int n => some (.plain (.int n))
  | .f32, .f32 x => some (.plain (.float (Single.toDouble x)))
  | .f64, .f64 x => some (.plain (.float x))
  | .bool, .bool b => some (.plain (.bool b))
  | .str, .str s => some (.plain (.str (Text.ofString s)))
  | .nil, .unit | .unit, .unit => some (.plain .none)
  | .opt _, .none => some (.plain .none)
  | .opt t, .some d => ofDatum? t d
  | .vec t, .list ds => (traverse (ofDatum? t) ds).map .list
  | .tuple ts, .list ds => (ofEach? ts ds).map .tuple
  | .map k v, .map es => (traverse (fun e => entry? (ofDatum? k e.1) (ofDatum? v e.2)) es).map .dict
  | _, _ => none
termination_by structural t => t

/-- The objects for data of a type each. -/
def ofEach? : List Ty → List Datum → Option (List Draft)
  | [], [] => some []
  | t :: ts, d :: ds => match ofDatum? t d, ofEach? ts ds with
    | some x, some xs => some (x :: xs)
    | _, _ => none
  | _, _ => none
termination_by structural ts => ts

end

mutual

/-- Places an object in a heap, behind what it holds. -/
def place : Draft → Heap → Value × Heap
  | .plain v, h => (v, h)
  | .list items, h =>
    let (vs, h) := placeAll items h
    (.ref h.size, h.push { cls := BaseType.list.id, data := .list vs.toArray })
  | .tuple items, h =>
    let (vs, h) := placeAll items h
    (.tuple vs, h)
  | .dict entries, h =>
    let (es, h) := placeEntries entries h
    (.ref h.size, h.push { cls := BaseType.dict.id
                           data := .dict (es.foldl (fun d e => Dict.insert h d e.1 e.2) []) })
termination_by structural d => d

/-- Places objects in a heap. -/
def placeAll : List Draft → Heap → List Value × Heap
  | [], h => ([], h)
  | d :: ds, h =>
    let (v, h) := place d h
    let (vs, h) := placeAll ds h
    (v :: vs, h)
termination_by structural ds => ds

/-- Places keys and values in a heap. -/
def placeEntries : List (Draft × Draft) → Heap → List (Value × Value) × Heap
  | [], h => ([], h)
  | (k, v) :: es, h =>
    let (k, h) := place k h
    let (v, h) := place v h
    let (es, h) := placeEntries es h
    ((k, v) :: es, h)
termination_by structural es => es

end

end Draft

/-- The object for a datum of a type, placed in a heap. -/
def encode (t : Ty) (d : Datum) (h : Heap) : Option (Value × Heap) := (Draft.ofDatum? t d).map fun x => x.place h

/-- The objects for data of a type each, placed in a heap. -/
def encodeAll : List (Ty × Datum) → Heap → Option (List Value × Heap)
  | [], h => some ([], h)
  | (t, d) :: rest, h => match encode t d h with
    | none => none
    | some (v, h) => match encodeAll rest h with
      | none => none
      | some (vs, h) => some (v :: vs, h)

/-- A value, or the plain value behind an instance of a class that inherits from its type. -/
def plainOf (h : Heap) : Value → Value
  | .ref id => match (h.getD id default).data with
    | .payload p => p
    | _ => .ref id
  | v => v

/-- The items of a list or a tuple. -/
def sequence? (h : Heap) (v : Value) : Option (List Value) :=
  match plainOf h v with
  | .tuple items => some items
  | .ref id => match (h.getD id default).data with
    | .list items => some items.toList
    | _ => none
  | _ => none

/-- The items of a tuple. -/
def tuple? (h : Heap) (v : Value) : Option (List Value) :=
  match plainOf h v with
  | .tuple items => some items
  | _ => none

/-- The entries of a dictionary. -/
def mapping? (h : Heap) (v : Value) : Option (List (Value × Value)) :=
  match v with
  | .ref id => match (h.getD id default).data with
    | .dict entries => some entries
    | _ => none
  | _ => none

mutual

/-- The datum of a type that a value is. -/
def decode (h : Heap) : Ty → Value → Option Datum
  | .int t, v => match plainOf h v with
    | .int n => if t.holds n then some (.int n) else none
    | _ => none
  | .f32, v => match plainOf h v with
    | .float x => some (.f32 (Single.ofDouble x))
    | _ => none
  | .f64, v => match plainOf h v with
    | .float x => some (.f64 x)
    | _ => none
  | .bool, .bool b => some (.bool b)
  | .bool, _ => none
  | .str, v => match plainOf h v with
    | .str s => s.string?.map .str
    | _ => none
  | .nil, _ | .unit, _ => none
  | .opt _, .none => some .none
  | .opt t, v => (decode h t v).map .some
  | .vec t, v => match sequence? h v with
    | some items => (Draft.traverse (decode h t) items).map .list
    | none => none
  | .tuple ts, v => match tuple? h v with
    | some items => (decodeEach h ts items).map .list
    | none => none
  | .map k v, x => match mapping? h x with
    | some entries =>
      (Draft.traverse (fun e => match decode h k e.1, decode h v e.2 with
        | some a, some b => some (a, b)
        | _, _ => none) entries).map Datum.mapOfEntries
    | none => none
termination_by structural t => t

/-- The data of a type each that values are. -/
def decodeEach (h : Heap) : List Ty → List Value → Option (List Datum)
  | [], [] => some []
  | t :: ts, v :: vs => match decode h t v, decodeEach h ts vs with
    | some d, some ds => some (d :: ds)
    | _, _ => none
  | _, _ => none
termination_by structural ts => ts

end

/-- The result of a call as a type; one that asks for nothing takes anything. -/
def decodeResult (h : Heap) : Ty → Value → Option Datum
  | .unit, _ => some .unit
  | t, v => decode h t v

end PluginHost.Python
