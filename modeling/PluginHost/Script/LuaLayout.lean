import PluginHost.Script.LuaValue

/-!
# How Lua tables are laid out

A table keeps the values of the keys from one up in an array and all others in a list with a capacity. Where the array ends
shows in one place only: the length of a table with gaps is some key after which there is none, and which one depends on how
the keys were laid out. `length` therefore searches as the layout prescribes, and `set` lays out the table anew when its list
is full, giving the array the largest size of which more than half is used.
-/

namespace PluginHost.Lua

/-- The parts of a table. -/
structure Layout where
  /-- The values of the keys from one up. -/
  array : Array Value := #[]
  /-- Where the search for the length starts; at most the size of the array. -/
  limit : Nat := 0
  /-- All other keys; a key that was set to nothing stays until the table is laid out anew. -/
  entries : List (Key × Value) := []
  /-- How many keys fit into the list. -/
  capacity : Nat := 0
  metatable : Option Nat := none
deriving Inhabited

namespace Layout

/-- The smallest power of two that is not below a number; none for nothing. -/
def roomFor (n : Nat) : Nat := if n = 0 then 0 else if n = 1 then 1 else 2 ^ (Nat.log2 (n - 1) + 1)

/-- The largest array that is asked for. -/
def maxRoom : Nat := 2 ^ 31 - 1

/-- An empty table with room for values and for other keys. -/
def withRoom (values keys : Nat) : Layout :=
  { array := Array.replicate (min values maxRoom) .nil, limit := min values maxRoom, capacity := roomFor keys }

/-- The value of a key; nothing if it has none. -/
def get (t : Layout) (k : Key) : Value :=
  match k.position? with
  | some i => if h : i < t.array.size then t.array[i] else (t.entries.lookup k).getD .nil
  | none => (t.entries.lookup k).getD .nil

/-- What looking at a key does to the search for the length: a key of the array beyond its start becomes the start. -/
def touch (t : Layout) (k : Key) : Layout :=
  match k.position? with
  | some i => if t.limit ≤ i ∧ i < t.array.size then { t with limit := i + 1 } else t
  | none => t

/-- Whether looking at a key does anything. -/
def isTouched (t : Layout) (k : Key) : Bool :=
  match k.position? with
  | some i => t.limit ≤ i && i < t.array.size
  | none => false

/-- Replaces the value of a key in a list that has it. -/
def replaceIn (k : Key) (v : Value) : List (Key × Value) → List (Key × Value)
  | [] => []
  | (k', v') :: rest => if k' = k then (k', v) :: rest else (k', v') :: replaceIn k v rest

/-- Puts a new key where it belongs, without asking whether it fits. -/
def place (t : Layout) (k : Key) (v : Value) : Layout :=
  match k.position? with
  | some i =>
    if i < t.array.size then { t with array := t.array.setIfInBounds i v } else { t with entries := t.entries ++ [(k, v)] }
  | none => { t with entries := t.entries ++ [(k, v)] }

/-- The keys of the list that have values. -/
def liveEntries (t : Layout) : List (Key × Value) := t.entries.filter fun (_, v) => !v.isNil

/-- The keys of the array that have values, from one up. -/
def arrayEntries (t : Layout) : List (Key × Value) :=
  (t.array.toList.zipIdx.map fun (v, i) => (Key.atPosition i, v)).filter fun (_, v) => !v.isNil

/-- All keys that have values, in the order of a traversal. -/
def toEntries (t : Layout) : List (Key × Value) := t.arrayEntries ++ t.liveEntries

/-- The size of an array for keys from one up and how many of them it holds: the largest power of two of which more than
half is used. -/
def arraySizeFor (keys : List Nat) : Nat × Nat :=
  (List.range 31).foldl (fun best i =>
    let size := 2 ^ i
    let used := (keys.filter (· ≤ size)).length
    if size / 2 < keys.length ∧ size / 2 < used then (size, used) else best) (0, 0)

/-- A table with an array of a certain size, which keeps what fits of the old one, and no other keys. -/
def fresh (t : Layout) (values keys : Nat) : Layout :=
  let kept := t.array.toList.take values
  { t with
    array := (kept ++ List.replicate (values - kept.length) Value.nil).toArray
    limit := values, entries := [], capacity := roomFor keys }

/-- The keys with values that an array of a certain size has no places for. -/
def vanished (t : Layout) (values : Nat) : List (Key × Value) :=
  t.arrayEntries.filter fun (k, _) => (k.position?.getD 0) ≥ values

/-- Lays a table out for certain sizes of its parts. -/
def resize (t : Layout) (values keys : Nat) : Layout :=
  (t.vanished values ++ t.liveEntries).foldl (fun t (k, v) => t.place k v) (t.fresh values keys)

/-- The keys from one up among keys, as the numbers they are. -/
def positions (ks : List (Key × Value)) : List Nat := ks.filterMap fun (k, _) => (k.position?).map (· + 1)

/-- Lays a table out so that a further key fits. -/
def rehash (t : Layout) (k : Key) : Layout :=
  let all := t.toEntries
  let keys := positions ((k, Value.nil) :: all)
  let (size, used) := arraySizeFor keys
  t.resize size (all.length + 1 - used)

/-- Gives a key a value; a value of nothing removes it. -/
def set (t : Layout) (k : Key) (v : Value) : Layout :=
  match k.position? with
  | some i =>
    if i < t.array.size then (t.touch k).place k v else setEntry t k v
  | none => setEntry t k v
where
  /-- Gives a key of the list a value. -/
  setEntry (t : Layout) (k : Key) (v : Value) : Layout :=
    if (t.entries.lookup k).isSome then { t with entries := replaceIn k v t.entries }
    else if v.isNil then t
    else if t.entries.length < t.capacity then t.place k v
    else (t.rehash k).place k v

/-- Whether a key from one up has a value. -/
def hasPosition (t : Layout) (n : Nat) : Bool := !(t.get (.integer (Int64.ofNat n))).isNil

/-- A number between two with a value and none after it: `low` has a value or is zero, and `high` has none. -/
def bisect (t : Layout) (low high : Nat) : Nat :=
  if h : low + 1 < high then
    let middle := (low + high) / 2
    if t.hasPosition middle then bisect t middle high else bisect t low middle
  else low
termination_by high - low

/-- Doubles a number with a value until one without, and searches between them. The fuel bounds the doublings. -/
def gallop (t : Layout) : Nat → Nat → Nat → Nat
  | 0, low, _ => low
  | fuel + 1, low, high => if t.hasPosition high then gallop t fuel high (high * 2) else t.bisect low high

/-- Remembers a length. Only an array whose size is a power of two may start its search elsewhere than at its end. -/
def remember (t : Layout) (border : Nat) : Layout :=
  if roomFor t.array.size = t.array.size ∧ t.array.size / 2 < border then { t with limit := border } else t

/-- The length of a table, with what the search for it remembers. -/
def length (t : Layout) : Nat × Layout :=
  let size := t.array.size
  if 0 < t.limit ∧ !t.hasPosition t.limit then
    if 2 ≤ t.limit ∧ t.hasPosition (t.limit - 1) then (t.limit - 1, t.remember (t.limit - 1))
    else
      let border := t.bisect 0 t.limit
      (border, t.remember border)
  else if t.limit < size ∧ !t.hasPosition (t.limit + 1) then (t.limit, t)
  else if t.limit < size ∧ !t.hasPosition size then
    let border := t.bisect t.limit size
    (border, { t with limit := border })
  else
    if t.hasPosition (size + 1) then (gallop t 64 size (if size = 0 then 1 else size * 2), t) else (size, t)

/-- The entry after a key in a traversal, or the first one. A key that the table does not have is an error. -/
def next? (t : Layout) (k : Option Key) : Option (Option (Key × Value)) :=
  let rest : Option (List (Key × Value)) := match k with
    | none => some t.toEntries
    | some k => match k.position? with
      | some i =>
        if i < t.array.size then
          some (t.arrayEntries.filter (fun (k, _) => i < (k.position?.getD 0)) ++ t.liveEntries)
        else afterEntry k t.entries
      | none => afterEntry k t.entries
  rest.map List.head?
where
  /-- The keys with values behind a key of the list. -/
  afterEntry (k : Key) : List (Key × Value) → Option (List (Key × Value))
    | [] => none
    | (k', _) :: rest =>
      if k' = k then
        some (rest.filter fun (_, v) => !v.isNil)
      else afterEntry k rest

/-- What every operation keeps: a key stands in one place only, and the array is not too large for its places to be keys. -/
structure IsProper (t : Layout) : Prop where
  distinct : (t.entries.map Prod.fst).Nodup
  apart : ∀ e ∈ t.entries, ∀ i, e.1.position? = some i → t.array.size ≤ i
  small : t.array.size < 2 ^ 31

end Layout

end PluginHost.Lua
