import PluginHost.Script.PythonConstructors
import PluginHost.Script.PythonTextMethods

/-!
# The methods of containers of Python

Lists, tuples, dictionaries, sets and sequences of bytes. What tuples share with lists, and frozen sets with sets, is written
once.
-/

namespace PluginHost.Python

open Run

/-- A method on lists. -/
def listSome (name : String) (least most : Nat) (f : Engine → Nat → Array Value → List Value → Run Value) :
    String × NativeBody :=
  methodSome "list" name least most fun eng self args => do
    match self with
    | .ref id => match ← data id with
      | .list items => f eng id items args
      | _ => return .none
    | _ => return .none

/-- A method on lists with one argument. -/
def listOne (name : String) (f : Engine → Nat → Array Value → Value → Run Value) : String × NativeBody :=
  methodOne "list" name fun eng self v => do
    match self with
    | .ref id => match ← data id with
      | .list items => f eng id items v
      | _ => return .none
    | _ => return .none

/-- The place of a value among items. -/
def placeAmong? (eng : Engine) (items : List Value) (v : Value) : Run (Option Nat) := do
  return (← items.zipIdx.findM? fun (x, _) => equalOrSame eng x v).map (·.2)

/-- The methods for items that several types share. -/
def itemMethods (owner : String) : List (String × NativeBody) := [
  methodOne owner "__getitem__" fun eng self v => plainGetItem eng self v,
  methodSome owner "__setitem__" 2 2 fun eng self args => do
    plainSetItem eng self (args.getD 0 .none) (args.getD 1 .none)
    return .none,
  methodOne owner "__delitem__" fun eng self v => do
    plainDelItem eng self v
    return .none,
  methodZero owner "__len__" fun eng self => do
    match ← self.plain with
    | .ref id => match ← data id with
      | .list items => return .int items.size
      | .dict entries => return .int entries.length
      | .set items => return .int items.length
      | _ => return .int 0
    | p => return .int ((← length? eng p).getD 0)]

/-- The methods of lists. -/
def listMethods : List (String × NativeBody) := itemMethods "list" ++ [
  listOne "append" fun _ id items v => do
    setData id (.list #[])
    setData id (.list (items.push v))
    return .none,
  listOne "extend" fun eng id _ v => do
    let more ← itemsOf eng v
    match ← data id with
    | .list items => setData id (.list (items ++ more.toArray))
    | _ => pure ()
    return .none,
  listSome "insert" 2 2 fun eng id items args => do
    let n ← needInt eng (args.getD 0 .none)
    let i := (if n < 0 then max (n + items.size) 0 else min n items.size).toNat
    setData id (.list (items.take i ++ #[args.getD 1 .none] ++ items.drop i))
    return .none,
  listSome "pop" 0 1 fun eng id items args => do
    if items.isEmpty then fail "IndexError" "pop from empty list"
    else
      let n ← match args with
        | [v] => needInt eng v
        | _ => pure (-1)
      match placeOf? items.size n with
      | some i =>
        setData id (.list (items.toList.eraseIdx i).toArray)
        return items.getD i .none
      | none => fail "IndexError" "pop index out of range",
  listOne "remove" fun eng id items v => do
    match ← placeAmong? eng items.toList v with
    | some i =>
      setData id (.list (items.toList.eraseIdx i).toArray)
      return .none
    | none => fail "ValueError" "list.remove(x): x not in list",
  listSome "clear" 0 0 fun _ id _ _ => do
    setData id (.list #[])
    return .none,
  listSome "copy" 0 0 fun _ _ items _ => list items.toList,
  listSome "index" 1 3 fun eng _ items args => do
    let (a, b) ← searchBounds eng items.size args[1]? args[2]?
    match ← placeAmong? eng ((items.toList.take b).drop a) (args.getD 0 .none) with
    | some i => return .int (a + i : Nat)
    | none => fail "ValueError" ((← repr eng (args.getD 0 .none)).string ++ " is not in list"),
  listOne "count" fun eng _ items v => do
    return .int (← items.toList.filterM fun x => equalOrSame eng x v).length,
  listSome "reverse" 0 0 fun _ id items _ => do
    setData id (.list items.reverse)
    return .none,
  ("sort", fun eng args kw => do
    let (self, rest) ← receiver "list" "sort" args
    unless rest.isEmpty do typeError "sort() takes no positional arguments"
    match self with
    | .ref id => match ← data id with
      | .list items =>
        setData id (.list (← sortedItems eng "sort" items.toList kw).toArray)
        return .none
      | _ => return .none
    | _ => return .none)]

/-- The methods of tuples. -/
def tupleMethods : List (String × NativeBody) := itemMethods "tuple" ++ [
  methodSome "tuple" "index" 1 3 fun eng self args => do
    match ← self.plain with
    | .tuple items => match ← placeAmong? eng items (args.getD 0 .none) with
      | some i => return .int i
      | none => fail "ValueError" "tuple.index(x): x not in tuple"
    | _ => return .none,
  methodOne "tuple" "count" fun eng self v => do
    match ← self.plain with
    | .tuple items => return .int (← items.filterM fun x => equalOrSame eng x v).length
    | _ => return .none]

/-- A method on dictionaries. -/
def dictSome (name : String) (least most : Nat) (f : Engine → Nat → List (Value × Value) → List Value → Run Value) :
    String × NativeBody :=
  methodSome "dict" name least most fun eng self args => do
    match self with
    | .ref id => f eng id (← entriesOf id) args
    | _ => return .none

/-- The methods of dictionaries. -/
def dictMethods : List (String × NativeBody) := itemMethods "dict" ++ [
  dictSome "get" 1 2 fun eng _ entries args => do
    checkHashable eng recursionFuel (args.getD 0 .none)
    return (Dict.find? (← get).heap entries (args.getD 0 .none)).getD (args.getD 1 .none),
  dictSome "keys" 0 0 fun _ _ entries _ => list (entries.map (·.1)),
  dictSome "values" 0 0 fun _ _ entries _ => list (entries.map (·.2)),
  dictSome "items" 0 0 fun _ _ entries _ => list (entries.map fun (k, v) => .tuple [k, v]),
  dictSome "pop" 1 2 fun eng id entries args => do
    let key := args.getD 0 .none
    checkHashable eng recursionFuel key
    let heap := (← get).heap
    match Dict.find? heap entries key, args[1]? with
    | some v, _ =>
      setData id (.dict (Dict.erase heap entries key))
      return v
    | none, some v => return v
    | none, none => throwValue (← exception "KeyError" [key] []),
  dictSome "popitem" 0 0 fun _ id entries _ => do
    match entries.getLast? with
    | some (k, v) =>
      setData id (.dict entries.dropLast)
      return .tuple [k, v]
    | none => throwValue (← exception "KeyError" [.ofString "popitem(): dictionary is empty"] []),
  dictSome "setdefault" 1 2 fun eng id entries args => do
    let key := args.getD 0 .none
    checkHashable eng recursionFuel key
    match Dict.find? (← get).heap entries key with
    | some v => return v
    | none =>
      setItemOf eng id key (args.getD 1 .none)
      return args.getD 1 .none,
  ("update", fun eng args kw => do
    let (self, rest) ← receiver "dict" "update" args
    match self with
    | .ref id => fillDict eng id rest kw
    | _ => pure ()
    return .none),
  dictSome "clear" 0 0 fun _ id _ _ => do
    setData id (.dict [])
    return .none,
  dictSome "copy" 0 0 fun _ id entries _ => do
    let o ← object id
    alloc { o with data := .dict entries },
  ("fromkeys", fun eng args _ => do
    match args with
    | cls :: keys :: more =>
      let made ← eng.call cls [] []
      for k in ← itemsOf eng keys do setItem eng made k (more.headD .none)
      return made
    | _ => typeError "fromkeys expected at least 1 argument, got 0")]

/-- A method on sets. -/
def setSome (owner name : String) (least most : Nat) (f : Engine → Nat → List Value → List Value → Run Value) :
    String × NativeBody :=
  methodSome owner name least most fun eng self args => do
    match self with
    | .ref id => match ← data id with
      | .set items => f eng id items args
      | _ => return .none
    | _ => return .none

/-- The methods that sets that can change and those that cannot have both. -/
def commonSetMethods (owner : String) : List (String × NativeBody) :=
  let has (heap : Array Object) (s : List Value) (x : Value) : Bool := s.any fun y => (keyOf heap x).sameKey (keyOf heap y)
  let with_ (eng : Engine) (id : Nat) (items : List Value) (args : List Value)
      (f : (Value → Bool) → (List Value → Value → Bool) → List Value → List Value → List Value) : Run Value := do
    let others := (← args.mapM (itemsOf eng)).flatten
    let heap := (← get).heap
    alloc { cls := (← object id).cls, data := .set (f (has heap others) (has heap) items others) }
  [setSome owner "union" 0 1000 fun eng id items args => do
      let others := (← args.mapM (itemsOf eng)).flatten
      alloc { cls := (← object id).cls, data := .set (← others.foldlM (addMember eng) items) },
    setSome owner "intersection" 0 1000 fun eng id items args =>
      with_ eng id items args fun inOthers _ items _ => items.filter inOthers,
    setSome owner "difference" 0 1000 fun eng id items args =>
      with_ eng id items args fun inOthers _ items _ => items.filter fun x => !inOthers x,
    setSome owner "symmetric_difference" 1 1 fun eng id items args =>
      with_ eng id items args fun inOthers has items others =>
        items.filter (fun x => !inOthers x) ++ others.filter fun x => !has items x,
    setSome owner "issubset" 1 1 fun eng _ items args => do
      let others ← itemsOf eng (args.getD 0 .none)
      let heap := (← get).heap
      return .bool (items.all (has heap others)),
    setSome owner "issuperset" 1 1 fun eng _ items args => do
      let others ← itemsOf eng (args.getD 0 .none)
      let heap := (← get).heap
      return .bool (others.all (has heap items)),
    setSome owner "isdisjoint" 1 1 fun eng _ items args => do
      let others ← itemsOf eng (args.getD 0 .none)
      let heap := (← get).heap
      return .bool !(others.any (has heap items)),
    setSome owner "copy" 0 0 fun _ id items _ => do alloc { cls := (← object id).cls, data := .set items }]

/-- The methods of sets. -/
def setMethods : List (String × NativeBody) := commonSetMethods "set" ++ [
  setSome "set" "add" 1 1 fun eng id items args => do
    setData id (.set (← addMember eng items (args.getD 0 .none)))
    return .none,
  setSome "set" "discard" 1 1 fun eng id items args => do
    let _ ← without eng id items (args.getD 0 .none)
    return .none,
  setSome "set" "remove" 1 1 fun eng id items args => do
    if ← without eng id items (args.getD 0 .none) then return .none
    else throwValue (← exception "KeyError" [args.getD 0 .none] []),
  setSome "set" "pop" 0 0 fun _ id items _ => do
    match items with
    | v :: rest =>
      setData id (.set rest)
      return v
    | [] => throwValue (← exception "KeyError" [.ofString "pop from an empty set"] []),
  setSome "set" "clear" 0 0 fun _ id _ _ => do
    setData id (.set [])
    return .none,
  setSome "set" "update" 0 1000 fun eng id items args => do
    let others := (← args.mapM (itemsOf eng)).flatten
    setData id (.set (← others.foldlM (addMember eng) items))
    return .none]
where
  /-- Removes a member, and tells whether it was there. -/
  without (eng : Engine) (id : Nat) (items : List Value) (v : Value) : Run Bool := do
    checkHashable eng recursionFuel v
    let heap := (← get).heap
    let rest := items.filter fun x => !(keyOf heap x).sameKey (keyOf heap v)
    setData id (.set rest)
    return rest.length < items.length

/-- The methods of bytes, of either kind. -/
def bytesMethods (owner : String) : List (String × NativeBody) :=
  let contents (v : Value) : Run (List UInt8) := do
    match ← v.plain with
    | .bytes b => return b
    | .ref id => match ← data id with
      | .bytearray b => return b
      | _ => return []
    | _ => return []
  [methodNamed owner "decode" ["encoding", "errors"] fun _ self arg => do
      checkEncoding (arg "encoding") "decode() argument 'encoding'"
      decodeBytes (← contents self),
    methodZero owner "hex" fun _ self => do
      return .ofString (String.join ((← contents self).map fun b => hexPadded 2 b.toNat)),
    methodSome owner "startswith" 1 1 fun _ self args => do
      return .bool ((← contents (args.getD 0 .none)).isPrefixOf (← contents self)),
    methodSome owner "endswith" 1 1 fun _ self args => do
      return .bool ((← contents (args.getD 0 .none)).isSuffixOf (← contents self))]

end PluginHost.Python
