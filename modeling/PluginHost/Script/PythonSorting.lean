import PluginHost.Script.PythonNative

/-!
# Sorting values of Python

Values are sorted by their own comparison, and items that compare as equal keep their order.
-/

namespace PluginHost.Python

open Run

/-- Puts an item into a sorted part, behind its equals; `low` and `high` bound its place. The fuel bounds the search. -/
def insertSorted (less : Value × Value → Value × Value → Run Bool) (item : Value × Value) (sorted : Array (Value × Value)) :
    Nat → Nat → Nat → Run (Array (Value × Value))
  | 0, low, _ => return sorted.take low ++ #[item] ++ sorted.drop low
  | fuel + 1, low, high => do
    if high ≤ low then return sorted.take low ++ #[item] ++ sorted.drop low
    else
      let mid := low + (high - low) / 2
      match sorted[mid]? with
      | none => return sorted.push item
      | some m =>
        if ← less item m then insertSorted less item sorted fuel low mid
        else insertSorted less item sorted fuel (mid + 1) high

/-- Sorts items with their keys; equal ones keep their order. -/
def sortPairs (eng : Engine) (pairs : List (Value × Value)) (reverse : Bool) : Run (List Value) := do
  let less (a b : Value × Value) : Run Bool := do truth eng (← order eng .lt a.2 b.2)
  let pairs := if reverse then pairs.reverse else pairs
  let sorted ← pairs.foldlM (fun (acc : Array (Value × Value)) p => do
    -- an item that is not below the last one stays where it is
    match acc.back? with
    | none => return acc.push p
    | some last =>
      if ← less p last then insertSorted less p acc (acc.size + 1) 0 (acc.size - 1) else return acc.push p) #[]
  let result := (sorted.toList).map (·.1)
  return if reverse then result.reverse else result

/-- The items of a value in order, as `sorted` and `sort` give them. -/
def sortedItems (eng : Engine) (what : String) (items : List Value) (kw : List (String × Value)) : Run (List Value) := do
  match kw.find? fun a => a.1 ≠ "key" ∧ a.1 ≠ "reverse" with
  | some (n, _) => typeError ("'" ++ n ++ "' is an invalid keyword argument for " ++ what ++ "()")
  | none =>
    let key := (named? kw "key").getD .none
    let reverse ← match kw.find? (·.1 = "reverse") with
      | some (_, v) => truth eng v
      | none => pure false
    let pairs ← items.mapM fun v => do
      match key with
      | .none => return (v, v)
      | f => return (v, ← eng.call f [v] [])
    sortPairs eng pairs reverse

/-- The largest or the smallest of values. -/
def extreme (eng : Engine) (name : String) (op : CmpOp) (args : List Value) (kw : List (String × Value)) : Run Value := do
  let key := (named? kw "key").getD .none
  checkCount name 1 1000000 args.length
  let items ← match args with
    | [v] => itemsOf eng v
    | vs => pure vs
  let keyed (v : Value) : Run Value := do
    match key with
    | .none => return v
    | f => eng.call f [v] []
  match items with
  | [] => match args, kw.find? (·.1 = "default") with
    | [_], some (_, v) => return v
    | _, _ => fail "ValueError" (name ++ "() arg is an empty sequence")
  | first :: rest =>
    let start ← keyed first
    let (best, _) ← rest.foldlM (fun (best, k) v => do
      let k' ← keyed v
      if ← truth eng (← order eng op k' k) then return (v, k') else return (best, k)) (first, start)
    return best

end PluginHost.Python
