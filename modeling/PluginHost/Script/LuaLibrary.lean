import PluginHost.Script.LuaMath
import PluginHost.Script.LuaText
import PluginHost.Script.LuaParser

/-!
# The standard library of Lua

`Machine.callBuiltin` runs a library function: it gives results, raises an error, or calls another function with a frame that
says how to go on.
-/

namespace PluginHost.Lua

open PluginHost.Lua.Frame (pending)

namespace Machine

/-- Gives the results of a function that only looks at its arguments. -/
def giveResult (m : Machine) (r : Except Failure (List Value)) (b : Builtin) (site : Site) : Machine :=
  match r with
  | .ok vs => m.give vs
  | .error f => m.fail f b site

/-- The place of the call at a level: one is the caller of the library function, two is the caller of that one, and so on. -/
def placeAt (m : Machine) (site : Site) (level : Nat) : Option Place :=
  if level ≤ 1 then site.place
  else
    let sites := m.frames.filterMap fun
      | .ret site _ | .protect site _ _ | .pending site _ _ => some site
      | _ => none
    (sites[level - 2]?).bind (·.place)

/-- Raises a value as `error` does: a text gets the place of a level in front. Levels have 32 bits. -/
def raiseAt (m : Machine) (v : Value) (site : Site) (level : Int32) : Machine :=
  match v with
  | .text s => if 0 < level.toInt then m.raise (.text (Place.tag (m.placeAt site level.toInt.toNat) ++ s)) else m.raise v
  | v => m.raise v

/-! ## Texts of values -/

/-- The number of what a value refers to, as text. -/
def addressText : Value → String
  | .table id | .function id | .thread id | .address id =>
    let digits := Nat.toDigits 16 (id * 64 + 0x1000)
    "0x" ++ String.ofList (List.replicate (14 - digits.length) '0' ++ digits)
  | _ => "0x00000000001000"

/-- The text of a value whose metatable has no say. -/
def plainText (h : Heap) (v : Value) : ByteArray :=
  match v with
  | .nil => Bytes.ofString "nil"
  | .boolean b => Bytes.ofString (if b then "true" else "false")
  | .builtin _ => Bytes.ofString ("builtin: " ++ addressText v)
  | .stream _ => Bytes.ofString s!"file ({addressText v})"
  | v => (v.toText?).getD (Bytes.ofString s!"{h.typeName v}: {addressText v}")

/-- Writes values to the output with tabs between them. Values with a text of their own making are asked for it first. -/
def print (m : Machine) (site : Site) : Bool → List Value → Machine
  | _, [] => (m.withHeap fun h => { h with output := h.output ++ Bytes.ofString "\n" }).give []
  | isFirst, v :: vs =>
    let m := if isFirst then m else m.withHeap fun h => { h with output := h.output ++ Bytes.ofString "\t" }
    match m.heap.metafield v "__tostring" with
    | .nil => (m.withHeap fun h => { h with output := h.output ++ plainText h v }).print site false vs
    | f => (m.push (.pending site m.activation (.print isFirst vs))).call f [v] {}

/-! ## Tables -/

/-- A value of a list by its place. -/
def item (t : Table) (n : Int) : Value := t.get (.integer (Int64.ofInt n))

/-- Gives a place of a list a value. -/
def setItem (t : Table) (n : Int) (v : Value) : Table := t.set (.integer (Int64.ofInt n)) v

/-- Puts the values of a list in order when they compare without metamethods. -/
def sortPlainly? (vs : List Value) : Option (List Value) :=
  match vs with
  | [] => some []
  | v :: rest =>
    if rest.all fun w => (order? v w).isSome then some (vs.mergeSort fun a b => order? b a != some (some .lt)) else none

/-- Writes sorted values back into their table. -/
def finishSort (m : Machine) (table : Nat) (vs : List Value) : Machine :=
  (m.withHeap (·.modifyTable table fun t =>
    vs.zipIdx.foldl (fun t (v, i) => t.set (.integer (Int64.ofNat (i + 1))) v) t)).give []

/-- Inserts values into a sorted list one after the other, asking for their order. -/
def sortOn (m : Machine) (site : Site) (table : Nat) (order : Value) : List Value → List Value → Machine
  | sorted, [] => m.finishSort table sorted
  | [], x :: todo => m.sortOn site table order [x] todo
  | y :: after, x :: todo =>
    let m := m.push (.pending site m.activation (.sort table order x [] (y :: after) todo))
    match order with
    | .nil => m.less x y false none
    | f => m.call f [x, y] {}

/-- Goes on sorting when it is known whether the inserted value comes before the next one. -/
def sortStep (m : Machine) (site : Site) (table : Nat) (order x : Value) (before after todo : List Value)
    (isBefore : Bool) : Machine :=
  match after with
  | [] => m.sortOn site table order (before.reverse ++ [x]) todo
  | y :: after =>
    if isBefore then m.sortOn site table order (before.reverse ++ x :: y :: after) todo
    else match after with
      | [] => m.sortOn site table order (before.reverse ++ [y, x]) todo
      | z :: after =>
        let m := m.push (.pending site m.activation (.sort table order x (y :: before) (z :: after) todo))
        match order with
        | .nil => m.less x z false none
        | f => m.call f [x, z] {}

/-- A function of the `table` library. -/
def tableCall (m : Machine) (f : TableFunction) (args : Args) (site : Site) : Except Failure Machine := do
  match f with
  | .pack =>
    let n := args.values.length
    let t := args.values.zipIdx.foldl (fun t (v, i) => t.set (.integer (Int64.ofNat (i + 1))) v) (Table.withRoom n 1)
    let (id, h) := m.heap.addTable (t.setField "n" (.integer (Int64.ofNat n)))
    return { m with heap := h }.give1 (.table id)
  | .unpack =>
    let t ← match args.get 1 with
      | .table id => pure (m.heap.table id)
      | _ => throw (args.expected 1 "table")
    let first := (← args.integerOr 2 1).toInt
    let last := (← args.integerOr 3 (Int64.ofNat t.length.1)).toInt
    if last < first then return m.give []
    else if 1000000 ≤ last - first then throw (.message "too many results to unpack")
    else return m.give ((List.range (last - first + 1).toNat).map fun (i : Nat) => item t (first + i))
  | .concat =>
    let id ← args.table 1
    let t := m.heap.table id
    let separator ← if args.isAbsent 2 then pure .empty else args.text 2
    let first := (← args.integerOr 3 1).toInt
    let last := (← args.integerOr 4 (Int64.ofNat t.length.1)).toInt
    if last < first then return m.give1 (.text .empty)
    else
      let parts ← (List.range (last - first + 1).toNat).mapM fun (i : Nat) => match (item t (first + i)).toText? with
        | some s => return s
        | none => throw (Failure.message
            s!"invalid value (at index {first + i}) in table for 'concat'")
      return m.give1 (.text (parts.tail.foldl (fun out s => out ++ separator ++ s) (parts.headD .empty)))
  | .insert =>
    let id ← args.table 1
    let (n, t) := (m.heap.table id).length
    match args.values.length with
    | 2 => return (m.withHeap (·.modifyTable id fun _ => setItem t (n + 1) (args.get 2))).give []
    | 3 =>
      let at_ := (← args.integer 2).toInt
      if at_ < 1 ∨ (n : Int) + 1 < at_ then throw (.argument 2 "position out of bounds")
      else
        let moved := (List.range (n + 1 - at_.toNat)).foldl (fun t (i : Nat) =>
          setItem t (n + 1 - i) (item t (n - i))) t
        return (m.withHeap (·.modifyTable id fun _ => setItem moved at_ (args.get 3))).give []
    | _ => throw (.message "wrong number of arguments to 'insert'")
  | .remove =>
    let id ← args.table 1
    let (n, t) := (m.heap.table id).length
    let at_ := (← args.integerOr 2 (Int64.ofNat n)).toInt
    if 2 ≤ args.values.length ∧ at_ ≠ n ∧ (at_ < 1 ∨ (n : Int) + 1 < at_) ∧ ¬(n = 0 ∧ at_ = 0) then
      throw (.argument 2 "position out of bounds")
    else
      let removed := item t at_
      let t := (List.range ((n : Int) - at_).toNat).foldl (fun t (i : Nat) => setItem t (at_ + i) (item t (at_ + i + 1))) t
      let t := if at_ ≤ n ∨ at_ = n + 1 then setItem t (max at_ n) .nil else t
      return (m.withHeap (·.modifyTable id fun _ => t)).give1 removed
  | .move =>
    let source ← args.table 1
    let first := (← args.integer 2).toInt
    let last := (← args.integer 3).toInt
    let place := (← args.integer 4).toInt
    let target ← if args.isAbsent 5 then pure source else args.table 5
    if 10000000 < last - first then throw (.argument 3 "too many elements to move")
    else
      let values := (List.range (last - first + 1).toNat).map fun (i : Nat) => item (m.heap.table source) (first + i)
      let m := m.withHeap (·.modifyTable target fun t =>
        values.zipIdx.foldl (fun t ((v, i) : Value × Nat) => setItem t (place + i) v) t)
      return m.give1 (.table target)
  | .sort =>
    let id ← args.table 1
    let order ← match args.get 2 with
      | .nil => pure Value.nil
      | .function f => pure (.function f)
      | .builtin b => pure (.builtin b)
      | _ => throw (args.expected 2 "function")
    let t := m.heap.table id
    let vs := (List.range t.length.1).map fun (i : Nat) => item t (i + 1)
    match order, sortPlainly? vs with
    | .nil, some sorted => return m.finishSort id sorted
    | order, _ => return m.sortOn site id order [] vs

/-! ## Replacing matches -/

/-- The text of a replacement, or the match itself if there is none. -/
def Replacement.text (whole : List Char) (v : Value) : Except Failure (List Char) :=
  match v with
  | .nil | .boolean false => return whole
  | v => match v.toText? with
    | some s => return Bytes.toChars s
    | none => throw (.message s!"invalid replacement value (a {v.typeName})")

/-- Goes on replacing matches until a function has to be asked for a replacement. The fuel is the length of the text. -/
def substitute (m : Machine) (site : Site) : Nat → Substitution → Except Failure Machine
  | 0, w => return finishWork m w
  | fuel + 1, w => do
    let anchored := w.pattern[0]? = some '^'
    if w.limit ≤ w.count ∨ (anchored ∧ (0 < w.position ∨ w.lastEnd.isSome)) then return finishWork m w
    else
      let found ← patternResult
        (Pattern.matchFrom w.subject w.pattern (w.pattern.size + 1) w.position (if anchored then 1 else 0) #[])
      match found with
      | some (stop, captures) =>
        if w.lastEnd = some stop then skip fuel w
        else
          let whole := (w.subject.extract w.position stop).toList
          let values ← captureValues w.subject w.position stop captures
          let first := w.position
          let w := { w with count := w.count + 1, position := stop, lastEnd := some stop }
          match w.replacement with
          | .table _ =>
            return (m.push (pending site m.activation (.substitute w first stop))).index w.replacement (values.headD .nil)
              none none
          | .function _ | .builtin _ =>
            return (m.push (pending site m.activation (.substitute w first stop))).call w.replacement values {}
          | v =>
            let text ← expandReplacement whole values (Bytes.toChars ((v.toText?).getD .empty))
            substitute m site fuel { w with written := text.reverse ++ w.written }
      | none => skip fuel w
where
  /-- Gives the finished text and the number of matches. -/
  finishWork (m : Machine) (w : Substitution) : Machine :=
    let rest := (w.subject.extract w.position w.subject.size).toList
    m.give [.text (Bytes.ofChars (w.written.reverse ++ rest)), .integer (Int64.ofNat w.count)]
  /-- Leaves a character as it is. -/
  skip (fuel : Nat) (w : Substitution) : Except Failure Machine :=
    match w.subject[w.position]? with
    | some c => substitute m site fuel { w with written := c :: w.written, position := w.position + 1 }
    | none => return finishWork m w

/-- Starts to replace matches. -/
def startSubstitute (m : Machine) (args : Args) (site : Site) : Except Failure Machine := do
  let subject := (Bytes.toChars (← args.text 1)).toArray
  let pattern := (Bytes.toChars (← args.text 2)).toArray
  let replacement ← match args.get 3 with
    | .nil | .boolean _ | .thread _ | .stream _ | .address _ => throw (args.expected 3 "string/function/table")
    | v => pure v
  let limit ← args.integerOr 4 (Int64.ofNat (subject.size + 1))
  m.substitute site (2 * subject.size + 3) { subject, pattern, replacement, limit := limit.toInt.toNat }

/-- The next match of a search; a caret means nothing here. -/
def nextMatch (m : Machine) (id : Nat) : Except Failure Machine := do
  let s := m.heap.searches.getD id default
  go s ((List.range (s.subject.size + 1 - s.position)).map (s.position + ·))
where
  /-- Tries places one after the other. -/
  go (s : Search) : List Nat → Except Failure Machine
    | [] => return m.give1 .nil
    | i :: rest => do
      match ← patternResult (Pattern.matchFrom s.subject s.pattern (s.pattern.size + 1) i 0 #[]) with
      | some (stop, captures) =>
        if s.lastEnd = some stop then go s rest
        else
          let m := m.withHeap fun h =>
            { h with searches := h.searches.setIfInBounds id { s with position := stop, lastEnd := some stop } }
          return m.give (← captureValues s.subject i stop captures)
      | none => go s rest

/-! ## Coroutines -/

/-- The name of what a coroutine is doing. -/
def statusName : ThreadStatus → String
  | .suspended => "suspended"
  | .running => "running"
  | .normal => "normal"
  | .dead => "dead"

/-- Changes a coroutine. -/
def modifyThread (m : Machine) (id : Nat) (f : Thread → Thread) : Machine :=
  m.withHeap fun h => { h with threads := h.threads.modify id f }

/-- Goes on with a coroutine. -/
def resume (m : Machine) (id : Nat) (args : List Value) (site : Site) (isWrapped : Bool) : Machine :=
  let t := m.heap.threads.getD id default
  match t.status with
  | .suspended =>
    let r : Resumer := { thread := m.current, frames := m.frames, activation := m.activation, site, isWrapped }
    let nested := m.activation.nested + 1
    let m := (m.modifyThread m.current fun t => { t with status := .normal }).modifyThread id fun t =>
      { t with status := .running, start := none, frames := [] }
    let m := { m with
      frames := t.frames, activation := { t.activation with nested }, current := id, resumers := r :: m.resumers }
    match t.start with
    | some f => m.call f args {}
    | none => m.give args
  | status =>
    let problem := if status = .dead then "cannot resume dead coroutine" else "cannot resume non-suspended coroutine"
    if isWrapped then m.fault site.place problem else m.give [.boolean false, .ofString problem]

/-- Goes back to the coroutine that resumed this one. -/
def returnTo (m : Machine) (r : Resumer) (rest : List Resumer) : Machine :=
  let m := m.modifyThread r.thread fun t => { t with status := .running }
  { m with frames := r.frames, activation := r.activation, current := r.thread, resumers := rest }

/-- Puts the running coroutine aside. -/
def yield (m : Machine) (vs : List Value) : Machine :=
  match m.resumers with
  | [] => m.fault none "attempt to yield from outside a coroutine"
  | r :: rest =>
    let m := m.modifyThread m.current fun t =>
      { t with status := .suspended, frames := m.frames, activation := m.activation }
    (m.returnTo r rest).give (if r.isWrapped then vs else .boolean true :: vs)

/-- A function of the `coroutine` library. -/
def threadCall (m : Machine) (f : ThreadFunction) (args : Args) (site : Site) : Except Failure Machine := do
  let create : Except Failure (Nat × Machine) := do
    match args.get 1 with
    | .function _ | .builtin _ => pure ()
    | _ => throw (args.expected 1 "function")
    let id := m.heap.threads.size
    return (id, m.withHeap fun h => { h with threads := h.threads.push { start := some (args.get 1) } })
  let thread : Except Failure Nat := match args.get 1 with
    | .thread id => return id
    | _ => throw (args.expected 1 "coroutine")
  match f with
  | .create =>
    let (id, m) ← create
    return m.give1 (.thread id)
  | .wrap =>
    let (id, m) ← create
    return m.give1 (.builtin (.wrapped id))
  | .resume => return m.resume (← thread) (args.values.drop 1) site false
  | .yield => return m.yield args.values
  | .status => return m.give1 (.ofString (statusName (m.heap.threads.getD (← thread) default).status))
  | .running => return m.give [.thread m.current, .boolean m.resumers.isEmpty]
  | .isYieldable => return m.give1 (.boolean !m.resumers.isEmpty)
  | .close =>
    let id ← thread
    match (m.heap.threads.getD id default).status with
    | .suspended | .dead =>
      return (m.modifyThread id fun t => { t with status := .dead, frames := [], start := none }).give1 (.boolean true)
    | status => throw (.message s!"cannot close a {statusName status} coroutine")

/-! ## Basic functions -/

/-- The number that a text spells in a base. -/
def numberInBase? (cs : List Char) (base : Nat) : Option Int64 := do
  let cs := ((cs.dropWhile isSpace).reverse.dropWhile isSpace).reverse
  let (negative, digits) := splitSign cs
  if digits = [] then none
  else
    let n ← digits.foldlM (fun n c => do
      let d := if c.isDigit then c.toNat - 48 else if c.isAlpha then c.toLower.toNat - 87 else base
      if d < base then some (n * base + d) else none) 0
    let n := Int64.ofNat n
    some (if negative then -n else n)

/-- `tonumber`. -/
def toNumber (args : Args) : Except Failure (List Value) := do
  if args.isAbsent 2 then
    match (← args.any 1).toNumber? with
    | some n => return [.ofNumber n]
    | none => return [.nil]
  else
    let base ← args.integer 2
    match args.get 1 with
    | .text s =>
      if base.toInt < 2 ∨ 36 < base.toInt then throw (.argument 2 "base out of range")
      else match numberInBase? (Bytes.toChars s) base.toInt.toNat with
        | some n => return [.integer n]
        | none => return [.nil]
    | _ => throw (args.expected 1 "string")

/-- `select`. -/
def select (args : Args) : Except Failure (List Value) := do
  let rest := args.values.drop 1
  if args.get 1 |>.rawEquals (.ofString "#") then return [.integer (Int64.ofNat rest.length)]
  else
    let n := (← args.integer 1).toInt
    if n < 0 then
      if (rest.length : Int) + n < 0 then throw (.argument 1 "index out of range")
      else return rest.drop (rest.length + n).toNat
    else if n = 0 then throw (.argument 1 "index out of range")
    else return rest.drop (n.toNat - 1)

/-- Writes texts to a stream. -/
def write (m : Machine) (args : Args) : Except Failure Machine := do
  let (stream, offset) := match args.get 1 with
    | .stream s => (s, 1)
    | _ => (Stream.output, 0)
  let parts ← (List.range (args.values.length - offset)).mapM fun i => args.text (i + 1 + offset)
  let m := if stream = .output then m.withHeap fun h => { h with output := parts.foldl (· ++ ·) h.output } else m
  return m.give1 (.stream stream)

/-- How messages name a chunk: a name after an equals sign as it is, the end of a path after an at sign, and otherwise the
first line of the chunk itself. -/
def shortChunk (name : ByteArray) : ByteArray :=
  let cs := Bytes.toChars name
  let room := 60
  match cs with
  | '=' :: rest => Bytes.ofChars (rest.take (room - 1))
  | '@' :: rest =>
    if rest.length < room then Bytes.ofChars rest
    else Bytes.ofString "..." ++ Bytes.ofChars (rest.drop (rest.length - (room - 4)))
  | cs =>
    let line := cs.takeWhile (· ≠ '\n')
    let room := 45
    let inside := if line.length < room ∧ line.length = cs.length then line else line.take room ++ "...".toList
    Bytes.ofString "[string \"" ++ Bytes.ofChars inside ++ Bytes.ofString "\"]"

/-- Compiles a text into a function. -/
def load (m : Machine) (args : Args) : Except Failure Machine := do
  let source ← match args.get 1 with
    | .function _ | .builtin _ => throw (Failure.message "no pieces of chunks are read")
    | _ => args.text 1
  let chunk ← if args.isAbsent 2 then pure source else args.text 2
  match parseChunk? (Bytes.toChars source) with
  | some body =>
    let closure : Closure := { body, captured := [], chunk := shortChunk chunk }
    let id := m.heap.closures.size
    return (m.withHeap fun h => { h with closures := h.closures.push closure }).give1 (.function id)
  | none => return m.give [.nil, .ofString "syntax error"]

/-- An operator on texts that spell numbers. -/
def textArithmetic (m : Machine) (op : BinOp) (event : String) (args : Args) : Except Failure Machine := do
  let a := args.get 1
  let b := args.get 2
  match a.toNumber?, b.toNumber? with
  | some x, some y => match arithmetic op x y with
    | .ok v => return m.give1 v
    | .error e => throw (.bare e)
  | _, _ =>
    let other := match b with
      | .text _ => Value.nil
      | b => m.heap.metafield b ("__" ++ event)
    match other with
    | .nil => throw (.message s!"attempt to {event} a '{a.typeName}' with a '{b.typeName}'")
    | f => return m.call f [a, b] {}

/-- The functions that look at more than their arguments. -/
def baseCall (m : Machine) (b : Builtin) (args : Args) (site : Site) : Except Failure Machine := do
  match b with
  | .assert =>
    if (← args.any 1).isTrue then return m.give args.values
    else return m.raiseAt ((args.at? 2).getD (.ofString "assertion failed!")) site 1
  | .collectGarbage =>
    let what ← if args.isAbsent 1 then pure .empty else args.text 1
    if what = Bytes.ofString "count" then return m.give1 (.number 0.0)
    else if what = Bytes.ofString "step" ∨ what = Bytes.ofString "isrunning" then return m.give1 (.boolean true)
    else return m.give1 (.integer 0)
  | .error => return m.raiseAt (args.get 1) site (← args.integerOr 2 1).toInt32
  | .getMetatable => match m.heap.metatable? (← args.any 1) with
    | some id => match (m.heap.table id).field "__metatable" with
      | .nil => return m.give1 (.table id)
      | v => return m.give1 v
    | none => return m.give1 .nil
  | .rawMetatable => match m.heap.metatable? (← args.any 1) with
    | some id => return m.give1 (.table id)
    | none => return m.give1 .nil
  | .setMetatable =>
    let id ← args.table 1
    let meta_ ← match args.at? 2 with
      | some .nil => pure none
      | some (.table t) => pure (some t)
      | _ => throw (args.expected 2 "nil or table")
    match m.heap.metafield (args.get 1) "__metatable" with
    | .nil => return (m.withHeap (·.modifyTable id (·.withMetatable meta_))).give1 (.table id)
    | _ => throw (.message "cannot change a protected metatable")
  | .ipairs => return m.give [.builtin .ipairsNext, ← args.any 1, .integer 0]
  | .ipairsNext =>
    let i := (← args.integer 2) + 1
    return (m.push (.pending site m.activation (.ipairs i))).index (args.get 1) (.integer i) none none
  | .load => m.load args
  | .next =>
    let id ← args.table 1
    match (m.heap.table id).next? (Key.ofValue? (args.get 2)) with
    | some (some (k, v)) => return m.give [k.toValue, v]
    | some none => return m.give1 .nil
    | none => throw (.bare "invalid key to 'next'")
  | .pairs =>
    let v ← args.any 1
    match m.heap.metafield v "__pairs" with
    | .nil => return m.give [.builtin .next, v, .nil]
    | f => return (m.push (.pending site m.activation .pairs)).call f [v] {}
  | .pcall =>
    let f ← args.any 1
    return (m.push (.protect site m.activation none)).call f (args.values.drop 1) {}
  | .xpcall =>
    let f ← args.any 1
    return (m.push (.protect site m.activation (some (args.get 2)))).call f (args.values.drop 2) {}
  | .print => return m.print site true args.values
  | .rawEqual => return m.give1 (.boolean ((← args.any 1).rawEquals (← args.any 2)))
  | .rawGet => return m.give1 ((m.heap.table (← args.table 1)).getValue (← args.any 2))
  | .rawLen => match args.get 1 with
    | .table id => return m.give1 (.integer (Int64.ofNat (m.heap.table id).length.1))
    | .text s => return m.give1 (.integer (Int64.ofNat s.size))
    | _ => throw (.argument 1 "table or string expected")
  | .rawSet =>
    let id ← args.table 1
    let k ← args.any 2
    let v ← args.any 3
    match Key.ofValue? k with
    | some key => return (m.withHeap (·.modifyTable id (·.set key v))).give1 (.table id)
    | none => throw (.bare (match k with
      | .nil => "table index is nil"
      | _ => "table index is NaN"))
  | .select => return m.give (← select args)
  | .toNumber => return m.give (← toNumber args)
  | .toString =>
    let v ← args.any 1
    match m.heap.metafield v "__tostring" with
    | .nil => return m.give1 (.text (plainText m.heap v))
    | f => return (m.push (.pending site m.activation .toText)).call f [v] {}
  | .type => return m.give1 (.ofString (← args.any 1).typeName)
  | .math f => return m.give (← f.apply args)
  | .text .gsub => m.startSubstitute args site
  | .text .gmatch =>
    let subject := (Bytes.toChars (← args.text 1)).toArray
    let pattern := (Bytes.toChars (← args.text 2)).toArray
    let id := m.heap.searches.size
    return (m.withHeap fun h => { h with searches := h.searches.push { subject, pattern } }).give1 (.builtin (.nextMatch id))
  | .text f => return m.give (← f.apply args)
  | .textArithmetic op => m.textArithmetic op op.event args
  | .textNegation => match (args.get 1).toNumber? with
    | some n => return m.give1 (.ofNumber n.neg)
    | none => throw (.message s!"attempt to unm a '{(args.get 1).typeName}' with a '{(args.get 2).typeName}'")
  | .table f => m.tableCall f args site
  | .thread f => m.threadCall f args site
  | .wrapped id => return m.resume id args.values site true
  | .nextMatch id => m.nextMatch id
  | .upvalueId =>
    let n ← args.integer 2
    match args.get 1 with
    | .function id =>
      let c := m.heap.closures.getD id { body := .mk [] false [] [], captured := [], chunk := .empty }
      match if 0 < n.toInt then c.body.outer[n.toInt.toNat - 1]? else none with
      | some name => return m.give1 (.address (((c.captured.lookup name).map (· + 1)).getD 0))
      | none => return m.give1 .nil
    | .builtin _ => return m.give1 .nil
    | _ => throw (args.expected 1 "function")
  | .write => m.write args
  | .unavailable name => throw (.message s!"'{name}' is not available")

/-- Runs a library function. -/
def callBuiltin (m : Machine) (b : Builtin) (args : List Value) (site : Site) : Machine :=
  match m.baseCall b { heap := m.heap, values := args } site with
  | .ok m => m
  | .error f => m.fail f b site

/-- Goes on with a library function when a function that it called has returned. -/
def continueBuiltin (m : Machine) (p : Pending) (vs : List Value) (site : Site) : Machine :=
  let v := vs.headD .nil
  match p with
  | .print _ todo => match v.toText? with
    | some s => (m.withHeap fun h => { h with output := h.output ++ s }).print site false todo
    | none => m.fault site.place "'__tostring' must return a string"
  | .toText => match v.toText? with
    | some s => m.give1 (.text s)
    | none => m.fault site.place "'__tostring' must return a string"
  | .pairs => m.give [v, vs.getD 1 .nil, vs.getD 2 .nil]
  | .sort table order x before after todo => m.sortStep site table order x before after todo v.isTrue
  | .substitute w first last =>
    let whole := (w.subject.extract first last).toList
    match Replacement.text whole v with
    | .ok text => match m.substitute site (2 * w.subject.size + 3) { w with written := text.reverse ++ w.written } with
      | .ok m => m
      | .error f => m.fail f (.text .gsub) site
    | .error f => m.fail f (.text .gsub) site
  | .ipairs i => match v with
    | .nil => m.give1 .nil
    | v => m.give [.integer i, v]

end Machine

/-! ## Opening the library -/

/-- The functions that are globals. -/
def baseFunctions : List (String × Builtin) :=
  [("assert", .assert), ("collectgarbage", .collectGarbage), ("dofile", .unavailable "dofile"), ("error", .error),
    ("getmetatable", .getMetatable), ("ipairs", .ipairs), ("load", .load), ("loadfile", .unavailable "loadfile"),
    ("next", .next), ("pairs", .pairs), ("pcall", .pcall), ("print", .print), ("rawequal", .rawEqual), ("rawget", .rawGet),
    ("rawlen", .rawLen), ("rawset", .rawSet), ("require", .unavailable "require"), ("select", .select),
    ("setmetatable", .setMetatable), ("tonumber", .toNumber), ("tostring", .toString), ("type", .type),
    ("warn", .unavailable "warn"), ("xpcall", .xpcall)]

/-- Functions that are there but not available, with their library in front. -/
def unavailable (library : String) (names : List String) : List (String × Value) :=
  names.map fun n => (n, .builtin (.unavailable s!"{library}.{n}"))

/-- The `math` library. -/
def mathLibrary : List (String × Value) :=
  let functions : List MathFunction :=
    [.abs, .acos, .asin, .atan, .ceil, .cos, .exp, .floor, .fmod, .log, .max, .min, .modf, .sin, .sqrt, .tan, .toInteger,
      .type, .ult]
  functions.map (fun f => (f.name, .builtin (.math f))) ++ unavailable "math" ["deg", "rad", "random", "randomseed"] ++
    [("pi", .number 3.141592653589793), ("huge", .number (1.0 / 0.0)), ("maxinteger", .integer Int64.maxValue),
      ("mininteger", .integer Int64.minValue)]

/-- The `string` library. -/
def textLibrary : List (String × Value) :=
  let functions : List TextFunction :=
    [.byte, .char, .find, .format, .gmatch, .gsub, .len, .lower, .match, .rep, .reverse, .sub, .upper]
  functions.map (fun f => (f.name, .builtin (.text f))) ++ unavailable "string" ["dump", "pack", "packsize", "unpack"]

/-- The `table` library. -/
def tableLibrary : List (String × Value) :=
  let functions : List TableFunction := [.concat, .insert, .move, .pack, .remove, .sort, .unpack]
  functions.map fun f => (f.name, .builtin (.table f))

/-- The `coroutine` library. -/
def threadLibrary : List (String × Value) :=
  let functions : List ThreadFunction := [.close, .create, .isYieldable, .resume, .running, .status, .wrap, .yield]
  functions.map fun f => (f.name, .builtin (.thread f))

/-- What the metatable of texts has for operators. -/
def textOperators : List (String × Value) :=
  let ops : List BinOp := [.add, .sub, .mul, .mod, .pow, .div, .idiv]
  ops.map (fun op => ("__" ++ op.event, .builtin (.textArithmetic op))) ++ [("__unm", .builtin .textNegation)]

namespace Heap

/-- Adds a table with fields. -/
def addFields (h : Heap) (fields : List (String × Value)) : Nat × Heap :=
  h.addTable (fields.foldl (fun t (n, v) => t.setField n v) (Table.withRoom 0 fields.length))

/-- Gives a global a value. -/
def setGlobal (h : Heap) (name : String) (v : Value) : Heap := h.modifyTable h.globals (·.setField name v)

/-- Opens a library under its name. -/
def openLibrary (h : Heap) (name : String) (fields : List (String × Value)) : Nat × Heap :=
  let (id, h) := h.addFields fields
  (id, h.setGlobal name (.table id))

/-- An interpreter without a library: it has a table of globals and the main coroutine. -/
def empty : Heap := { tables := #[default], threads := #[{ status := .running }] }

/-- Opens the whole library. -/
def openLibraries (h : Heap) : Heap :=
  let h := baseFunctions.foldl (fun h (n, b) => h.setGlobal n (.builtin b)) h
  let h := (h.setGlobal "_G" (.table h.globals)).setGlobal "_VERSION" (.ofString "Lua 5.4")
  let (_, h) := h.openLibrary "math" mathLibrary
  let (text, h) := h.openLibrary "string" textLibrary
  let (_, h) := h.openLibrary "table" tableLibrary
  let (_, h) := h.openLibrary "coroutine" threadLibrary
  let (_, h) := h.openLibrary "debug" ([("upvalueid", .builtin .upvalueId), ("getmetatable", .builtin .rawMetatable)] ++
    unavailable "debug" ["debug", "gethook", "getinfo", "getlocal", "getregistry", "getupvalue", "getuservalue", "sethook",
      "setlocal", "setmetatable", "setupvalue", "setuservalue", "traceback", "upvaluejoin"])
  let (_, h) := h.openLibrary "io" ([("write", .builtin .write), ("stdin", .stream .input), ("stdout", .stream .output),
    ("stderr", .stream .error)] ++
    unavailable "io" ["close", "input", "lines", "open", "output", "popen", "read", "tmpfile", "type"])
  let (_, h) := h.openLibrary "os"
    (unavailable "os" ["clock", "date", "difftime", "execute", "exit", "getenv", "remove", "rename", "setlocale", "time",
      "tmpname"])
  let (_, h) := h.openLibrary "utf8" (unavailable "utf8" ["char", "codepoint", "codes", "len", "offset"])
  let (_, h) := h.openLibrary "package" (unavailable "package" ["loadlib", "searchpath"])
  let (texts, h) := h.addFields (("__index", .table text) :: textOperators)
  let (methods, h) := h.addFields [("write", .builtin .write)]
  let (streams, h) := h.addFields [("__index", .table methods), ("__name", .ofString "FILE*")]
  { h with textMetatable := some texts, streamMetatable := some streams }

end Heap

end PluginHost.Lua
