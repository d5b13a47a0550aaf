import PluginHost.Script.LuaLibrary

/-!
# Running Lua

`Machine.step` does one step and is not recursive; `Machine.run` repeats it with fuel until the call that the host made is over.
-/

namespace PluginHost.Lua

/-- What messages call the value of an expression. -/
def Expr.naming : Expr → Naming
  | .variable .local n => some ("local", n)
  | .variable .upvalue n => some ("upvalue", n)
  | .global n _ => some ("global", n)
  | .index _ (.text k) _ => some ("field", Text.ofBytesLossy k)
  | .index _ (.integer n) _ => some ("field", if 0 ≤ n ∧ n < 256 then "integer index" else "?")
  | .index .. => some ("field", "?")
  | .text s => some ("constant", Text.ofBytesLossy s)
  | .paren e => e.naming
  | _ => none

/-- What an operand of a joining is called: a constant has no name there. -/
def Expr.operandNaming (op : BinOp) (e : Expr) : Naming :=
  match e with
  | .text _ => if op.isBitwise then e.naming else none
  | e => e.naming

/-- How many calls may be around another. -/
def maxDepth : Nat := 199990

/-- How many calls of library functions and metamethods may be around another. -/
def maxNested : Nat := 196

namespace Machine

/-- Evaluates expressions one after the other and then applies an operation. -/
def collect (m : Machine) (done : List Value) (todo : List Expr) (op : Op) : Machine :=
  match todo with
  | [] => (m.push (.collect done true [] op)).give []
  | e :: rest => (m.push (.collect done (e.isMulti && rest.isEmpty && op.spreads) rest op)).eval e

/-- The tables and keys of the fields that are assigned to. -/
def targetOperands : List Expr → List Expr
  | [] => []
  | .index o k _ :: rest => o :: k :: targetOperands rest
  | _ :: rest => targetOperands rest

/-- What is assigned to. -/
def targets : List Expr → List Target
  | [] => []
  | .variable _ n :: rest => .variable n :: targets rest
  | .global n line :: rest => .global n line :: targets rest
  | .index o _ line :: rest => .field o.naming line :: targets rest
  | _ :: rest => targets rest

/-- Gives each target its operands and its value. -/
def assignments : List Target → List Value → List Value → List (Target × List Value)
  | [], _, _ => []
  | .field name line :: rest, o :: k :: operands, vs =>
    (.field name line, [o, k, vs.headD .nil]) :: assignments rest operands vs.tail
  | t :: rest, operands, vs => (t, [vs.headD .nil]) :: assignments rest operands vs.tail

/-- Does the next assignment. -/
def assignNext (m : Machine) : List (Target × List Value) → Machine
  | [] => m.finish
  | (t, vs) :: rest =>
    let m := m.push (.assigning rest)
    match t, vs with
    | .variable n, v :: _ => (m.setVariable n v).finish
    | .global n line, v :: _ => m.setIndex (.table m.heap.globals) (.ofString n) v (m.here line) none
    | .field name line, [o, k, v] => m.setIndex o k v (m.here line) name
    | _, _ => m.finish

/-- The table that a constructor makes: entries first, then items, which therefore win. -/
def construct (isEntry : List Bool) (vs : List Value) : Except Value Table :=
  go isEntry vs [] []
where
  /-- Sorts values into entries and items. -/
  go : List Bool → List Value → List (Value × Value) → List Value → Except Value Table
    | true :: marks, k :: v :: vs, entries, items => go marks vs ((k, v) :: entries) items
    | false :: [], vs, entries, items => build entries.reverse (items.reverse ++ vs)
    | false :: marks, v :: vs, entries, items => go marks vs entries (v :: items)
    | _, _, entries, items => build entries.reverse items.reverse
  /-- Fills a table with room for everything. -/
  build (entries : List (Value × Value)) (items : List Value) : Except Value Table := do
    let t ← entries.foldlM (fun t (k, v) => match Key.ofValue? k with
      | some key => return t.set key v
      | none => throw k) (Table.withRoom items.length entries.length)
    return items.zipIdx.foldl (fun t (v, i) => t.set (.integer (Int64.ofNat (i + 1))) v) t

/-- Enters a function of a chunk. -/
def enter (m : Machine) (id : Nat) (args : List Value) (site : Site) : Machine :=
  let c := m.heap.closures.getD id { body := .mk [] false [] [], captured := [], chunk := .empty }
  let isNested := match site.place, site.name with
    | none, _ | _, some ("metamethod", _) | _, some ("for iterator", _) => true
    | _, _ => false
  let nested := if isNested then m.activation.nested + 1 else m.activation.nested
  if maxDepth ≤ m.activation.depth then m.fault site.place "stack overflow"
  else if maxNested ≤ nested then m.fault site.place "C stack overflow"
  else
    let saved := m.activation
    let params := c.body.params
    let activation : Activation := {
      chunk := c.chunk
      locals := c.captured
      varargs := if c.body.isVararg then args.drop params.length else []
      depth := saved.depth + 1
      nested }
    let m := { m with activation }.bindAll params args
    let body := c.body.body
    ({ m with frames := .block body m.activation.locals :: .ret site saved :: m.frames }).run body

/-- Calls any value. -/
def invoke (m : Machine) (f : Value) (args : List Value) (site : Site) : Machine :=
  match f with
  | .function id => m.enter id args site
  | .builtin b => m.callBuiltin b args site
  | v => match m.heap.metafield v "__call" with
    | .nil => m.fault site.place s!"attempt to call a {m.heap.typeName v} value{site.name.text}"
    | f => m.call f (v :: args) { site with name := none }

/-- The frames from the end of the running call on, unless a variable has to be closed before. -/
def framesOfCaller? : List Frame → Option (Site × Activation × List Frame)
  | [] => none
  | .ret site saved :: rest => some (site, saved, rest)
  | .close _ :: _ => none
  | _ :: rest => framesOfCaller? rest

/-- Calls a function whose results are those of the running one, which is left first. -/
def tailCall (m : Machine) (f : Value) (args : List Value) (site : Site) : Machine :=
  match f, framesOfCaller? m.frames with
  | .function id, some (outer, saved, rest) =>
    { m with frames := rest, activation := saved }.enter id args { outer with name := none }
  | f, _ => (m.push (.collect [] true [] .return)).call f args site

/-! ## Loops -/

/-- The bound of a loop over integers: cut to an integer, or beyond all of them. Nothing means that the loop does not run. -/
def integerLimit? (limit : Value) (step : Int64) : Option (Option Int64) :=
  match limit.toNumber? with
  | some (.integer n) => some (some n)
  | some (.float x) =>
    let cut := if step < 0 then x.ceil else x.floor
    match floatToInteger? cut with
    | some n => some (some n)
    | none =>
      if 0.0 < x then some (if step < 0 then none else some Int64.maxValue)
      else some (if 0 < step then none else some Int64.minValue)
  | none => none

/-- Starts a loop over numbers, which texts may spell. A failure names what is wrong; success without a loop is a loop that does not run. -/
def numericLoop (start limit step : Value) : Except (String × Option Value) (Option NumericLoop) :=
  match start, step with
  | .integer a, .integer s =>
    if s = 0 then throw ("'for' step is zero", none)
    else match integerLimit? limit s with
    | none => throw ("limit", some limit)
    | some none => return none
    | some (some b) =>
      if (0 < s ∧ b < a) ∨ (s < 0 ∧ a < b) then return none
      else return some (.integers a s ((b.toInt - a.toInt).natAbs / s.toInt.natAbs))
  | _, _ => match limit.toNumber?, step.toNumber?, start.toNumber? with
    | none, _, _ => throw ("limit", some limit)
    | _, none, _ => throw ("step", some step)
    | _, _, none => throw ("initial value", some start)
    | some b, some s, some a =>
      let s := s.toFloat
      let a := a.toFloat
      let b := b.toFloat
      if s == 0.0 then throw ("'for' step is zero", none)
      else if (0.0 < s && a ≤ b) || (s < 0.0 && b ≤ a) then return some (.numbers a s b) else return none

/-- The value of the variable of a loop. -/
def NumericLoop.current : NumericLoop → Value
  | .integers n _ _ => .integer n
  | .numbers x _ _ => .number x

/-- The next round of a loop. -/
def NumericLoop.next? : NumericLoop → Option NumericLoop
  | .integers n s (left + 1) => some (.integers (n + s) s left)
  | .integers _ _ 0 => none
  | .numbers x s limit =>
    let x := x + s
    if (0.0 < s && x ≤ limit) || (s < 0.0 && limit ≤ x) then some (.numbers x s limit) else none

/-- Runs a round of a loop over numbers. -/
def numericRound (m : Machine) (name : String) (body : List Stmt) (loop : NumericLoop) (saved : List (String × Nat)) :
    Machine :=
  let m := ((m.withLocals saved).push (.numericBody name body loop saved)).bind name (NumericLoop.current loop)
  (m.push (.block body m.activation.locals)).run body

/-- Asks the iterator of a loop for the next round. -/
def genericNext (m : Machine) (names : List String) (body : List Stmt) (line : Nat) (iterator state control : Value)
    (saved : List (String × Nat)) : Machine :=
  ((m.withLocals saved).push (.genericCall names body line iterator state saved)).call iterator [state, control]
    { place := m.here line, name := some ("for iterator", "for iterator") }

/-! ## Expressions and statements -/

/-- Starts to evaluate an expression. -/
def evalStep (m : Machine) (e : Expr) : Machine :=
  match e with
  | .nil => m.give1 .nil
  | .boolean b => m.give1 (.boolean b)
  | .integer n => m.give1 (.integer n)
  | .number x => m.give1 (.number x)
  | .text s => m.give1 (.text s)
  | .vararg => m.give m.activation.varargs
  | .variable _ n => m.give1 (m.lookup n)
  | .global n line => m.index (.table m.heap.globals) (.ofString n) (m.here line) none
  | .index o k line => m.collect [] [o, k] (.index line o.naming)
  | .call f args line => m.collect [] (f :: args) (.call line f.naming)
  | .method o n args line => m.collect [] [o] (.method n args line o.naming false)
  | .function body =>
    let captured := body.outer.filterMap fun n => (m.activation.locals.lookup n).map (n, ·)
    let id := m.heap.closures.size
    let closure : Closure := { body, captured, chunk := m.activation.chunk }
    (m.withHeap fun h => { h with closures := h.closures.push closure }).give1 (.function id)
  | .unary op a line => m.collect [] [a] (.unary op line a.naming)
  | .binary op a b line => m.collect [] [a, b] (.binary op line (a.operandNaming op) (b.operandNaming op))
  | .and a b => (m.push (.chooseAnd b)).eval a
  | .or a b => (m.push (.chooseOr b)).eval a
  | .paren a => m.eval a
  | .table fields line =>
    let operands := fields.flatMap fun
      | .item v => [v]
      | .entry k v => [k, v]
    let isEntry := fields.map fun
      | .item _ => false
      | .entry .. => true
    m.collect [] operands (.table isEntry (isEntry.getLast?.any (!·)) line)

/-- Applies an operation to operands that have values. -/
def applyOp (m : Machine) (op : Op) (vs : List Value) : Machine :=
  match op with
  | .call line name => m.call (vs.headD .nil) vs.tail { place := m.here line, name }
  | .tailCall line name => m.tailCall (vs.headD .nil) vs.tail { place := m.here line, name }
  | .method name args line object isTail =>
    let o := vs.headD .nil
    (m.push (.method o args line name isTail)).index o (.ofString name) (m.here line) object
  | .index line object => m.index (vs.headD .nil) (vs.getD 1 .nil) (m.here line) object
  | .unary op line operand => m.unary op (vs.headD .nil) line operand
  | .binary op line left right => m.binary op (vs.headD .nil) (vs.getD 1 .nil) line left right
  | .table isEntry _ line => match construct isEntry vs with
    | .ok t =>
      let (id, h) := m.heap.addTable t
      { m with heap := h }.give1 (.table id)
    | .error k => m.fault (m.here line) (match k with
      | .nil => "table index is nil"
      | _ => "table index is NaN")
  | .declare names line =>
    let m := m.bindAll (names.map (·.1)) vs
    match (names.zip (vs ++ List.replicate names.length .nil)).find? (·.1.2 = .close) with
    | none => m.finish
    | some ((n, _), v) =>
      if !v.isTrue then m.finish
      else match m.heap.metafield v "__close" with
        | .nil => m.fault (m.here line) s!"variable '{n}' got a non-closable value"
        -- the frame belongs under what is left of the block
        | _ => match m.frames with
          | .seq rest :: frames => { m with frames := .seq rest :: .close v :: frames }.finish
          | _ => (m.push (.close v)).finish
  | .assign targets =>
    let count := (targets.filter fun
      | .field .. => true
      | _ => false).length * 2
    m.assignNext (assignments targets (vs.take count) (vs.drop count)).reverse
  | .return => { m with control := .unwind (.returning vs) }
  | .numericFor name body line =>
    match numericLoop (vs.headD .nil) (vs.getD 1 .nil) (vs.getD 2 (.integer 1)) with
    | .error (problem, none) => m.fault (m.here line) problem
    | .error (what, some v) =>
      m.fault (m.here line) s!"bad 'for' {what} (number expected, got {m.heap.typeName v})"
    | .ok none => m.finish
    | .ok (some loop) => m.numericRound name body loop m.activation.locals
  | .genericFor names body line =>
    let m := match vs.getD 3 .nil with
      | .nil => m
      | v => m.push (.close v)
    m.genericNext names body line (vs.headD .nil) (vs.getD 1 .nil) (vs.getD 2 .nil) m.activation.locals

/-- The statements behind a label, and how many variables the block declares before it. -/
def afterLabel? (label : String) : List Stmt → Nat → Option (List Stmt × Nat)
  | [], _ => none
  | .label n :: rest, declared => if n = label then some (rest, declared) else afterLabel? label rest declared
  | .local names _ _ :: rest, declared => afterLabel? label rest (declared + names.length)
  | .localFunction .. :: rest, declared => afterLabel? label rest (declared + 1)
  | _ :: rest, declared => afterLabel? label rest declared

/-- Starts to run a statement. -/
def stmtStep (m : Machine) (s : Stmt) : Machine :=
  match s with
  | .local names values line => m.collect [] values (.declare names line)
  | .localFunction n body =>
    let m := m.bind n .nil
    match m.evalStep (.function body) with
    | { control := .give (f :: _), heap, activation, frames, current, resumers } =>
      ({ control := .done, heap, activation, frames, current, resumers : Machine }.setVariable n f).finish
    | m => m
  | .assign ts values _ => m.collect [] (targetOperands ts ++ values) (.assign (targets ts))
  | .call e => (m.push .discard).eval e
  | .block body => (m.push (.block body m.activation.locals)).run body
  | .while c body => (m.push (.whileTest c body)).eval c
  | .repeat body c => (m.push (.repeatBody body c m.activation.locals)).run body
  | .branch [] otherwise => (m.push (.block otherwise m.activation.locals)).run otherwise
  | .branch ((c, body) :: arms) otherwise => (m.push (.branch body arms otherwise)).eval c
  | .numericFor n a b s body line => m.collect [] (a :: b :: s.toList) (.numericFor n body line)
  | .genericFor names values body line => m.collect [] values (.genericFor names body line)
  | .return [.call f args line] _ => m.collect [] (f :: args) (.tailCall line f.naming)
  | .return [.method o n args line] _ => m.collect [] [o] (.method n args line o.naming true)
  | .return values _ => m.collect [] values .return
  | .break => { m with control := .unwind .breaking }
  | .goto label => { m with control := .unwind (.going label) }
  | .label _ => m.finish

/-! ## Frames -/

/-- Hands values to a frame that has been taken off. -/
def giveTo (m : Machine) (f : Frame) (vs : List Value) : Machine :=
  let v := vs.headD .nil
  match f with
  | .collect done all todo op =>
    let done := if all then vs.reverse ++ done else v :: done
    match todo with
    | [] => m.applyOp op done.reverse
    | e :: rest => (m.push (.collect done (e.isMulti && rest.isEmpty && op.spreads) rest op)).eval e
  | .chooseAnd right => if v.isTrue then m.eval right else m.give1 v
  | .chooseOr right => if v.isTrue then m.give1 v else m.eval right
  | .method o args line name isTail =>
    let naming : Naming := some ("method", name)
    m.collect [o, v] args (if isTail then .tailCall line naming else .call line naming)
  | .whileTest c body =>
    if v.isTrue then { m with frames := .block body m.activation.locals :: .whileBody c body :: m.frames }.run body
    else m.finish
  | .repeatTest body c saved =>
    let m := m.withLocals saved
    if v.isTrue then m.finish else (m.push (.repeatBody body c saved)).run body
  | .branch body arms otherwise =>
    if v.isTrue then (m.push (.block body m.activation.locals)).run body
    else match arms with
      | [] => (m.push (.block otherwise m.activation.locals)).run otherwise
      | (c, body) :: arms => (m.push (.branch body arms otherwise)).eval c
  | .genericCall names body line iterator state saved => match v with
    | .nil => m.finish
    | v =>
      let m := (m.push (.genericBody names body line iterator state v saved)).bindAll names vs
      (m.push (.block body m.activation.locals)).run body
  | .closing after => match after with
    | none => m.finish
    | some u => { m with control := .unwind u }
  | .ret _ saved => { m with activation := saved }.give vs
  | .protect _ saved _ => { m with activation := saved }.give (.boolean true :: vs)
  | .handler saved => { m with activation := saved }.give (.boolean false :: vs)
  | .truth negated => m.give1 (.boolean (v.isTrue != negated))
  | .discard => m.finish
  | .pending site saved p => { m with activation := saved }.continueBuiltin p vs site
  | _ => m.finish

/-- Goes on with a frame that has been taken off when a statement is over. -/
def finishTo (m : Machine) (f : Frame) : Machine :=
  match f with
  | .assigning todo => m.assignNext todo
  | .seq rest => m.run rest
  | .block _ saved => (m.withLocals saved).finish
  | .whileBody c body => (m.push (.whileTest c body)).eval c
  | .repeatBody body c saved => (m.push (.repeatTest body c saved)).eval c
  | .numericBody name body loop saved => match NumericLoop.next? loop with
    | some loop => m.numericRound name body loop saved
    | none => (m.withLocals saved).finish
  | .genericBody names body line iterator state control saved =>
    m.genericNext names body line iterator state control saved
  | .close v => (m.push (.closing none)).call (m.heap.metafield v "__close") [v, .nil] {}
  | .ret _ saved => { m with activation := saved }.give []
  | .discard => m.finish
  | _ => m.give []

/-- Leaves a frame that has been taken off. -/
def unwindFrom (m : Machine) (f : Frame) (u : Unwinding) : Machine :=
  let on : Machine := { m with control := .unwind u }
  match f, u with
  | .close v, u =>
    let error := match u with
      | .raising e => e
      | _ => .nil
    (m.push (.closing (some u))).call (m.heap.metafield v "__close") [v, error] {}
  | .protect _ saved handler, .raising e => match handler with
    | none => { m with activation := saved }.give [.boolean false, e]
    | some h => ({ m with activation := saved }.push (.handler saved)).call h [e] {}
  | .handler saved, .raising e => { m with activation := saved }.give [.boolean false, e]
  | .ret _ saved, .returning vs => { m with activation := saved }.give vs
  | .ret _ saved, .raising _ => { on with activation := saved }
  | .pending _ saved _, .raising _ => { on with activation := saved }
  | .whileBody .., .breaking => m.finish
  | .repeatBody _ _ saved, .breaking => (m.withLocals saved).finish
  | .numericBody _ _ _ saved, .breaking => (m.withLocals saved).finish
  | .genericBody _ _ _ _ _ _ saved, .breaking => (m.withLocals saved).finish
  | .block body saved, .going label => match afterLabel? label body 0 with
    | some (rest, declared) =>
      let locals := m.activation.locals
      let kept := locals.drop (locals.length - (saved.length + declared))
      ((m.withLocals kept).push (.block body saved)).run rest
    | none => on.withLocals saved
  | .repeatBody body c saved, .going label => match afterLabel? label body 0 with
    | some (rest, declared) =>
      let locals := m.activation.locals
      let kept := locals.drop (locals.length - (saved.length + declared))
      ((m.withLocals kept).push (.repeatBody body c saved)).run rest
    | none => on.withLocals saved
  | .block _ saved, .breaking => on.withLocals saved
  | _, _ => on

/-! ## Running -/

/-- What a call by the host comes to. -/
inductive Outcome
  | values (vs : List Value)
  | error (v : Value)

/-- The outcome, if the machine has come to an end. -/
def outcome? (m : Machine) : Option Outcome :=
  match m.frames, m.resumers, m.control with
  | [], [], .give vs => some (.values vs)
  | [], [], .unwind (.raising e) => some (.error e)
  | [], [], .unwind (.returning vs) => some (.values vs)
  | [], [], .done => some (.values [])
  | _, _, _ => none

/-- The error that a wrapped coroutine passes on: a text gets the place of the call in front, except if memory ran out. -/
def wrappedError (site : Site) (e : Value) : Value :=
  match e with
  | .text s => if s = Bytes.ofString "not enough memory" then e else .text (Place.tag site.place ++ s)
  | e => e

/-- Ends the running coroutine. -/
def endThread (m : Machine) (r : Resumer) (rest : List Resumer) (result : Outcome) : Machine :=
  let m := (m.modifyThread m.current fun t => { t with status := .dead }).returnTo r rest
  match result with
  | .values vs => m.give (if r.isWrapped then vs else .boolean true :: vs)
  | .error e => if r.isWrapped then m.raise (wrappedError r.site e) else m.give [.boolean false, e]

/-- One step. -/
def step (m : Machine) : Machine :=
  match m.control with
  | .eval e => m.evalStep e
  | .run [] => m.finish
  | .run (s :: rest) => (match rest with
    | [] => m
    | rest => m.push (.seq rest)).stmtStep s
  | .call f args site => m.invoke f args site
  | .give vs => match m.frames with
    | f :: frames => { m with frames }.giveTo f vs
    | [] => match m.resumers with
      | r :: rest => m.endThread r rest (.values vs)
      | [] => m
  | .done => match m.frames with
    | f :: frames => { m with frames }.finishTo f
    | [] => m.give []
  | .unwind u => match m.frames with
    | f :: frames => { m with frames }.unwindFrom f u
    | [] => match m.resumers, u with
      | r :: rest, .raising e => m.endThread r rest (.error e)
      | r :: rest, .returning vs => m.endThread r rest (.values vs)
      | _, _ => m

/-- Steps until the end; without fuel there is none. -/
def runFor : Nat → Machine → Option (Outcome × Heap)
  | 0, _ => none
  | fuel + 1, m => match m.outcome? with
    | some o => some (o, m.heap)
    | none => runFor fuel m.step

end Machine

/-- How many steps a call by the host may take. -/
def maxSteps : Nat := 10 ^ 12

/-- Calls a function for the host. -/
def Heap.callFunction (h : Heap) (f : Value) (args : List Value) : Option (Machine.Outcome × Heap) :=
  Machine.runFor maxSteps { heap := h, control := .call f args {} }

/-- Turns a chunk into a function. -/
def Heap.addChunk (h : Heap) (body : FunctionBody) (chunk : ByteArray) : Value × Heap :=
  (.function h.closures.size,
    { h with closures := h.closures.push { body, captured := [], chunk := Machine.shortChunk chunk } })

end PluginHost.Lua
