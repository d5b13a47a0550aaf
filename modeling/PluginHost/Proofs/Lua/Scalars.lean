import PluginHost.Proofs.Lua.Rejection

/-!
# Scalars through Lua

A scalar is pushed as one value (`Value.ofScalar`), for which there is always room between requests, and answers are
read from one value (`answerOf`). So what comes back from a function that gives back what it is called with
(`LuaPlugin.call_identity`), and what a global reads as that was set to a scalar (`LuaPlugin.global_of_scalar`), is said
by these two alone.
-/

namespace PluginHost

namespace Lua

/-- What a scalar is pushed as. -/
def Value.ofScalar : Datum → Value
  | .int n => .integer (Int64.ofInt n)
  | .f32 x => .number (Single.toDouble x)
  | .f64 x => .number x
  | .bool b => .boolean b
  | _ => .nil

/-- What a value reads as when a call answers with it. -/
def answerOf : Ty → Value → Option Datum
  | .unit, _ => some .unit
  | t, x => Vm.scalar? t x

/-- Whether a function gives back what it is called with. -/
def Heap.IsIdentity (h : Heap) (f : Value) : Prop :=
  SlotType.ofValue f = .function ∧ ∀ x, ∃ h', h.callFunction f [x] = some (.values [x], h')

namespace Vm

variable {vm : Vm} {t : Ty} {d : Datum}

/-! ## Pushing -/

theorem pushDatum_scalar (ht : t.isScalar) (hd : d.hasType t) (hfits : ∀ n, d = .int n → n < 2 ^ 63) :
    pushDatum d = Push.raw (.ofScalar d) := by
  cases t with
  | int t =>
    obtain ⟨n, rfl, hn⟩ := Datum.hasType_int_iff.1 hd
    have hmin : -2 ^ 63 ≤ t.min := by cases t <;> decide
    have hle : -2 ^ 63 ≤ n := hmin.trans (IntTy.holds_iff.1 hn).1
    rw [pushDatum, if_pos ⟨hle, hfits n rfl⟩]
    rfl
  | f32 =>
    obtain ⟨x, rfl⟩ := Datum.hasType_f32_iff.1 hd
    rw [pushDatum]
    rfl
  | f64 =>
    obtain ⟨x, rfl⟩ := Datum.hasType_f64_iff.1 hd
    rw [pushDatum]
    rfl
  | bool =>
    obtain ⟨b, rfl⟩ := Datum.hasType_bool_iff.1 hd
    rw [pushDatum]
    rfl
  | _ => cases ht

theorem isNil_ofScalar (ht : t.isScalar) (hd : d.hasType t) : (Value.ofScalar d).isNil = false := by
  cases t with
  | int => obtain ⟨n, rfl, -⟩ := Datum.hasType_int_iff.1 hd; rfl
  | f32 => obtain ⟨x, rfl⟩ := Datum.hasType_f32_iff.1 hd; rfl
  | f64 => obtain ⟨x, rfl⟩ := Datum.hasType_f64_iff.1 hd; rfl
  | bool => obtain ⟨b, rfl⟩ := Datum.hasType_bool_iff.1 hd; rfl
  | _ => cases ht

theorem push_scalar (hr : vm.reserve 1 = (true, vm)) {x : Value} (hd : pushDatum d = Push.raw x) :
    vm.push d = (.ok (), vm.pushValue x) := by
  have hon : (Push.reserve 1 >>= fun _ => pushDatum d).on vm = (.ok (), vm.pushValue x) := by
    rw [on_bind_ok (on_reserve hr), hd]
    rfl
  rw [push_eq, hon]
  rfl

theorem pushAll_scalar (hr : vm.reserve 1 = (true, vm)) {x : Value} (hd : pushDatum d = Push.raw x) :
    vm.pushAll [d] = (.ok (), vm.pushValue x) := by
  have hraw : (Push.raw x).on vm = (.ok (), vm.pushValue x) := rfl
  have hon : (Push.reserve 1 >>= fun _ => pushArgs [d]).on vm = (.ok (), vm.pushValue x) := by
    rw [on_bind_ok (on_reserve hr), pushArgs, hd, on_bind_ok hraw, pushArgs]
    rfl
  rw [pushAll_eq, List.length_singleton, hon]
  rfl

/-! ## Reading -/

theorem readResults_answer (ht : t.isAnswer) {x : Value} (hx : t = .unit ∨ vm.topValue? = some x) :
    vm.readResults t = (answerOf t x, vm) := by
  cases t with
  | unit => rfl
  | int | f32 | f64 | bool =>
    have hx := hx.resolve_left nofun
    show ((vm.topValue?.bind (scalar? _)), vm) = _
    rw [hx]
    rfl
  | _ => cases ht

theorem popAlways_answer (ht : t.isAnswer) (x : Value) : (vm.pushValue x).popAlways t = (scalar? t x, vm) := by
  have htop : (vm.pushValue x).topValue? = some x := topValue?_pushValue vm x 0
  have hread : (vm.pushValue x).read t = (scalar? t x, vm.pushValue x) := by
    cases t with
    | unit => cases x <;> rfl
    | int | f32 | f64 | bool =>
      show (((vm.pushValue x).topValue?.bind (scalar? _)), vm.pushValue x) = _
      rw [htop]
      rfl
    | _ => cases ht
  rw [popAlways, hread]
  exact congrArg (scalar? t x, ·) (discard_pushValue vm x 0)

/-! ## Calls -/

/-- There is room for any function to start while the stack is low. -/
theorem protectedCall_returned {below : Array Value} {f : Value} {xs vs : List Value} {heap : Heap} {n k : Int32}
    (hs : vm.stack = below.push f ++ xs.toArray) (hn : n.toInt = xs.length) (ht : vm.top ≤ 3)
    (hrun : vm.heap.callFunction f xs = some (.values vs, heap)) :
    ∃ vm', vm.protectedCall n k = (.ok (), vm') ∧ vm'.stack = below ++ (adjust vs k.toInt).toArray := by
  have hroom := roomToStart_le f
  refine ⟨{ vm with heap, stack := below ++ (adjust vs k.toInt).toArray }, ?_, rfl⟩
  rw [protectedCall_eq hs hn, if_neg (by rw [maxHeight]; omega), hrun]

end Vm

/-- A function that gives back the scalar that it is called with answers with what that reads as. -/
theorem Captured.call_identity {vm : Vm} {f : Value} {d : Datum} {result : Ty} {heap : Heap} {c : Captured}
    (ht : vm.top ≤ 1) (hd : Vm.pushDatum d = Vm.Push.raw (.ofScalar d)) (hresult : result.isAnswer)
    (hc : Captured.fromTop? (vm.pushValue f) = some c)
    (hrun : vm.heap.callFunction f [.ofScalar d] = some (.values [.ofScalar d], heap)) :
    (c.call (vm.pushValue f) [d] result).1 = (answerOf result (.ofScalar d)).elim
      (.error (.incorrectType "returned values do not match the requested types")) .ok := by
  obtain ⟨hvalid, -⟩ := Vm.fromTop?_pushValue hc
  have htop : (vm.pushValue f).top = vm.top + 1 := by simp [Vm.top, Vm.pushValue]
  have htop' : ((vm.pushValue f).pushValue (.ofScalar d)).top = vm.top + 2 := by simp [Vm.top, Vm.pushValue]
  have hpush : (vm.pushValue f).pushAll [d] = (.ok (), (vm.pushValue f).pushValue (.ofScalar d)) :=
    Vm.pushAll_scalar (Vm.reserve_of_lt (by rw [htop, Vm.maxHeight]; omega)) hd
  have hstack : ((vm.pushValue f).pushValue (.ofScalar d)).stack = vm.stack.push f ++ [Value.ofScalar d].toArray := rfl
  have hcount : (Int32.ofNat 1).toInt = [Value.ofScalar d].length := Vm.toInt_ofNat_small (by decide)
  obtain ⟨vm', hcall, hs⟩ := Vm.protectedCall_returned (k := Int32.ofNat (Vm.resultCount result)) hstack hcount
    (by rw [htop']; omega) hrun
  have hanswer : vm'.readResults result = (answerOf result (.ofScalar d), vm') := by
    refine Vm.readResults_answer hresult ?_
    cases result with
    | unit => exact .inl rfl
    | int | f32 | f64 | bool =>
      refine .inr ?_
      rw [Vm.topValue?, hs]
      simp [Vm.adjust, Vm.resultCount]
    | _ => cases hresult
  rw [Captured.call_of_isValid hvalid, Captured.run, hpush, List.length_singleton]
  dsimp only
  rw [hcall]
  dsimp only
  rw [hanswer]
  cases answerOf result (.ofScalar d) <;> rfl

/-- Whether a value is a function that returns its only argument. -/
def Heap.returnsArgument (h : Heap) : Value → Bool
  | .function id => match h.closures[id]? with
    | some { body := .mk [x] false [.return [.variable .local y] _] _, .. } => x = y
    | _ => false
  | _ => false

/-- A function that returns its only argument gives back what it is called with. -/
theorem Heap.isIdentity_of_returnsArgument {h : Heap} {f : Value} (hf : h.returnsArgument f) : h.IsIdentity f := by
  unfold returnsArgument at hf
  split at hf
  · next id =>
    split at hf
    · next x y _ _ _ _ hc =>
      obtain rfl : x = y := by simpa using hf
      refine ⟨rfl, fun v => ⟨{ h with cells := h.cells.push v }, ?_⟩⟩
      -- the call, its statement, the variable, and the return through the block and the call
      obtain ⟨n, hn⟩ : ∃ n, maxSteps = n + 10 := ⟨10 ^ 12 - 10, rfl⟩
      rw [callFunction, hn]
      simp [Machine.runFor, Machine.outcome?, Machine.step, Machine.invoke, Machine.enter, hc, maxDepth, maxNested,
        FunctionBody.params, FunctionBody.isVararg, FunctionBody.body, Machine.bindAll, Machine.bind, Machine.run,
        Machine.stmtStep, Machine.collect, Machine.push, Machine.eval, Machine.evalStep, Machine.give1,
        Machine.lookup, Machine.give, Machine.giveTo, Machine.applyOp, Machine.unwindFrom, Expr.isMulti, Op.spreads]
    · cases hf
  · cases hf

end Lua

namespace LuaPlugin

open Lua

/-- Whether a global is a function that gives back what it is called with. -/
def HasIdentity (p : LuaPlugin) (name : String) : Prop :=
  '\x00' ∉ name.toList ∧ ∃ f heap, Vm.pushGlobal.lookUp p.vm name = (f, { p.vm with heap }) ∧ heap.IsIdentity f

variable {p : LuaPlugin} {name : String} {t result : Ty} {d : Datum}

/-- A global that gives back the scalar that it is called with answers with what that reads as. -/
theorem call_identity (ht : p.vm.top ≤ 1) (hname : p.HasIdentity name)
    (hd : Vm.pushDatum d = Vm.Push.raw (.ofScalar d)) (hresult : result.isAnswer) (w : World) :
    ((p.call name [d] result).run w).1.1 = (answerOf result (.ofScalar d)).elim
      (.error (.incorrectType "returned values do not match the requested types")) .ok := by
  obtain ⟨hnul, f, heap, hlook, hf, hidentity⟩ := hname
  have hpush : p.vm.pushGlobal name = (true, { p.vm with heap }.pushValue f) := by
    rw [Vm.pushGlobal, if_neg (by simpa using hnul), Vm.reserve_of_low ht]
    dsimp only
    rw [hlook]
    cases f <;> first | rfl | cases hf
  obtain ⟨c, hc⟩ : ∃ c, Captured.fromTop? ({ p.vm with heap }.pushValue f) = some c := by
    have htop : ({ p.vm with heap }.pushValue f).topValue? = some f := Vm.topValue?_pushValue _ f 0
    refine ⟨_, Captured.fromTop?_eq_some_iff.2 ⟨f, htop, ?_, rfl⟩⟩
    cases f <;> first | rfl | cases hf
  obtain ⟨heap', hrun⟩ := hidentity (.ofScalar d)
  have hlow : ({ p.vm with heap } : Vm).top ≤ 1 := ht
  rw [run_call, hpush]
  dsimp only
  rw [hc]
  exact Captured.call_identity hlow hd hresult hc hrun

/-! ## Globals -/

/-- What a global reads as that is something. -/
theorem global_reads (ht : p.vm.top ≤ 1) (hg : p.vm.heap.HasPlainGlobals) (hname : '\x00' ∉ name.toList) {x : Value}
    (hx : p.vm.heap.globalValue name = x) (hnil : x.isNil = false) (hresult : result.isAnswer) (w : World) :
    ((p.global name result).run w).1.1 = (Vm.scalar? result x).elim
      (.error (.incorrectType ("global '" ++ name ++ "' does not match the requested type"))) .ok := by
  rw [run_global, Vm.pushGlobal_of_granted hg name (Vm.reserve_of_low ht), hx, if_neg (by simp [hname, hnil])]
  dsimp only
  rw [Vm.popAlways_answer hresult]

/-- A global can be set to a scalar, and reads as what that is pushed as. -/
theorem global_of_scalar (ht : p.vm.top ≤ 1) (hg : p.vm.heap.HasPlainGlobals) (hname : '\x00' ∉ name.toList)
    (hd : Vm.pushDatum d = Vm.Push.raw (.ofScalar d)) (hnil : (Value.ofScalar d).isNil = false)
    (hresult : result.isAnswer) (w : World) : ∃ after w', (p.setGlobal name d).run w = ((.ok (), after), w') ∧
      ∀ w, ((after.global name result).run w).1.1 = (Vm.scalar? result (.ofScalar d)).elim
        (.error (.incorrectType ("global '" ++ name ++ "' does not match the requested type"))) .ok := by
  have hrun := run_setGlobal p name d w
  rw [Vm.push_scalar (Vm.reserve_of_low ht) hd] at hrun
  dsimp only at hrun
  have hpushed : (p.vm.pushValue (.ofScalar d)).heap.HasPlainGlobals := hg
  rw [Vm.setGlobal_of_plain hpushed hname rfl] at hrun
  have hplain := hg.setGlobalValue name (.ofScalar d)
  have hvalue := (Heap.globalValue_setGlobalValue hg name (.ofScalar d) name).trans (if_pos rfl)
  refine ⟨_, _, Prod.ext hrun rfl, ?_⟩
  refine global_reads ?_ ?_ hname ?_ hnil hresult
  exacts [ht, ⟨hplain.exists_table, hplain.metatable⟩, hvalue]

end LuaPlugin

end PluginHost
