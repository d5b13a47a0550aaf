import PluginHost.Backend.LuaPlugin
import PluginHost.Proofs.Lua.Pushing
import Mathlib

/-!
# Calling a global

`Vm.course` says how a call goes without speaking of the stack: whether the global is there and a function, whether the
arguments can be pushed, and what the function does. `call_answers` says that a call answers accordingly and leaves
every slot as it was. Each way out cleans up by itself, and again where the plugin does; the lemmas before it say what
is on the stack at each point.
-/

namespace PluginHost

namespace Lua

namespace Vm

variable {p : Nat → Prop} {vm vm₁ : Vm} {below : Array Value} {f : Value} {xs : List Value}

/-! ## Results -/

/-- What values read as, one type each. -/
def valuesAs (h : Heap) (o : Traversal) : List Ty → List Value → Option (List Datum)
  | [], [] => some []
  | t :: ts, x :: xs => do
    let d ← valueAs h o t x
    let ds ← valuesAs h o ts xs
    return d :: ds
  | _, _ => none

/-- What values read as, taken as the results of a call. -/
def resultsAs (h : Heap) (o : Traversal) : Ty → List Value → Option Datum
  | .unit, _ => some .unit
  | .tuple ts, xs => (valuesAs h o ts xs).map .list
  | t, xs => valueAs h o t (xs.headD .nil)

theorem run_readSlot {vm' : Vm} {i : Nat} {t : Ty} {granted : Bool} (hr : vm.reserve 1 = (granted, vm')) :
    (readSlot i t).run vm =
      if granted then
        let (d, after) := (readTop t).run (vm'.pushCopy i)
        (d, after.discard 1)
      else (none, vm') := by
  simp only [readSlot, StateT.run_bind, StateT.run_get, pure_bind, StateT.run_set, hr]
  cases granted <;> rfl

/-- Reading a slot through a copy. -/
theorem readSlot_reads {i : Nat} (hpos : 0 < i) (hi : i ≤ vm.top) (t : Ty) :
    ∃ n, ((readSlot i t).run vm).2 = vm.refuse n ∧
      (n = 0 → ((readSlot i t).run vm).1 = valueAs vm.heap vm.traversal t (vm.stack.getD (i - 1) .nil)) := by
  rcases reserve_cases vm 1 with hr | hr
  · obtain ⟨n, hs, hv⟩ := readTop_reads vm.heap vm.traversal t (vm.pushValue (vm.stack.getD (i - 1) .nil)) _ rfl rfl
      (topValue?_pushValue vm _ 0)
    rw [run_readSlot hr, if_pos rfl, pushCopy_of_le hpos hi]
    exact ⟨n, (congrArg (discard · 1) hs).trans (discard_pushValue vm _ n), hv⟩
  · rw [run_readSlot hr]
    exact ⟨1, rfl, fun h => by cases h⟩

theorem run_readSlots_cons (vm : Vm) (i : Nat) (t : Ty) (ts : List Ty) :
    (readSlots i (t :: ts)).run vm = match (readSlot i t).run vm with
      | (some d, vm₁) =>
        let (ds, vm₂) := (readSlots (i + 1) ts).run vm₁
        (ds.map (d :: ·), vm₂)
      | (none, vm₁) => (none, vm₁) := by
  simp only [readSlots, StateT.run_bind]
  rcases (readSlot i t).run vm with ⟨_ | _, _⟩ <;> rfl

/-- Reading the slots above some others. -/
theorem readSlots_reads (ts : List Ty) : ∀ (xs : List Value) (low : Array Value) (vm : Vm),
    vm.stack = low ++ xs.toArray → xs.length = ts.length → ∃ n, ((readSlots (low.size + 1) ts).run vm).2 = vm.refuse n ∧
      (n = 0 → ((readSlots (low.size + 1) ts).run vm).1 = valuesAs vm.heap vm.traversal ts xs) := by
  induction ts with
  | nil =>
    intro xs low vm _ hl
    rw [List.length_eq_zero_iff.1 hl]
    exact ⟨0, rfl, fun _ => rfl⟩
  | cons t ts ih =>
    intro xs low vm hs hl
    obtain ⟨x, xs, rfl⟩ := List.exists_cons_of_length_eq_add_one hl
    have hi : low.size + 1 ≤ vm.top := by
      simp only [top, hs, Array.size_append, List.size_toArray, List.length_cons]
      omega
    obtain ⟨n, hn, hd⟩ := readSlot_reads (Nat.succ_pos _) hi t
    have hx : vm.stack.getD (low.size + 1 - 1) .nil = x := by simp [hs]
    have hs' : (vm.refuse n).stack = low.push x ++ xs.toArray := by simp [refuse, hs]
    obtain ⟨m, hm, hds⟩ := ih xs (low.push x) (vm.refuse n) hs' (Nat.succ.inj hl)
    rw [Array.size_push] at hm hds
    rw [run_readSlots_cons]
    rcases hr : (readSlot (low.size + 1) t).run vm with ⟨d, vm₁⟩
    rw [hr, hx] at hd
    rw [hr] at hn
    obtain rfl : vm₁ = vm.refuse n := hn
    cases d with
    | none =>
      refine ⟨n, rfl, fun h => ?_⟩
      rw [valuesAs, ← hd h]
      rfl
    | some d =>
      refine ⟨n + m, hm.trans (refuse_refuse _ _ _), fun h => ?_⟩
      rw [valuesAs, ← hd (by omega)]
      refine (congrArg (Option.map (d :: ·)) (hds (by omega))).trans ?_
      show Option.map _ (valuesAs vm.heap vm.traversal ts xs) = _
      cases valuesAs vm.heap vm.traversal ts xs <;> rfl

theorem readResults_tuple {ts : List Ty} (ht : ¬vm.top < ts.length) : vm.readResults (.tuple ts) =
    (do return (← readSlots (vm.top - ts.length + 1) ts).map .list : StateM Vm (Option Datum)).run vm :=
  (if_neg ht).trans rfl

/-- Reading the topmost slots as results leaves the stack as it was. -/
theorem readResults_reads {t : Ty} (hs : vm.stack = below ++ xs.toArray) (hl : xs.length = resultCount t) :
    ∃ n, (vm.readResults t).2 = vm.refuse n ∧
      (n = 0 → (vm.readResults t).1 = resultsAs vm.heap vm.traversal t xs) := by
  have hone : ∀ {t}, resultCount t = 1 → xs.length = resultCount t → vm.topValue? = some (xs.headD .nil) := by
    intro t ht hl
    obtain ⟨x, rfl⟩ := List.length_eq_one_iff.1 (hl.trans ht)
    simp [topValue?, hs]
  cases t with
  | unit => exact ⟨0, rfl, fun _ => rfl⟩
  | tuple ts =>
    have htop : vm.top = below.size + ts.length := by
      rw [top, hs, Array.size_append, List.size_toArray]
      exact congrArg _ hl
    obtain ⟨n, hn, hd⟩ := readSlots_reads ts xs below vm hs hl
    rw [readResults_tuple (by omega), htop, Nat.add_sub_cancel]
    refine ⟨n, hn, fun h => ?_⟩
    show Option.map _ ((readSlots (below.size + 1) ts).run vm).1 = _
    rw [hd h, resultsAs]
  | _ => exact readTop_reads vm.heap vm.traversal _ vm _ rfl rfl (hone rfl hl)

/-! ## Arguments -/

theorem pushArgs_ends (ds : List Datum) (vm : Vm) :
    Ends (fun _ => True) vm (fun vm' => ∃ xs, Grows (fun _ => True) vm vm' xs ∧
      RepresentsItems vm.heap.tables.size vm'.heap ds xs) ((pushArgs ds).on vm) := by
  induction ds generalizing vm with
  | nil => exact ⟨rfl, [], .refl _ vm, rfl⟩
  | cons d ds ih =>
    rw [pushArgs]
    refine (pushDatum_ends d vm).bind ?_
    rintro vm₁ hr ⟨x, hg, hx⟩
    refine ((ih vm₁).of_grows hg hr fun _ _ h => h).imp ?_
    rintro vm₂ ⟨xs, hg', hxs⟩
    have hkeeps : vm₁.heap.Keeps vm₂.heap vm.heap.tables.size :=
      ⟨hg'.heap.size, fun i _ hi => hg'.heap.kept i trivial hi⟩
    exact ⟨x :: xs, hg.trans hg' fun _ _ h => h, x, xs, rfl, hx.mono (Nat.le_refl _) hkeeps,
      hxs.mono hg.heap.size (.refl _ _)⟩

theorem pushAll_eq (vm : Vm) (ds : List Datum) :
    vm.pushAll ds = vm.undoing ((Push.reserve ds.length >>= fun _ => pushArgs ds).on vm) := rfl

/-- Arguments that are pushed stand above what was there, one slot each. -/
theorem pushAll_ok {ds : List Datum} (hp : vm.pushAll ds = (.ok (), vm₁)) : vm₁.refusals = vm.refusals ∧
    ∃ xs, Grows (fun _ => True) vm vm₁ xs ∧ RepresentsItems vm.heap.tables.size vm₁.heap ds xs :=
  (pushArgs_ends ds vm).undoing_ok ((pushAll_eq vm ds).symm.trans hp)

/-- When an argument cannot be pushed, nothing stays of those before it. -/
theorem pushAll_error {ds : List Datum} {e : VmError} (hp : vm.pushAll ds = (.error e, vm₁)) :
    vm₁ = vm.refuse e.refusals :=
  (pushArgs_ends ds vm).undoing_error ((pushAll_eq vm ds).symm.trans hp)

/-! ## Calls -/

/-- How a call of a global goes. -/
inductive Course
  | missing
  | notFunction
  | unpushable (e : VmError)
  | raised (v : Value)
  | returned (vs : List Value) (heap : Heap)
  | endless

/-- How it goes to call a function that is on the stack below its arguments. -/
def courseOf (vm : Vm) (f : Value) (args : List Value) : Course :=
  if maxHeight < vm.top + roomToStart f ∧ !vm.hasOverflowed then .raised (.text (Bytes.ofString "stack overflow"))
  else match vm.heap.callFunction f args with
    | some (.values vs, heap) => .returned vs heap
    | some (.error v, _) => .raised v
    | none => .endless

/-- How it goes to call a function that is on top with arguments. -/
def courseOn (vm : Vm) (f : Value) (args : List Datum) : Course :=
  match vm.pushAll args with
  | (.error e, _) => .unpushable e
  | (.ok (), after) => after.courseOf f (after.stack.toList.drop vm.top)

/-- How it goes to call the global with a name. -/
def course (vm : Vm) (name : String) (args : List Datum) : Course :=
  if name.toList.contains '\x00' then .missing
  else match pushGlobal.lookUp vm name with
    | (.nil, _) => .missing
    | (f, vm) => if (Captured.fromTop? (vm.pushValue f)).isSome then (vm.pushValue f).courseOn f args else .notFunction

/-- How many requests for room are refused while the arguments of a call are pushed. -/
def argumentRefusals (vm : Vm) (name : String) (args : List Datum) : Nat :=
  match vm.pushGlobal name with
  | (true, vm) => if (Captured.fromTop? vm).isSome then (vm.pushAll args).2.refusals - vm.refusals else 0
  | (false, _) => 0

/-- The answer to a call that goes a certain way. -/
def Course.answer (o : Traversal) (name : String) (result : Ty) : Course → Except CallError Datum
  | .missing => .error (.symbolNotFound name)
  | .notFunction => .error (.unknown ("symbol '" ++ name ++ "' is not a function"))
  | .unpushable e => .error (.incorrectType ("arguments cannot be converted to Lua values: " ++ e.display))
  | .raised v => .error (.unknown (errorMessage v))
  | .endless => .error (.unknown "the call did not end")
  | .returned vs heap => match resultsAs heap o result (adjust vs (resultCount result)) with
    | some d => .ok d
    | none => .error (.incorrectType "returned values do not match the requested types")

namespace Course

variable {c : Course} {o : Traversal} {name m : String} {result : Ty}

theorem answer_eq_symbolNotFound_iff : c.answer o name result = .error (.symbolNotFound name) ↔ c = .missing := by
  cases c with
  | returned vs heap =>
    rw [answer]
    split <;> simp [CallError.symbolNotFound, CallError.incorrectType]
  | _ => simp [answer, CallError.symbolNotFound, CallError.unknown, CallError.incorrectType]

theorem answer_eq_unknown_iff : c.answer o name result = .error (.unknown m) ↔
    c = .notFunction ∧ m = "symbol '" ++ name ++ "' is not a function" ∨ (∃ v, c = .raised v ∧ m = errorMessage v) ∨
      c = .endless ∧ m = "the call did not end" := by
  cases c with
  | returned vs heap =>
    rw [answer]
    split <;> simp [CallError.unknown, CallError.incorrectType]
  | _ => simp [answer, CallError.symbolNotFound, CallError.unknown, CallError.incorrectType, eq_comm (a := m)]

theorem answer_eq_incorrectType_iff : c.answer o name result = .error (.incorrectType m) ↔
    (∃ e, c = .unpushable e ∧ m = "arguments cannot be converted to Lua values: " ++ e.display) ∨
      ∃ vs heap, c = .returned vs heap ∧ resultsAs heap o result (adjust vs (resultCount result)) = none ∧
        m = "returned values do not match the requested types" := by
  cases c with
  | returned vs heap =>
    rw [answer]
    cases hr : resultsAs heap o result (adjust vs (resultCount result)) <;>
      simp [hr, and_assoc, CallError.incorrectType, eq_comm (a := m)]
  | _ => simp [answer, CallError.symbolNotFound, CallError.unknown, CallError.incorrectType, eq_comm (a := m)]

theorem answer_eq_ok_iff {d : Datum} : c.answer o name result = .ok d ↔
    ∃ vs heap, c = .returned vs heap ∧ resultsAs heap o result (adjust vs (resultCount result)) = some d := by
  cases c with
  | returned vs heap =>
    rw [answer]
    cases hr : resultsAs heap o result (adjust vs (resultCount result)) <;> simp [hr, and_assoc]
  | _ => simp [answer]

end Course

theorem message_callError (v : Value) : (callError v).message = errorMessage v := by
  cases v with
  | text s =>
    rw [callError]
    split
    · next h =>
      subst h
      exact (Text.ofBytesLossy_toUTF8 _).symm
    · rfl
  | _ => rfl

theorem length_adjust (vs : List Value) (n : Nat) : (adjust vs n).length = n := by
  have hn : ¬(n : Int) < 0 := by omega
  simp only [adjust, hn, if_false, List.length_append, List.length_take, List.length_replicate, Int.toNat_natCast]
  omega

/-- A call in protected mode of the function that is below its arguments. -/
theorem protectedCall_eq {n k : Int32} (hs : vm.stack = below.push f ++ xs.toArray) (hn : n.toInt = xs.length) :
    vm.protectedCall n k =
      if maxHeight < vm.top + roomToStart f ∧ !vm.hasOverflowed then
        (.error (.runtime "stack overflow"), { vm with stack := below })
      else match vm.heap.callFunction f xs with
        | some (.values vs, heap) => (.ok (), { vm with heap, stack := below ++ (adjust vs k.toInt).toArray })
        | some (.error v, heap) => (.error (callError v), { vm with heap, stack := below })
        | none => (.error (.runtime "the call did not end"), { vm with stack := below }) := by
  have htop : vm.top = below.size + (xs.length + 1) := by
    simp [top, hs]
  have hbase : vm.top - (xs.length + 1) = below.size := by omega
  have hf : vm.stack.getD below.size .nil = f := by simp [hs]
  have hthere : vm.touch (xs.length + 1) = vm := touch_of_le (by omega)
  have hargs : (vm.stack.extract (below.size + 1) vm.top).toList = xs := by
    rw [htop, hs]
    simp
  have hbelow : vm.stack.take below.size = below := by simp [hs]
  have hmissing : vm.missing + (xs.length + 1 - vm.top) = vm.missing := by omega
  -- only one side is computed: the matches of the two are equal by unfolding, not as they are written
  have hcall : vm.protectedCall n k = vm.protectedCall n k := rfl
  conv_rhs at hcall => simp only [protectedCall, hn, Int.toNat_natCast, hthere, hbase, hf, hargs, hbelow, hmissing]
  exact hcall

/-- A call in protected mode: the results, or nothing if it fails, take the place of the function and its arguments. -/
theorem protectedCall_cases {n k : Int32} (hs : vm.stack = below.push f ++ xs.toArray) (hn : n.toInt = xs.length) :
    ∃ vm', vm'.traversal = vm.traversal ∧ vm'.refusals = vm.refusals ∧
      ((∃ vs, vm.courseOf f xs = .returned vs vm'.heap ∧ vm.protectedCall n k = (.ok (), vm') ∧
          vm'.stack = below ++ (adjust vs k.toInt).toArray) ∨
        ∃ e, vm.protectedCall n k = (.error e, vm') ∧ vm'.stack = below ∧
          ((∃ v, vm.courseOf f xs = .raised v ∧ e.message = errorMessage v) ∨
            vm.courseOf f xs = .endless ∧ e.message = "the call did not end")) := by
  rw [protectedCall_eq hs hn, courseOf]
  split
  · exact ⟨{ vm with stack := below }, rfl, rfl, .inr ⟨_, rfl, rfl, .inl ⟨_, rfl, (Text.ofBytesLossy_toUTF8 _).symm⟩⟩⟩
  · rcases vm.heap.callFunction f xs with _ | ⟨vs | v, heap⟩
    · exact ⟨{ vm with stack := below }, rfl, rfl, .inr ⟨_, rfl, rfl, .inr ⟨rfl, rfl⟩⟩⟩
    · exact ⟨{ vm with heap, stack := _ }, rfl, rfl, .inl ⟨vs, rfl, rfl, rfl⟩⟩
    · exact ⟨{ vm with heap, stack := below }, rfl, rfl, .inr ⟨_, rfl, rfl, .inl ⟨v, rfl, message_callError v⟩⟩⟩

theorem stack_resize {s t : Array Value} (hs : vm.stack = s ++ t) : (vm.resize s.size).stack = s := by
  simp [resize, hs]

theorem toInt_ofNat_small {n : Nat} (hn : n ≤ 8) : (Int32.ofNat n).toInt = n :=
  Int32.toInt_ofNat_of_lt (by omega)

/-- Arguments that are pushed stand above the function that was on top. -/
theorem pushAll_above {args : List Datum} (hs : vm.stack = below.push f) (ha : args.length ≤ 8)
    (hp : vm.pushAll args = (.ok (), vm₁)) : ∃ xs, vm₁.stack = below.push f ++ xs.toArray ∧
      vm₁.stack.toList.drop vm.top = xs ∧ (Int32.ofNat args.length).toInt = xs.length ∧
      vm₁.traversal = vm.traversal ∧ vm₁.refusals = vm.refusals := by
  obtain ⟨hr, xs, hg, hxs⟩ := pushAll_ok hp
  refine ⟨xs, hs ▸ hg.stack, ?_, ?_, hg.traversal, hr⟩
  · rw [hg.stack, Array.toList_append]
    exact List.drop_left' Array.length_toList
  · rw [toInt_ofNat_small ha, length_of_representsItems hxs]

/-- A function that was just captured is still on top. -/
theorem fromTop?_pushValue {c : Captured} (hc : Captured.fromTop? (vm.pushValue f) = some c) :
    c.isValid (vm.pushValue f) ∧ c.depth = vm.top + 1 := by
  have htop : (vm.pushValue f).topValue? = some f := topValue?_pushValue vm f 0
  have hsize : (vm.pushValue f).top = vm.top + 1 := by simp [top, pushValue]
  obtain ⟨g, hg, hfunction, rfl⟩ := Captured.fromTop?_eq_some_iff.1 hc
  obtain rfl : f = g := Option.some.inj (htop.symm.trans hg)
  simp [Captured.isValid, topType_eq, identityAt?_neg_one, htop, hsize, hfunction]

/-- Calling a captured function leaves what is below it as it was, and answers according to how the call goes. -/
theorem call_captured {c : Captured} {args : List Datum} {result : Ty}
    (hc : Captured.fromTop? (vm.pushValue f) = some c) (ha : args.length ≤ 8) (hn : resultCount result ≤ 8)
    (name : String) :
    (c.call (vm.pushValue f) args result).2.stack = vm.stack ∧
      ((c.call (vm.pushValue f) args result).2.refusals =
          vm.refusals + (((vm.pushValue f).pushAll args).2.refusals - vm.refusals) →
        (c.call (vm.pushValue f) args result).1 =
          ((vm.pushValue f).courseOn f args).answer vm.traversal name result) := by
  obtain ⟨hvalid, hdepth⟩ := fromTop?_pushValue hc
  have hstack : (vm.pushValue f).stack = vm.stack ++ #[f] := Array.push_eq_append
  rw [Captured.call_of_isValid hvalid, hdepth, Nat.add_sub_cancel, courseOn, Captured.run]
  rcases hp : (vm.pushValue f).pushAll args with ⟨e | ⟨⟩, vm₁⟩
  · exact ⟨stack_resize ((congrArg Vm.stack (pushAll_error hp)).trans hstack), fun _ => rfl⟩
  · have hpushed : (vm.pushValue f).stack = vm.stack.push f := rfl
    obtain ⟨xs, hs, hargs, hcount, htraversal, hr⟩ := pushAll_above hpushed ha hp
    dsimp only
    rw [hargs]
    obtain ⟨vm₂, ht, hr₂, ⟨vs, hcourse, hcall, hs₂⟩ | ⟨e, hcall, hs₂, hcourse⟩⟩ :=
      protectedCall_cases (k := Int32.ofNat (resultCount result)) hs hcount
    · rw [toInt_ofNat_small hn] at hs₂
      obtain ⟨n, hafter, hread⟩ := readResults_reads (t := result) hs₂ (length_adjust vs (resultCount result))
      rw [hcall, hcourse, Course.answer]
      rcases hres : vm₂.readResults result with ⟨d, vm₃⟩
      rw [hres] at hafter hread
      obtain rfl : vm₃ = vm₂.refuse n := hafter
      have hs₃ : ((vm₂.refuse n).resize vm.top).stack = vm.stack := stack_resize hs₂
      have hn₀ : ((vm₂.refuse n).resize vm.top).refusals = vm.refusals + (vm₁.refusals - vm.refusals) → n = 0 := by
        have hr₁ : vm₁.refusals = vm.refusals := hr
        simp only [refusals_resize, refuse]
        omega
      have htrav : vm₂.traversal = vm.traversal := ht.trans htraversal
      dsimp only
      rw [hres, ← htrav]
      cases d with
      | none => exact ⟨hs₃, fun h => by rw [← hread (hn₀ h)]⟩
      | some d => exact ⟨hs₃, fun h => by rw [← hread (hn₀ h)]⟩
    · rw [hcall]
      refine ⟨stack_resize (hs₂.trans (Array.append_empty).symm), fun _ => ?_⟩
      rcases hcourse with ⟨v, hcourse, hm⟩ | ⟨hcourse, hm⟩ <;> rw [hcourse, Course.answer, ← hm]

/-! ## Globals -/

theorem lookUp_eq (vm : Vm) (name : String) : ∃ v heap, pushGlobal.lookUp vm name = (v, { vm with heap }) := by
  unfold pushGlobal.lookUp
  dsimp only
  split
  · exact ⟨_, _, rfl⟩
  · exact ⟨_, _, rfl⟩
  · exact ⟨_, vm.heap, rfl⟩

/-- A global is refused room, missing, or on top. -/
theorem pushGlobal_cases (vm : Vm) (name : String) :
    vm.pushGlobal name = (false, vm.refuse 1) ∨ ∃ heap,
      (vm.pushGlobal name = (false, { vm with heap }) ∧ ∀ args, vm.course name args = .missing) ∨
      ∃ f, vm.pushGlobal name = (true, { vm with heap }.pushValue f) ∧ ∀ args, vm.course name args =
        if (Captured.fromTop? ({ vm with heap }.pushValue f)).isSome then ({ vm with heap }.pushValue f).courseOn f args
        else .notFunction := by
  unfold pushGlobal course
  split
  · exact .inr ⟨vm.heap, .inl ⟨rfl, fun _ => rfl⟩⟩
  · obtain ⟨v, heap, hv⟩ := lookUp_eq vm name
    rcases reserve_cases vm 1 with hr | hr
    · rw [hr]
      dsimp only
      rw [hv]
      refine .inr ⟨heap, ?_⟩
      cases v with
      | nil => exact .inl ⟨congrArg (false, ·) (discard_pushValue { vm with heap } .nil 0), fun _ => rfl⟩
      | _ => exact .inr ⟨_, rfl, fun _ => rfl⟩
    · rw [hr]
      exact .inl rfl

end Vm

end Lua

namespace LuaPlugin

open Lua

variable (p : LuaPlugin) (name : String) (args : List Datum) (result : Ty) (w : World)

/-- What a call gives, apart from what it reports and prints. -/
theorem run_call : ((p.call name args result).run w).1 = match p.vm.pushGlobal name with
    | (false, vm) => (.error (.symbolNotFound name), { p with vm := vm.takeOutput.2 })
    | (true, vm) => match Captured.fromTop? vm with
      | some f =>
        let (answer, vm) := f.call vm args result
        (answer, { p with vm := (vm.resize p.vm.top).takeOutput.2 })
      | none => (.error (.unknown ("symbol '" ++ name ++ "' is not a function")),
          { p with vm := (vm.resize p.vm.top).takeOutput.2 }) := by
  unfold call
  rcases p.vm.pushGlobal name with ⟨_ | _, vm⟩
  · rfl
  · dsimp only
    rcases Captured.fromTop? vm with _ | f
    · rfl
    · dsimp only
      rcases f.call vm args result with ⟨answer, vm'⟩
      rfl

/-- A call leaves the stack as it was and answers according to how it goes, unless a request for room is refused that is
not for an argument. -/
theorem call_course (ha : args.length ≤ 8) (hn : Vm.resultCount result ≤ 8) :
    ((p.call name args result).run w).1.2.vm.stack = p.vm.stack ∧
      (((p.call name args result).run w).1.2.vm.refusals = p.vm.refusals + p.vm.argumentRefusals name args →
        ((p.call name args result).run w).1.1 = (p.vm.course name args).answer p.vm.traversal name result) := by
  have hself : ∀ {vm : Vm}, vm.stack = p.vm.stack → (vm.resize p.vm.top).stack = p.vm.stack := fun h =>
    Vm.stack_resize (h.trans Array.append_empty.symm)
  rw [run_call, Vm.argumentRefusals]
  rcases p.vm.pushGlobal_cases name with hg | ⟨heap, ⟨hg, hcourse⟩ | ⟨f, hg, hcourse⟩⟩ <;> rw [hg]
  · exact ⟨rfl, fun h => absurd h (Nat.succ_ne_self _)⟩
  · exact ⟨rfl, fun _ => by rw [hcourse]; rfl⟩
  · dsimp only
    rw [hcourse]
    cases hc : Captured.fromTop? ({ p.vm with heap }.pushValue f) with
    | none => exact ⟨Vm.stack_resize Array.push_eq_append, fun _ => rfl⟩
    | some c =>
      obtain ⟨hs, ha⟩ := Vm.call_captured hc ha hn name
      exact ⟨hself hs, fun h => ha ((Vm.refusals_resize _ _).symm.trans h)⟩

/-- A plugin with something on its stack and a global function, which gives its arguments after some of them. -/
def sample : LuaPlugin :=
  { vm := ({ stack := #[.boolean true, .builtin .select] } : Vm).setGlobal "rest", path := ⟨"sample.lua"⟩,
    isPending := false }

end LuaPlugin

end PluginHost
