import PluginHost.Proofs.Lua.Refusals

/-!
# Rejected requests

A plugin that rejects a request is what it was, whatever had been converted by then: no script has run, and its globals,
its stack and its top level are as before (`perform_rejected`). If room was refused on the way, the interpreter keeps a
little more of it, which valid requests do not notice.
-/

namespace PluginHost

namespace Lua.Vm

variable {vm : Vm} {name : String}

theorem reserve_of_lt (ht : vm.top < maxHeight) : vm.reserve 1 = (true, vm) := by
  have hone : (1 : Int32).toInt = 1 := by decide
  have hlimit : maxHeight < maxHeightAfterRefusal := by decide
  unfold reserve
  dsimp only
  rw [if_pos]
  rw [hone]
  split <;> omega

theorem reserve_of_low (ht : vm.top ≤ 1) : vm.reserve 1 = (true, vm) :=
  reserve_of_lt (Nat.lt_of_le_of_lt ht (by decide))

/-- How a call goes with plain globals. -/
theorem course_of_plain (hg : vm.heap.HasPlainGlobals) (args : List Datum) : vm.course name args =
    if '\x00' ∈ name.toList ∨ (vm.heap.globalValue name).isNil then .missing
    else if (Captured.fromTop? (vm.pushValue (vm.heap.globalValue name))).isSome then
      (vm.pushValue (vm.heap.globalValue name)).courseOn (vm.heap.globalValue name) args
    else .notFunction := by
  unfold course
  by_cases hn : '\x00' ∈ name.toList
  · rw [if_pos (by simpa using hn), if_pos (Or.inl hn)]
  · rw [if_neg (by simpa using hn), lookUp_of_plain hg]
    by_cases hx : (vm.heap.globalValue name).isNil
    · rw [if_pos (Or.inr hx), Value.isNil_iff.1 hx]
    · rw [if_neg (not_or.2 ⟨hn, hx⟩)]
      split
      · next h => exact absurd (Value.isNil_iff.2 (Prod.mk.inj h).1) hx
      · next h =>
        obtain ⟨rfl, rfl⟩ := Prod.mk.inj h
        rfl

theorem pushAll_of_courseOn {f : Value} {args : List Datum} {e : VmError} (h : vm.courseOn f args = .unpushable e) :
    vm.pushAll args = (.error e, (vm.pushAll args).2) := by
  unfold courseOn at h
  split at h
  · next hpush =>
    cases h
    rw [hpush]
  · unfold courseOf at h
    split at h
    · cases h
    · split at h <;> cases h

theorem courseOn_ne {f : Value} {args : List Datum} : vm.courseOn f args ≠ .missing ∧ vm.courseOn f args ≠ .notFunction := by
  unfold courseOn
  split
  · simp
  · unfold courseOf
    split
    · simp
    · split <;> simp

end Lua.Vm

namespace LuaPlugin

open Lua

/-- The requests that a plugin rejects, with the error that it answers and the number of requests for room that are refused
on the way. -/
inductive Rejects (p : LuaPlugin) : Request → CallError → Nat → Prop
  | missing {name : String} {args : List Datum} {result : Ty} {fewArgs fewResults}
      (h : p.vm.course name args = .missing) :
      Rejects p (.call name args result fewArgs fewResults) (.symbolNotFound name) 0
  | notFunction {name : String} {args : List Datum} {result : Ty} {fewArgs fewResults}
      (h : p.vm.course name args = .notFunction) :
      Rejects p (.call name args result fewArgs fewResults) (.unknown ("symbol '" ++ name ++ "' is not a function")) 0
  /-- There is a function, but an argument cannot be pushed. -/
  | unpushable {name : String} {args : List Datum} {result : Ty} {fewArgs fewResults} {e : VmError}
      (h : p.vm.course name args = .unpushable e) :
      Rejects p (.call name args result fewArgs fewResults)
        (.incorrectType ("arguments cannot be converted to Lua values: " ++ e.display)) e.refusals
  | unread {name : String} {t : Ty} {e : CallError} {w : World} (h : ((p.global name t).run w).1.1 = .error e) :
      Rejects p (.global name t) e (((p.global name t).run w).1.2.vm.refusals - p.vm.refusals)
  | unpushed {name : String} {d : Datum} {e : VmError} {vm : Vm} (h : p.vm.push d = (.error e, vm)) :
      Rejects p (.setGlobal name d)
        (.incorrectType ("global '" ++ name ++ "' cannot be converted to a Lua value: " ++ e.display)) e.refusals

variable {p : LuaPlugin} {f : Value}

/-! ## Nothing is printed -/

theorem flush_idle (ho : p.vm.heap.output = .empty) (w : World) : p.flush.run w = (p, w) := by
  have hempty : Text.ofBytesLossy .empty = "" := by decide
  have hvm : p.vm.takeOutput = ("", p.vm) := by
    rw [Vm.takeOutput, ho, hempty, ← ho]
  unfold flush
  rw [hvm]
  rfl

/-- Nothing is printed while a script is compiled. -/
theorem IsCompiled.output {path : Path} {options : LuaOptions} {files : FileTree}
    (hc : IsCompiled path options files f p) : p.vm.heap.output = .empty := by
  obtain ⟨source, body, -, -, hheap⟩ := hc.compiled
  rw [(Prod.mk.inj hheap).2]
  show (if options.opensLibraries then ({} : Vm).openLibraries else {}).heap.output = _
  split <;> rfl

theorem answer_idle {α : Type} (a : α) (ho : p.vm.heap.output = .empty) (w : World) :
    (do return (a, ← p.flush) : Host (α × LuaPlugin)).run w = ((a, p), w) := by
  rw [StateT.run_bind, flush_idle ho]
  rfl

/-- Between requests nothing is left to print. -/
theorem output_perform (ho : p.vm.heap.output = .empty) (r : Request) (w : World) :
    ((p.perform r).run w).1.2.vm.heap.output = .empty := by
  show (p.response r w p.vm).2.heap.output = .empty
  cases r with
  | run =>
    by_cases hp : p.isPending
    · rw [response_run w _ hp]
      rfl
    · rw [response_ran w _ hp]
      exact ho
  | call name args result ha hn =>
    rw [response_call]
    split
    · rfl
    · unfold callTop
      split <;> rfl
  | global name t =>
    rw [response_global]
    split <;> rfl
  | setGlobal name d =>
    rw [response_setGlobal]
    split
    · next hpush =>
      rw [Vm.push_error hpush]
      exact ho
    · rfl

theorem output_after (rs : List (Request × World)) : ∀ {p : LuaPlugin}, p.vm.heap.output = .empty →
    (p.after rs).vm.heap.output = .empty := by
  induction rs with
  | nil => exact fun ho => ho
  | cons e rs ih => exact fun ho => ih (output_perform ho e.1 e.2)

/-! ## Rejections -/

section Rejections

variable (hf : p.Holds f) (ho : p.vm.heap.output = .empty) (hg : p.vm.heap.HasPlainGlobals) {name : String}
include hf ho hg

theorem call_lacking (args : List Datum) (result : Ty) (w : World)
    (hname : '\x00' ∈ name.toList ∨ (p.vm.heap.globalValue name).isNil) :
    (p.call name args result).run w = ((.error (.symbolNotFound name), p), w) := by
  rw [call, Vm.pushGlobal_of_granted hg name (Vm.reserve_of_low hf.top_le), if_pos hname]
  exact answer_idle _ ho w

theorem call_notFunction (args : List Datum) (result : Ty) (w : World)
    (hname : ¬('\x00' ∈ name.toList ∨ (p.vm.heap.globalValue name).isNil))
    (hf' : Captured.fromTop? (p.vm.pushValue (p.vm.heap.globalValue name)) = none) :
    (p.call name args result).run w = ((.error (.unknown ("symbol '" ++ name ++ "' is not a function")), p), w) := by
  rw [call, Vm.pushGlobal_of_granted hg name (Vm.reserve_of_low hf.top_le), if_neg hname]
  dsimp only
  rw [hf']
  have hvm : (p.vm.pushValue (p.vm.heap.globalValue name)).resize p.vm.top = p.vm := Vm.resize_pushValue p.vm _ 0
  dsimp only
  rw [hvm]
  exact answer_idle _ ho w

theorem call_unpushable {args : List Datum} (result : Ty) (w : World) {c : Captured} {e : VmError} {vm : Vm}
    (hname : ¬('\x00' ∈ name.toList ∨ (p.vm.heap.globalValue name).isNil))
    (hc : Captured.fromTop? (p.vm.pushValue (p.vm.heap.globalValue name)) = some c)
    (hpush : (p.vm.pushValue (p.vm.heap.globalValue name)).pushAll args = (.error e, vm)) :
    ∃ events, (p.call name args result).run w = ((.error (.incorrectType
      ("arguments cannot be converted to Lua values: " ++ e.display)), p.refused e.refusals), { w with events }) := by
  obtain ⟨hvalid, hdepth⟩ := Vm.fromTop?_pushValue hc
  have hcall : c.call (p.vm.pushValue (p.vm.heap.globalValue name)) args result =
      (.error (.incorrectType ("arguments cannot be converted to Lua values: " ++ e.display)),
        p.vm.refuse e.refusals) := by
    rw [Captured.call_of_isValid hvalid, Captured.run, hpush, Vm.pushAll_error hpush, hdepth, Nat.add_sub_cancel]
    exact congrArg (Prod.mk _) (Vm.resize_pushValue p.vm _ _)
  have hvm : (p.vm.refuse e.refusals).resize p.vm.top = p.vm.refuse e.refusals := by
    simp [Vm.resize, Vm.refuse, Vm.top]
  rw [call, Vm.pushGlobal_of_granted hg name (Vm.reserve_of_low hf.top_le), if_neg hname]
  dsimp only
  rw [hc]
  dsimp only
  rw [hcall]
  dsimp only
  rw [hvm]
  exact ⟨_, answer_idle (p := p.refused e.refusals) _ ho
    ((Host.emit .trace "trellis_lua::function" "calling Lua function").run w).2⟩

/-- Reading a global changes nothing, whatever it gives. -/
theorem global_untouched (name : String) (t : Ty) :
    ∃ answer n, ∀ w, (p.global name t).run w = ((answer, p.refused n), w) := by
  by_cases hname : '\x00' ∈ name.toList ∨ (p.vm.heap.globalValue name).isNil
  · refine ⟨.error (.symbolNotFound name), 0, fun w => ?_⟩
    rw [global, Vm.pushGlobal_of_granted hg name (Vm.reserve_of_low hf.top_le), if_pos hname]
    exact answer_idle _ ho w
  · obtain ⟨n, hs, -⟩ := Vm.readTop_reads p.vm.heap p.vm.traversal t (p.vm.pushValue (p.vm.heap.globalValue name)) _
      rfl rfl (Vm.topValue?_pushValue p.vm _ 0)
    have hvm : ((p.vm.pushValue (p.vm.heap.globalValue name)).popAlways t).2 = p.vm.refuse n :=
      (congrArg (Vm.discard · 1) hs).trans (Vm.discard_pushValue p.vm _ n)
    rcases hd : (p.vm.pushValue (p.vm.heap.globalValue name)).popAlways t with ⟨_ | d, vm⟩ <;> rw [hd] at hvm <;>
      obtain rfl : vm = p.vm.refuse n := hvm
    · refine ⟨.error (.incorrectType ("global '" ++ name ++ "' does not match the requested type")), n, fun w => ?_⟩
      rw [global, Vm.pushGlobal_of_granted hg name (Vm.reserve_of_low hf.top_le), if_neg hname]
      dsimp only
      rw [hd]
      exact answer_idle (p := p.refused n) _ ho w
    · refine ⟨.ok d, n, fun w => ?_⟩
      rw [global, Vm.pushGlobal_of_granted hg name (Vm.reserve_of_low hf.top_le), if_neg hname]
      dsimp only
      rw [hd]
      exact answer_idle (p := p.refused n) _ ho w

theorem global_rejected {t : Ty} {e : CallError} {w : World} (he : ((p.global name t).run w).1.1 = .error e)
    (w' : World) : (p.global name t).run w' =
      ((.error e, p.refused (((p.global name t).run w).1.2.vm.refusals - p.vm.refusals)), w') := by
  obtain ⟨answer, n, hrun⟩ := global_untouched hf ho hg name t
  have hn : (p.refused n).vm.refusals - p.vm.refusals = n := Nat.add_sub_cancel_left _ _
  rw [hrun w] at he ⊢
  rw [hrun w', hn]
  rw [show answer = .error e from he]

end Rejections

theorem setGlobal_rejected {name : String} {d : Datum} {e : VmError} {vm : Vm} (hpush : p.vm.push d = (.error e, vm))
    (w : World) : (p.setGlobal name d).run w = ((.error (.incorrectType
      ("global '" ++ name ++ "' cannot be converted to a Lua value: " ++ e.display)), p.refused e.refusals), w) := by
  rw [setGlobal, hpush, Vm.push_error hpush]
  rfl

/-- A plugin that rejects a request is what it was, but for the room that was refused. -/
theorem perform_rejects (hf : p.Holds f) (ho : p.vm.heap.output = .empty) (hg : p.vm.heap.HasPlainGlobals)
    {r : Request} {e : CallError} {n : Nat} (hr : p.Rejects r e n) (w : World) :
    ∃ events, (p.perform r).run w = ((.error e, p.refused n), { w with events }) := by
  cases hr with
  | @missing name args result _ _ h =>
    rw [Vm.course_of_plain hg] at h
    split at h
    · next hname => exact ⟨w.events, call_lacking hf ho hg args result w hname⟩
    · split at h
      · exact absurd h Vm.courseOn_ne.1
      · cases h
  | @notFunction name args result _ _ h =>
    rw [Vm.course_of_plain hg] at h
    split at h
    · cases h
    · next hname =>
      split at h
      · exact absurd h Vm.courseOn_ne.2
      · next hf' => exact ⟨w.events, call_notFunction hf ho hg args result w hname (by simpa using hf')⟩
  | @unpushable name args result _ _ e h =>
    rw [Vm.course_of_plain hg] at h
    split at h
    · cases h
    · next hname =>
      split at h
      · next hf' =>
        obtain ⟨c, hc⟩ := Option.isSome_iff_exists.1 hf'
        exact call_unpushable hf ho hg result w hname hc (Vm.pushAll_of_courseOn h)
      · cases h
  | @unread name t e w₁ h => exact ⟨w.events, global_rejected hf ho hg h w⟩
  | @unpushed name d e vm h =>
    refine ⟨w.events, ?_⟩
    rw [perform, StateT.run_bind, setGlobal_rejected h]
    rfl

/-- A request that a plugin rejects in the course of its life leaves it as it was, nothing is printed, and looking names up
runs nothing. Whatever is asked of it next is answered as it would have been, as long as that is valid or no
room was refused for the rejected request. -/
theorem perform_rejected {path : Path} {options : LuaOptions} {w w₁ : World}
    (hload : (load path options).run w = (.ok p, w₁)) (rs : List (Request × World))
    (hg : (p.after rs).vm.heap.HasPlainGlobals) {r : Request} {e : CallError} {n : Nat}
    (hr : (p.after rs).Rejects r e n) (w₂ : World) :
    (∃ events, ((p.after rs).perform r).run w₂ = ((.error e, (p.after rs).refused n), { w₂ with events })) ∧
    (∀ name, Vm.pushGlobal.lookUp (p.after rs).vm name = ((p.after rs).vm.heap.globalValue name, (p.after rs).vm)) ∧
    ∀ ss, n = 0 ∨ (∀ answer ∈ (p.after rs).answers ss, answer.isOk) →
      ((p.after rs).refused n).answers ss = (p.after rs).answers ss ∧
      ((p.after rs).refused n).after ss = ((p.after rs).after ss).refused n := by
  obtain ⟨fresh, f, hc, hp⟩ := load_ok hload
  have hout : fresh.vm.heap.output = .empty := hc.output
  subst hp
  rw [← after_append] at hg hr ⊢
  obtain ⟨hholds, -, -⟩ := holds_after (startup options w ++ rs) hc.holds
  refine ⟨perform_rejects hholds (output_after _ hout) hg hr w₂, Vm.lookUp_of_plain hg, fun ss hss => ?_⟩
  rcases hss with rfl | hvalid
  · exact ⟨rfl, rfl⟩
  · exact (after_refused ss hholds).2 (refusals_after ss hvalid) n

end LuaPlugin

end PluginHost
