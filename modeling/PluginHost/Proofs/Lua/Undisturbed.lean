import PluginHost.Proofs.Lua.Call

/-!
# Reading disturbs nothing

A reader gives back every slot and every table as it found them, whatever it reads and however it fails
(`readTop_undisturbed`, `readResults_undisturbed`). What removes the topmost slot on purpose removes nothing else
(`reading_undisturbed`).
-/

namespace PluginHost.Lua

namespace Vm

variable {before after vm : Vm} {n : Nat}

/-- An interpreter is as it was, apart from requests for room that were refused: its slots, all that they refer to, and
the order in which tables are walked. No slot was read or removed that was not there. -/
structure Undisturbed (before after : Vm) : Prop where
  stack : after.stack = before.stack
  heap : after.heap = before.heap
  traversal : after.traversal = before.traversal
  missing : after.missing = before.missing
  strays : after.strays = before.strays
  refusals : before.refusals ≤ after.refusals

/-- An interpreter has lost its topmost slot and is as it was otherwise. -/
structure Popped (before after : Vm) : Prop where
  nonempty : 0 < before.top
  rest : Undisturbed { before with stack := before.stack.pop } after

theorem undisturbed_refuse (vm : Vm) (n : Nat) : Undisturbed vm (vm.refuse n) :=
  ⟨rfl, rfl, rfl, rfl, rfl, Nat.le_add_right _ _⟩

theorem Popped.not_undisturbed (h : Popped before after) : ¬Undisturbed before after := by
  intro hsame
  have hpop : before.stack.pop = before.stack := h.rest.stack.symm.trans hsame.stack
  have hsize : before.stack.size - 1 = before.stack.size := Array.size_pop.symm.trans (congrArg Array.size hpop)
  have hpos : 0 < before.stack.size := h.nonempty
  omega

/-! ## The topmost slot -/

theorem topValue?_eq_none_iff : vm.topValue? = none ↔ vm.top = 0 := by
  rw [topValue?, top, Array.back?_eq_none_iff, Array.size_eq_zero_iff]

theorem discard_one (vm : Vm) : vm.discard 1 = { vm with stack := vm.stack.pop } := by
  by_cases hempty : vm.stack = #[]
  · have hmin : min (1 : Int32).toInt vm.top = 0 := by
      rw [top, hempty]
      decide
    have hpop : vm.stack.pop = vm.stack := by rw [hempty, Array.pop_empty]
    rw [discard, hmin, hpop]
    rfl
  · obtain ⟨below, v, hpush⟩ := Array.exists_push_of_ne_empty hempty
    have hvm : vm = { vm with stack := below }.pushValue v := by rw [pushValue, ← hpush]
    have hdiscard : ({ vm with stack := below }.pushValue v).discard 1 = { vm with stack := below } :=
      discard_pushValue { vm with stack := below } v 0
    rw [← hvm] at hdiscard
    rw [hdiscard, hpush, Array.pop_push]

theorem readScalar_of_empty (hx : vm.topValue? = none) (t : Ty) : (readScalar t).run vm = (none, vm) := by
  show (vm.topValue?.bind (scalar? t), vm) = (none, vm)
  rw [hx]
  rfl

/-- Without a slot there is nothing to read. -/
theorem readTop_of_empty (hx : vm.topValue? = none) : ∀ t : Ty, (readTop t).run vm = (none, vm)
  | .int t => readScalar_of_empty hx (.int t)
  | .f32 => readScalar_of_empty hx .f32
  | .f64 => readScalar_of_empty hx .f64
  | .bool => readScalar_of_empty hx .bool
  | .str => readScalar_of_empty hx .str
  | .nil => readScalar_of_empty hx .nil
  | .unit | .tuple _ => rfl
  | .vec t =>
    congrArg (fun r : Option (List (Datum × Datum)) × Vm => (r.1.bind itemsOf?, r.2))
      (run_readEntries_other (by simp [hx]))
  | .map k v =>
    congrArg (fun r : Option (List (Datum × Datum)) × Vm => (r.1.map Datum.mapOfEntries, r.2))
      (run_readEntries_other (by simp [hx]))
  | .opt t => by
    rw [run_readTop_opt (by simp [hx])]
    exact congrArg (fun r : Option Datum × Vm => (r.1.map Datum.some, r.2)) (readTop_of_empty hx t)

theorem readTop_refuses (t : Ty) (vm : Vm) : ∃ n, ((readTop t).run vm).2 = vm.refuse n := by
  cases hx : vm.topValue? with
  | none => exact ⟨0, congrArg Prod.snd (readTop_of_empty hx t)⟩
  | some x =>
    obtain ⟨n, hs, -⟩ := readTop_reads vm.heap vm.traversal t vm x rfl rfl hx
    exact ⟨n, hs⟩

/-- Reading the topmost slot disturbs nothing. -/
theorem readTop_undisturbed (t : Ty) (vm : Vm) : Undisturbed vm ((readTop t).run vm).2 := by
  obtain ⟨n, hs⟩ := readTop_refuses t vm
  rw [hs]
  exact undisturbed_refuse vm n

theorem readResults_refuses (t : Ty) (vm : Vm) : ∃ n, (vm.readResults t).2 = vm.refuse n := by
  cases t with
  | unit => exact ⟨0, rfl⟩
  | tuple ts =>
    by_cases hlt : vm.top < ts.length
    · rw [readResults, if_pos hlt]
      exact ⟨0, rfl⟩
    · have hs : vm.stack = vm.stack.take (vm.top - ts.length) ++ (vm.stack.toList.drop (vm.top - ts.length)).toArray := by
        apply Array.toList_inj.1
        simp [List.take_append_drop]
      have hl : (vm.stack.toList.drop (vm.top - ts.length)).length = resultCount (.tuple ts) := by
        rw [List.length_drop, Array.length_toList, resultCount]
        exact Nat.sub_sub_self (Nat.le_of_not_lt hlt)
      obtain ⟨n, hn, -⟩ := readResults_reads hs hl
      exact ⟨n, hn⟩
  | _ => exact readTop_refuses _ vm

/-- Reading the topmost slots as results disturbs nothing. -/
theorem readResults_undisturbed (t : Ty) (vm : Vm) : Undisturbed vm (vm.readResults t).2 := by
  obtain ⟨n, hs⟩ := readResults_refuses t vm
  rw [hs]
  exact undisturbed_refuse vm n

/-! ## Popping -/

theorem popped_discard {vm₁ : Vm} (hpos : 0 < vm.top) (h : Undisturbed vm vm₁) : Popped vm (vm₁.discard 1) := by
  refine ⟨hpos, ?_⟩
  rw [discard_one]
  exact ⟨congrArg Array.pop h.stack, h.heap, h.traversal, h.missing, h.strays, h.refusals⟩

theorem pop_popped {t : Ty} (h : (vm.pop t).1.isSome) : Popped vm (vm.pop t).2 := by
  rcases hr : vm.read t with ⟨_ | d, vm₁⟩
  · rw [pop, hr] at h
    cases h
  · have hpos : 0 < vm.top := by
      refine Nat.pos_of_ne_zero fun hz => ?_
      have hnone : vm.read t = (none, vm) := readTop_of_empty (topValue?_eq_none_iff.2 hz) t
      rw [hnone] at hr
      cases hr
    have hsame : Undisturbed vm vm₁ := by
      have := readTop_undisturbed t vm
      rwa [show (readTop t).run vm = (some d, vm₁) from hr] at this
    rw [pop, hr]
    exact popped_discard hpos hsame

theorem pop_undisturbed {t : Ty} (h : (vm.pop t).1 = none) : Undisturbed vm (vm.pop t).2 := by
  rcases hr : vm.read t with ⟨_ | d, vm₁⟩
  · have := readTop_undisturbed t vm
    rw [pop, hr]
    rwa [show (readTop t).run vm = (none, vm₁) from hr] at this
  · rw [pop, hr] at h
    cases h

theorem popAlways_popped (t : Ty) (hpos : 0 < vm.top) : Popped vm (vm.popAlways t).2 :=
  popped_discard hpos (readTop_undisturbed t vm)

theorem popAlways_undisturbed (t : Ty) (hempty : vm.top = 0) : Undisturbed vm (vm.popAlways t).2 := by
  have hread : vm.read t = (none, vm) := readTop_of_empty (topValue?_eq_none_iff.2 hempty) t
  have hdiscard : vm.discard 1 = vm := by
    rw [discard_one, Array.size_eq_zero_iff.1 hempty, Array.pop_empty, ← Array.size_eq_zero_iff.1 hempty]
  have hpop : vm.popAlways t = (none, vm) := by
    rw [popAlways, hread]
    exact congrArg (Prod.mk none) hdiscard
  rw [hpop]
  exact undisturbed_refuse vm 0

/-- Whatever is read leaves all as it was, whether it succeeds or fails. Popping removes the topmost slot and nothing
else iff it gives something; popping in any case, iff there is a slot. -/
theorem reading_undisturbed (vm : Vm) (t : Ty) :
    Undisturbed vm (vm.read t).2 ∧ Undisturbed vm (vm.readResults t).2 ∧
    (Popped vm (vm.pop t).2 ↔ (vm.pop t).1.isSome) ∧ (Undisturbed vm (vm.pop t).2 ↔ (vm.pop t).1 = none) ∧
    (Popped vm (vm.popAlways t).2 ↔ 0 < vm.top) ∧ (Undisturbed vm (vm.popAlways t).2 ↔ vm.top = 0) := by
  refine ⟨readTop_undisturbed t vm, readResults_undisturbed t vm, ⟨fun h => ?_, pop_popped⟩,
    ⟨fun h => ?_, pop_undisturbed⟩, ⟨Popped.nonempty, popAlways_popped t⟩, ⟨fun h => ?_, popAlways_undisturbed t⟩⟩
  · by_contra hnone
    exact h.not_undisturbed (pop_undisturbed (by simpa using hnone))
  · by_contra hsome
    exact (pop_popped (Option.isSome_iff_ne_none.2 hsome)).not_undisturbed h
  · by_contra hpos
    exact (popAlways_popped t (Nat.pos_of_ne_zero hpos)).not_undisturbed h

end Vm

end PluginHost.Lua
