import PluginHost.Proofs.Lua.Undisturbed

/-!
# Captured functions

A captured function stays on the stack, where whoever has the raw stack can rearrange what is around it.
`capture_tampered` says what becomes of it then: if the height is what it was and the same function is on top, a call
runs it and removes its slot, as letting it go does (`Captured.Held`); in every other case neither touches anything
(`Captured.Lost`). How the stack got there does not matter. `isValid_tampered` says which rearrangements cannot hurt:
those that never uncover the slot.
-/

namespace PluginHost.Lua

/-- What tells a function from other objects tells it from everything. -/
theorem Value.bind_identity?_eq_iff {f : Value} (hf : SlotType.ofValue f = .function) {x : Option Value} :
    x.bind identity? = f.identity? ↔ x = some f := by
  cases f with
  | function | builtin =>
    cases x with
    | none => simp [identity?]
    | some v => cases v <;> simp [identity?]
  | _ => cases hf

/-! ## Rearranging a stack -/

/-- What can be done to a stack behind a captured function: a value is pushed, maybe a new object, a slot is copied, or
some are removed. -/
inductive Tampering
  | push (heap : Heap) (v : Value)
  | copy (i : Int32)
  | pop (n : Nat)

namespace Vm

variable {vm : Vm} {v : Value}

/-- What is done, done. -/
def tamper (vm : Vm) : Tampering → Vm
  | .push heap v => { vm with heap }.pushValue v
  | .copy i => vm.pushValue ((vm.slot? i).getD .nil)
  | .pop n => vm.dropSlots n

/-- One after the other. -/
def tampered (vm : Vm) (ts : List Tampering) : Vm := ts.foldl tamper vm

/-- The lowest height on the way. -/
def lowest (vm : Vm) : List Tampering → Nat
  | [] => vm.top
  | t :: ts => min vm.top ((vm.tamper t).lowest ts)

theorem take_pushValue (vm : Vm) (v : Value) {n : Nat} (hn : n ≤ vm.top) :
    (vm.pushValue v).stack.take n = vm.stack.take n := by
  apply Array.toList_inj.1
  simp [pushValue, List.take_append_of_le_length (show n ≤ vm.stack.toList.length from hn)]

/-- Slots that are below the stack before and after are left alone. -/
theorem take_tamper (t : Tampering) {n : Nat} (hn : n ≤ vm.top) (hn' : n ≤ (vm.tamper t).top) :
    (vm.tamper t).stack.take n = vm.stack.take n := by
  cases t with
  | push heap v => exact take_pushValue { vm with heap } v hn
  | copy i => exact take_pushValue vm _ hn
  | pop k =>
    have hle : n ≤ vm.stack.size - k := by
      simp only [tamper, dropSlots, top, Array.take_eq_extract, Array.size_extract] at hn'
      omega
    apply Array.toList_inj.1
    simp [tamper, dropSlots, Nat.min_eq_left hle]

theorem lowest_le (vm : Vm) (ts : List Tampering) : vm.lowest ts ≤ vm.top := by
  cases ts with
  | nil => exact Nat.le_refl _
  | cons t ts => exact Nat.min_le_left _ _

/-- Whatever is done to a stack, the slots that were never uncovered are still there. -/
theorem take_tampered (ts : List Tampering) : ∀ (vm : Vm) {n : Nat}, n ≤ vm.lowest ts →
    (vm.tampered ts).stack.take n = vm.stack.take n := by
  induction ts with
  | nil => exact fun _ _ _ => rfl
  | cons t ts ih =>
    intro vm n hn
    obtain ⟨htop, hrest⟩ := Nat.le_min.1 hn
    rw [tampered, List.foldl_cons]
    exact (ih (vm.tamper t) hrest).trans (take_tamper t htop (hrest.trans (lowest_le _ ts)))

theorem exists_push_of_topValue? (hv : vm.topValue? = some v) : ∃ below : Array Value, vm.stack = below.push v := by
  have hne : vm.stack ≠ #[] := by
    intro hempty
    rw [topValue?, hempty] at hv
    cases hv
  obtain ⟨below, x, hpush⟩ := Array.exists_push_of_ne_empty hne
  rw [topValue?, hpush, Array.back?_push] at hv
  exact ⟨below, Option.some.inj hv ▸ hpush⟩

/-! ## What a call does to the heap -/

/-- The heap after a function was called that is below its arguments. -/
def heapOf (vm : Vm) (f : Value) (args : List Value) : Heap :=
  if maxHeight < vm.top + roomToStart f ∧ !vm.hasOverflowed then vm.heap
  else ((vm.heap.callFunction f args).map (·.2)).getD vm.heap

/-- The heap after a function on top was called with arguments. -/
def heapOn (vm : Vm) (f : Value) (args : List Datum) : Heap :=
  match vm.pushAll args with
  | (.error _, _) => vm.heap
  | (.ok (), after) => after.heapOf f (after.stack.toList.drop vm.top)

theorem heap_protectedCall {below : Array Value} {f : Value} {xs : List Value} {n k : Int32}
    (hs : vm.stack = below.push f ++ xs.toArray) (hn : n.toInt = xs.length) :
    (vm.protectedCall n k).2.heap = vm.heapOf f xs := by
  rw [protectedCall_eq hs hn, heapOf]
  split
  · rfl
  · rcases vm.heap.callFunction f xs with _ | ⟨_ | _, _⟩ <;> rfl

theorem heap_resize (vm : Vm) (n : Nat) : (vm.resize n).heap = vm.heap := by
  unfold resize
  split <;> rfl

end Vm

/-! ## What becomes of a captured function -/

namespace Captured

variable {c : Captured} {vm after : Vm} {f : Value} {args : List Datum} {result : Ty}

/-- The function is still on top of some slots. Letting it go removes its slot; a call removes it as well, whatever
happens, and what happens is what the function does. -/
structure Held (c : Captured) (f : Value) (below : Array Value) (vm : Vm) (args : List Datum) (result : Ty) : Prop where
  isValid : c.isValid vm
  stack : vm.stack = below.push f
  release : c.release vm = { vm with stack := below }
  call_stack : (c.call vm args result).2.stack = below
  call_heap : (c.call vm args result).2.heap = vm.heapOn f args
  /-- Unless room is refused for reading the results. -/
  call_answer : (c.call vm args result).2.refusals = (vm.pushAll args).2.refusals → ∀ name,
    (c.call vm args result).1 = (vm.courseOn f args).answer vm.traversal name result

/-- The function is not where it was. Neither letting it go nor a call changes anything. -/
structure Lost (c : Captured) (vm : Vm) (args : List Datum) (result : Ty) : Prop where
  isValid : ¬c.isValid vm
  release : c.release vm = vm
  call : c.call vm args result = (.error (.unknown "invalid stack content"), vm)

section

variable (hf : vm.topValue? = some f) (hc : fromTop? vm = some c)

include hf hc

theorem eq_of_fromTop? : SlotType.ofValue f = .function ∧ c = { identity := f.identity?, depth := vm.top } := by
  obtain ⟨g, hg, hfunction, rfl⟩ := fromTop?_eq_some_iff.1 hc
  obtain rfl : f = g := Option.some.inj (hf.symm.trans hg)
  exact ⟨hfunction, rfl⟩

/-- The identity alone decides: what has that of a function is that function. -/
theorem identityAt?_iff : after.identityAt? (-1) = c.identity ↔ after.topValue? = some f := by
  obtain ⟨hfunction, rfl⟩ := eq_of_fromTop? hf hc
  rw [after.identityAt?_neg_one]
  exact Value.bind_identity?_eq_iff hfunction

/-- A capture is valid iff the height is what it was and the same function is on top. -/
theorem isValid_iff : c.isValid after ↔ after.top = vm.top ∧ after.topValue? = some f := by
  have hid : after.identityAt? (-1) = c.identity ↔ after.topValue? = some f := identityAt?_iff hf hc
  obtain ⟨hfunction, rfl⟩ := eq_of_fromTop? hf hc
  have htype : after.topValue? = some f → after.topType = .function := by
    intro h
    rw [after.topType_eq, h]
    exact hfunction
  simp only [isValid, Bool.not_false, Bool.true_and, Bool.and_eq_true, decide_eq_true_eq, hid]
  exact ⟨fun h => ⟨h.1.1, h.2⟩, fun h => ⟨⟨h.1, htype h.2⟩, h.2⟩⟩

/-- Unless its slot was uncovered on the way, a function is back on top as soon as the height is what it was. -/
theorem isValid_tampered {ts : List Tampering} (hl : vm.top ≤ vm.lowest ts) :
    c.isValid (vm.tampered ts) ↔ (vm.tampered ts).top = vm.top := by
  rw [isValid_iff hf hc, and_iff_left_iff_imp]
  intro htop
  have htake := Vm.take_tampered ts vm hl
  have hafter : (vm.tampered ts).stack.take vm.top = (vm.tampered ts).stack := by
    rw [← htop]
    simp [Vm.top]
  have hstack : (vm.tampered ts).stack = vm.stack := by
    rw [← hafter, htake]
    simp [Vm.top]
  rw [Vm.topValue?, hstack]
  exact hf

/-- Letting a function go asks less than a call does, but that comes to the same. -/
theorem release_eq : c.release after = if c.isValid after then after.discard 1 else after := by
  have hid : after.identityAt? (-1) = c.identity ↔ after.topValue? = some f := identityAt?_iff hf hc
  have hvalid : c.isValid after ↔ after.top = vm.top ∧ after.topValue? = some f := isValid_iff hf hc
  obtain ⟨-, rfl⟩ := eq_of_fromTop? hf hc
  rw [release]
  congr 1
  simp only [Bool.not_false, Bool.true_and, Bool.and_eq_true, decide_eq_true_eq, hid, hvalid]

/-- A capture that is not valid does nothing. -/
theorem lost_of_not_isValid (h : ¬c.isValid after) (args : List Datum) (result : Ty) : c.Lost after args result := by
  have hrelease : c.release after = after := by rw [release_eq hf hc, if_neg h]
  exact ⟨h, hrelease, by rw [call, if_neg h, hrelease]⟩

end

theorem heap_run {below : Array Value} {base : Nat} (hs : vm.stack = below.push f) (ha : args.length ≤ 8) :
    (run base vm args result).2.heap = vm.heapOn f args := by
  rw [run, Vm.heapOn]
  rcases hp : vm.pushAll args with ⟨e | ⟨⟩, vm₁⟩
  · rw [Vm.pushAll_error hp]
    exact Vm.heap_resize _ base
  · obtain ⟨xs, hs₁, hargs, hcount, -⟩ := Vm.pushAll_above hs ha hp
    have hheap := Vm.heap_protectedCall (k := Int32.ofNat (Vm.resultCount result)) hs₁ hcount
    dsimp only
    rw [hargs, ← hheap]
    rcases vm₁.protectedCall (Int32.ofNat args.length) (Int32.ofNat (Vm.resultCount result)) with ⟨e | ⟨⟩, vm₂⟩
    · exact Vm.heap_resize vm₂ base
    · have hread := (Vm.readResults_undisturbed result vm₂).heap
      dsimp only
      rcases hr : vm₂.readResults result with ⟨_ | d, vm₃⟩ <;> rw [hr] at hread <;>
        exact (Vm.heap_resize vm₃ base).trans hread

theorem refusals_le_pushAll (vm : Vm) (ds : List Datum) : vm.refusals ≤ (vm.pushAll ds).2.refusals := by
  rcases hp : vm.pushAll ds with ⟨e | ⟨⟩, vm₁⟩
  · rw [Vm.pushAll_error hp]
    exact Nat.le_add_right _ _
  · exact (Vm.pushAll_ok hp).1.ge

/-- A capture that is valid is called, and gives up its slot in any case. -/
theorem held_of_isValid (hf : vm.topValue? = some f) (hc : fromTop? vm = some c) (h : c.isValid after)
    (ha : args.length ≤ 8) (hn : Vm.resultCount result ≤ 8) : ∃ below, c.Held f below after args result := by
  obtain ⟨htop, hv⟩ := (isValid_iff hf hc).1 h
  obtain ⟨below, hs⟩ := Vm.exists_push_of_topValue? hv
  have hafter : { after with stack := below }.pushValue f = after := by rw [Vm.pushValue, ← hs]
  -- capturing again would give the same
  have hc' : fromTop? ({ after with stack := below }.pushValue f) = some c := by
    obtain ⟨hfunction, rfl⟩ := eq_of_fromTop? hf hc
    rw [hafter]
    exact fromTop?_eq_some_iff.2 ⟨f, hv, hfunction, by rw [htop]⟩
  have hcall := Vm.call_captured hc' ha hn
  rw [hafter] at hcall
  refine ⟨below, h, hs, ?_, (hcall "").1, ?_, fun hr name => (hcall name).2 ?_⟩
  · rw [release_eq hf hc, if_pos h, Vm.discard_one, hs, Array.pop_push]
  · rw [call_of_isValid h]
    exact heap_run hs ha
  · have hle := refusals_le_pushAll after args
    show _ = after.refusals + ((after.pushAll args).2.refusals - after.refusals)
    omega

/-- A captured function notices every rearrangement of the stack: after any of them it is still there iff the height is
what it was and the same function is on top, however often it was removed and put back. -/
theorem capture_tampered (hf : vm.topValue? = some f) (hfunction : SlotType.ofValue f = .function) :
    ∃ c, fromTop? vm = some c ∧ ∀ (ts : List Tampering) (args : List Datum) (result : Ty), args.length ≤ 8 →
      Vm.resultCount result ≤ 8 →
      ((vm.tampered ts).top = vm.top ∧ (vm.tampered ts).topValue? = some f ∧
        ∃ below, c.Held f below (vm.tampered ts) args result) ∨
      (¬((vm.tampered ts).top = vm.top ∧ (vm.tampered ts).topValue? = some f) ∧
        c.Lost (vm.tampered ts) args result) := by
  have hc := fromTop?_eq_some_iff.2 ⟨f, hf, hfunction, rfl⟩
  refine ⟨_, hc, fun ts args result ha hn => ?_⟩
  by_cases h : (vm.tampered ts).top = vm.top ∧ (vm.tampered ts).topValue? = some f
  · exact .inl ⟨h.1, h.2, held_of_isValid hf hc ((isValid_iff hf hc).2 h) ha hn⟩
  · exact .inr ⟨h, lost_of_not_isValid hf hc (fun hv => h ((isValid_iff hf hc).1 hv)) args result⟩

/-- A stack with a function on top that gives its arguments after some of them. -/
def sample : Vm := { stack := #[.boolean true, .builtin .select] }

/-- With a copy on top a captured function is lost; with the copy removed it is called. -/
theorem capture_sample : ∃ c, fromTop? sample = some c ∧
    c.call (sample.tampered [.copy 2]) [.int 1, .bool true] .bool =
      (.error (.unknown "invalid stack content"), sample.tampered [.copy 2]) ∧
    (c.call (sample.tampered [.copy 2, .pop 1]) [.int 1, .bool true] .bool).1 = .ok (.bool true) ∧
    (c.call (sample.tampered [.copy 2, .pop 1]) [.int 1, .bool true] .bool).2.stack = #[.boolean true] := by
  have htop : sample.topValue? = some (.builtin .select) := rfl
  obtain ⟨c, hc, h⟩ := capture_tampered htop rfl
  refine ⟨c, hc, ?_⟩
  obtain ⟨hheight, -⟩ | ⟨-, hlost⟩ := h [.copy 2] [.int 1, .bool true] .bool (by decide) (by decide)
  · cases hheight
  obtain ⟨-, -, below, hheld⟩ | ⟨hmoved, -⟩ := h [.copy 2, .pop 1] [.int 1, .bool true] .bool (by decide) (by decide)
  · have hbelow : below = #[.boolean true] := (Array.push_inj_left.1 hheld.stack).symm
    have hrefusals : (c.call (sample.tampered [.copy 2, .pop 1]) [.int 1, .bool true] .bool).2.refusals =
        ((sample.tampered [.copy 2, .pop 1]).pushAll [.int 1, .bool true]).2.refusals := by
      rw [call_of_isValid hheld.isValid, (eq_of_fromTop? htop hc).2]
      cbv
    refine ⟨hlost.call, (hheld.call_answer hrefusals "select").trans ?_, hheld.call_stack.trans hbelow⟩
    cbv
  · exact absurd ⟨rfl, rfl⟩ hmoved

end Captured

end PluginHost.Lua
