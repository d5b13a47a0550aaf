import PluginHost.Proofs.Lua.Refusals
import PluginHost.Proofs.Lua.Undisturbed

/-!
# Reading again

Reading leaves all slots as they are, but it asks for room on the way, and the interpreter changes its limit when it
refuses room for the first time. `reading_repeats` says that what is read again reads as before, unless the first reading
was the one that was refused room for the first time: it gave nothing, and reading again goes by the larger limit
(`read_raised`).
-/

namespace PluginHost.Lua

namespace Vm

variable {before after vm : Vm} {n : Nat}

/-- Between two states of an interpreter it refused room, and never before. -/
def FirstRefused (before after : Vm) : Prop := ¬before.hasOverflowed ∧ after.hasOverflowed

/-- How a way to read goes right after another: as that went, unless room was refused there for the first time. In that
case the first gave nothing, and the second gives what the first would have given with the larger limit. -/
structure Repeats (first second : Vm → Option Datum × Vm) (vm : Vm) : Prop where
  same : ¬FirstRefused vm (first vm).2 → (second (first vm).2).1 = (first vm).1
  refused : FirstRefused vm (first vm).2 → (first vm).1 = none ∧ (second (first vm).2).1 = (first (vm.refuse 1)).1

theorem firstRefused_refuse_iff : FirstRefused vm (vm.refuse n) ↔ ¬vm.hasOverflowed ∧ 0 < n := by
  rw [FirstRefused, hasOverflowed_iff, hasOverflowed_iff]
  simp only [refuse]
  omega

/-- A second refusal changes nothing any more. -/
theorem Steady.fst_refuse {α : Type} {m : Vm → α × Vm} (hm : Steady m (vm.refuse 1)) (hn : 0 < n) :
    (m (vm.refuse n)).1 = (m (vm.refuse 1)).1 := by
  have hover : (vm.refuse 1).hasOverflowed := hasOverflowed_iff.2 (Nat.succ_pos _)
  have hsplit : vm.refuse n = (vm.refuse 1).refuse (n - 1) := by rw [refuse_refuse, Nat.add_sub_cancel' hn]
  rw [hsplit, hm.refused (.inr hover)]

/-- A reader that goes the same way after refusals, and leaves nothing but refusals, reads the same again. -/
theorem repeats_of_steady {m : Vm → Option Datum × Vm} (hsteady : ∀ vm, Steady m vm)
    (hgivesUp : (m vm).2.refusals = vm.refusals ∨ (m vm).1 = none) (hrefuse : ∃ n, (m vm).2 = vm.refuse n) :
    Repeats m m vm := by
  obtain ⟨n, hn⟩ := hrefuse
  refine ⟨fun h => ?_, fun h => ?_⟩
  · rw [hn, firstRefused_refuse_iff] at h
    have hrefused : (m vm).2.refusals = vm.refusals ∨ vm.hasOverflowed := by
      rw [hn]
      by_cases hover : vm.hasOverflowed
      · exact .inr hover
      · have hzero : n = 0 := Nat.eq_zero_of_not_pos fun hpos => h ⟨hover, hpos⟩
        rw [hzero]
        exact .inl rfl
    rw [hn, (hsteady vm).refused hrefused]
  · rw [hn, firstRefused_refuse_iff] at h
    have hmore : (m vm).2.refusals ≠ vm.refusals := by
      rw [hn]
      simp only [refuse]
      omega
    exact ⟨hgivesUp.resolve_left hmore, by rw [hn, (hsteady _).fst_refuse h.2]⟩

/-- Popping gives what reading gives. -/
theorem fst_pop (vm : Vm) (t : Ty) : (vm.pop t).1 = (vm.read t).1 := by
  unfold pop
  rcases vm.read t with ⟨_ | d, vm₁⟩ <;> rfl

theorem read_repeats (vm : Vm) (t : Ty) : Repeats (read · t) (read · t) vm :=
  repeats_of_steady (readTop_steady t) (readTop_givesUp t vm) (readTop_refuses t vm)

/-- What is read a second time, whether it is popped or not, reads as it did, and so do results. The exception is a reading
that is refused room for the first time in the life of the interpreter: it gives nothing, and what comes after it reads
with the larger limit. -/
theorem reading_repeats (vm : Vm) (t : Ty) : Repeats (read · t) (read · t) vm ∧ Repeats (read · t) (pop · t) vm ∧
    Repeats (readResults · t) (readResults · t) vm := by
  have hread := read_repeats vm t
  refine ⟨hread, ⟨fun h => ?_, fun h => ?_⟩, ?_⟩
  · rw [fst_pop]
    exact hread.same h
  · rw [fst_pop]
    exact hread.refused h
  · exact repeats_of_steady (readResults_steady t) (readResults_givesUp t vm) (readResults_refuses t vm)

/-! ## At the limit -/

/-- An empty table reads as a list if there is room to walk it. -/
theorem read_emptyTable {id : Nat} {vm' : Vm} {granted : Bool} (hx : vm.topValue? = some (.table id))
    (hempty : vm.traversal.entries vm.heap id = []) (hr : vm.reserve 2 = (granted, vm')) (t : Ty) :
    vm.read (.vec t) = (if granted then some (.list []) else none, vm') := by
  have hrun : vm.read (.vec t) =
      (((readEntries (readScalar (.int .i64)) (readTop t)).run vm).1.bind itemsOf?,
        ((readEntries (readScalar (.int .i64)) (readTop t)).run vm).2) := rfl
  have hsame : vm'.traversal = vm.traversal ∧ vm'.heap = vm.heap := by
    rcases reserve_cases vm 2 with h | h <;> cases hr.symm.trans h <;> exact ⟨rfl, rfl⟩
  rw [hrun, run_readEntries_table hx hr]
  cases granted with
  | false => rfl
  | true =>
    rw [if_pos rfl, hsame.1, hsame.2, hempty]
    rfl

/-- On a stack that is as high as it may be an empty table does not read as a list at first, and then it does. -/
theorem read_emptyTable_of_full {id : Nat} (hx : vm.topValue? = some (.table id))
    (hempty : vm.traversal.entries vm.heap id = []) (htop : vm.top = maxHeight) (hnever : vm.refusals = 0) (t : Ty) :
    vm.read (.vec t) = (none, vm.refuse 1) ∧ (vm.refuse 1).read (.vec t) = (some (.list []), vm.refuse 1) := by
  have htwo : (2 : Int32).toInt = 2 := by decide
  have hnot : ¬vm.hasOverflowed := by
    rw [hasOverflowed_iff, hnever]
    exact Nat.lt_irrefl 0
  have hover : (vm.refuse 1).hasOverflowed := hasOverflowed_iff.2 (Nat.succ_pos _)
  have hheight : (vm.refuse 1).top = maxHeight := htop
  have hfirst : vm.reserve 2 = (false, vm.refuse 1) := by
    unfold reserve
    rw [htop, htwo, if_neg hnot]
    exact if_neg (by omega)
  have hsecond : (vm.refuse 1).reserve 2 = (true, vm.refuse 1) := by
    unfold reserve
    rw [hheight, htwo, if_pos hover, maxHeight, maxHeightAfterRefusal]
    exact if_pos (by omega)
  have hsame : (vm.refuse 1).topValue? = some (.table id) := hx
  exact ⟨read_emptyTable hx hempty hfirst t, read_emptyTable hsame hempty hsecond t⟩

theorem push_emptyList (hr : vm.reserve (Int32.ofNat 1) = (true, vm)) : (vm.push (.list [])).2 =
    { vm with heap := (vm.heap.addTable (.withRoom 0 0)).2 }.pushValue (.table vm.heap.tables.size) := by
  rw [push_eq, on_bind_ok (on_reserve hr)]
  rfl

theorem exists_resize (vm : Vm) (n : Nat) : ∃ s : Array Value, s.size = n ∧ vm.resize n = { vm with stack := s } := by
  unfold resize
  split
  · next hle => exact ⟨_, by simpa using hle, rfl⟩
  · refine ⟨_, ?_, rfl⟩
    rw [Array.size_append, Array.size_replicate]
    omega

/-- A new stack that was raised to a height, and an empty table pushed onto it. -/
def raised (i : Int32) : Vm := ((({} : Vm).setTop i).push (.list [])).2

theorem exists_raised {i : Int32} (hi : 0 ≤ i.toInt) (hlt : i.toInt < maxHeight) : ∃ low : Array Value,
    low.size = i.toInt.toNat ∧ raised i = ({ heap := (Heap.empty.addTable (.withRoom 0 0)).2, stack := low } : Vm).pushValue
      (.table Heap.empty.tables.size) := by
  have hone : (Int32.ofNat 1).toInt = 1 := by decide
  obtain ⟨low, hlow, hresize⟩ := exists_resize {} i.toInt.toNat
  have hstart : ({} : Vm).setTop i = { stack := low } := by
    rw [setTop, if_pos hi]
    exact hresize
  have hnever : ¬({ stack := low } : Vm).hasOverflowed := fun h => Nat.lt_irrefl 0 (hasOverflowed_iff.1 h)
  have hroom : ({ stack := low } : Vm).reserve (Int32.ofNat 1) = (true, { stack := low }) := by
    unfold reserve
    rw [top, hlow, hone, if_neg hnever]
    exact if_pos (by omega)
  refine ⟨low, hlow, ?_⟩
  rw [raised, hstart]
  exact push_emptyList hroom

/-- A list on a full stack is not read at first, for there is no room to walk the table; then there is. -/
theorem read_raised : ((raised 999998).read (.vec (.int .i64))).1 = none ∧
    (((raised 999998).read (.vec (.int .i64))).2.read (.vec (.int .i64))).1 = some (.list []) ∧
    (((raised 999998).read (.vec (.int .i64))).2.pop (.vec (.int .i64))).1 = some (.list []) := by
  have hheight : (999998 : Int32).toInt = 999998 := by decide
  obtain ⟨low, hlow, hraised⟩ := exists_raised (i := 999998) (by omega) (by rw [hheight, maxHeight]; omega)
  rw [hraised]
  have hsize : low.size + 1 = maxHeight := by
    rw [hlow, hheight, maxHeight]
    omega
  obtain ⟨hnothing, hlist⟩ := read_emptyTable_of_full (topValue?_pushValue
    { heap := (Heap.empty.addTable (.withRoom 0 0)).2, stack := low } (.table Heap.empty.tables.size) 0) rfl
    (by rw [refuse_zero, top, pushValue, Array.size_push]; exact hsize) rfl (.int .i64)
  rw [refuse_zero] at hnothing hlist
  rw [hnothing, fst_pop, hlist]
  exact ⟨rfl, rfl, rfl⟩

end Vm

end PluginHost.Lua
