import PluginHost.Script.LuaStack

/-!
# Which slots indices name

An index counts slots from the bottom or from the top. `index_arithmetic` says which indices count as valid, of which a
type is told, and how many slots a count removes, over the whole range of 32-bit numbers. At one index it goes wrong: the
least number is its own negation, so that it passes for valid on every stack (`isValidIndex_minValue`), although it names
no slot.
-/

namespace PluginHost.Lua

namespace Vm

variable {vm : Vm} {i : Int32}

/-- The index of the registry. From there downwards indices name what the interpreter keeps apart from the stack. -/
def registryIndex : Int := -1001000

/-- Whether an index names a slot: from the bottom, the lowest being 1, or from the top, the topmost being -1. -/
def Names (vm : Vm) (i : Int32) : Prop := 1 ≤ i.toInt ∧ i.toInt ≤ vm.top ∨ -vm.top ≤ i.toInt ∧ i.toInt ≤ -1

/-! ## Negation -/

theorem toInt_neg_minValue : (-Int32.minValue).toInt = Int32.minValue.toInt := by decide

/-- Negation is exact for all numbers but the least. -/
theorem toInt_neg_eq_iff : (-i).toInt = -i.toInt ↔ i ≠ Int32.minValue := by
  have hmin : Int32.minValue.toInt = -2 ^ 31 := Int32.toInt_minValue
  constructor
  · rintro h rfl
    rw [toInt_neg_minValue, hmin] at h
    omega
  · intro hne
    have hlt : -2 ^ 31 < i.toInt := by
      have hle := i.le_toInt
      have hne : i.toInt ≠ -2 ^ 31 := fun h => hne (Int32.toInt_inj.1 (h.trans hmin.symm))
      omega
    rw [Int32.toInt_neg, Int.bmod_eq_of_le] <;> have := i.toInt_lt <;> omega

/-! ## Slots -/

/-- The least number passes for valid, however many slots there are. -/
theorem isValidIndex_minValue (vm : Vm) : vm.isValidIndex Int32.minValue := by
  have hneg : Int32.minValue < 0 := by decide
  rw [isValidIndex, if_pos hneg, toInt_neg_minValue, Int32.toInt_minValue, decide_eq_true_iff]
  omega

theorem isValidIndex_iff (hi : i ≠ Int32.minValue) : vm.isValidIndex i ↔ vm.Names i := by
  have hzero : (0 : Int32).toInt = 0 := by decide
  unfold isValidIndex Names
  split
  · next hlt =>
    rw [Int32.lt_iff_toInt_lt, hzero] at hlt
    rw [decide_eq_true_iff, toInt_neg_eq_iff.2 hi]
    omega
  · next hle =>
    rw [Int32.lt_iff_toInt_lt, hzero] at hle
    rw [Bool.and_eq_true, decide_eq_true_iff, decide_eq_true_iff]
    omega

/-- What an index names is there. -/
theorem isSome_slot?_iff : (vm.slot? i).isSome ↔ vm.Names i := by
  have hthere : ∀ n : Nat, vm.stack[n]?.isSome ↔ n < vm.top := fun n => by simp [top]
  unfold slot? Names
  split
  · split
    · rw [hthere]
      omega
    · exact iff_of_false Bool.false_ne_true (by omega)
  · split
    · rw [hthere]
      omega
    · exact iff_of_false Bool.false_ne_true (by omega)

theorem ofValue_ne_none (v : Value) : SlotType.ofValue v ≠ .none := by
  cases v <;> nofun

/-- A type is told of the slots there are, and of nothing else. -/
theorem typeAt_eq_none_iff : vm.typeAt i = .none ↔ ¬vm.Names i := by
  have hslot : ((vm.slot? i).map SlotType.ofValue).getD .none = .none ↔ ¬vm.Names i := by
    rw [← isSome_slot?_iff]
    cases vm.slot? i with
    | none => simp
    | some v => simp [ofValue_ne_none v]
  unfold typeAt
  split
  · exact hslot
  · next hnot =>
    refine iff_of_true rfl fun hnames => hnot ?_
    by_cases hi : i = Int32.minValue
    · rw [hi]
      exact isValidIndex_minValue vm
    · exact (isValidIndex_iff hi).2 hnames

/-! ## Discarding -/

/-- The slots that a count removes are the topmost ones, as many as it says if there are as many. -/
theorem discard_eq (vm : Vm) (count : Int32) :
    vm.discard count = { vm with stack := vm.stack.take (vm.top - (max 0 (min count.toInt vm.top)).toNat) } := by
  unfold discard
  dsimp only
  split
  · next hpos =>
    have hmissing : (min count.toInt vm.top).toNat - vm.stack.size = 0 := by
      show (min count.toInt vm.top).toNat - vm.top = 0
      omega
    rw [dropSlots, hmissing, Int.max_eq_right (Int.le_of_lt hpos)]
    rfl
  · next hneg =>
    have hall : vm.stack.take vm.stack.size = vm.stack := by simp
    rw [Int.max_eq_left (Int.not_lt.1 hneg), Int.toNat_zero, Nat.sub_zero, top, hall]

end Vm

end PluginHost.Lua
