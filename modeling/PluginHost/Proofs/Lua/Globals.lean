import PluginHost.Proofs.Lua.Call
import PluginHost.Proofs.Lua.RoundTrip

/-!
# Globals

What reading and writing a global do to the stack, and what is read back: in a table of globals without a metatable a
value that was stored under a name is there afterwards (`LuaPlugin.global_of_setGlobal`), and nothing else has changed.
A name with a NUL is no global's, and storing under it is lost without a complaint.
-/

namespace PluginHost

namespace Lua

/-! ## Metatables stay -/

namespace Layout

variable {t : Layout}

theorem metatable_place (t : Layout) (k : Key) (v : Value) : (t.place k v).metatable = t.metatable := by
  unfold place
  split
  · split <;> rfl
  · rfl

theorem metatable_rehash (t : Layout) (k : Key) : (t.rehash k).metatable = t.metatable := by
  have hfold : ∀ (es : List (Key × Value)) (u : Layout),
      (es.foldl (fun u e => u.place e.1 e.2) u).metatable = u.metatable := by
    intro es
    induction es with
    | nil => exact fun _ => rfl
    | cons e es ih => exact fun u => (ih _).trans (metatable_place u e.1 e.2)
  exact hfold _ _

/-- A name that is stored leaves the metatable alone. -/
theorem metatable_set_ofString (t : Layout) (name : String) (v : Value) :
    (t.set (.ofString name) v).metatable = t.metatable := by
  show (set.setEntry t (.ofString name) v).metatable = t.metatable
  unfold set.setEntry
  split
  · rfl
  · split
    · rfl
    · split
      · exact metatable_place _ _ _
      · exact (metatable_place _ _ _).trans (metatable_rehash _ _)

end Layout

/-! ## Globals in the heap -/

/-- Whether the table of globals is there and has no metatable. -/
structure Heap.HasPlainGlobals (h : Heap) : Prop where
  exists_table : h.globals < h.tables.size
  metatable : (h.table h.globals).metatable = none

/-- The value of a global, without metatables. -/
def Heap.globalValue (h : Heap) (name : String) : Value := (h.table h.globals).get (.ofString name)

/-- A heap in which a global has a value. -/
def Heap.setGlobalValue (h : Heap) (name : String) (v : Value) : Heap :=
  h.modifyTable h.globals (·.set (.ofString name) v)

namespace Heap

variable {h h' : Heap}

theorem ofString_injective {name name' : String} (hk : Key.ofString name = .ofString name') : name = name' :=
  String.toByteArray_inj.1 (Key.text.inj hk)

theorem globalValue_setGlobalValue (hg : h.HasPlainGlobals) (name : String) (v : Value) (other : String) :
    (h.setGlobalValue name v).globalValue other = if other = name then v else h.globalValue other := by
  show (((h.modifyTable h.globals (·.set (.ofString name) v)).table h.globals).get (.ofString other)) = _
  rw [table_modifyTable_self hg.exists_table, Table.get_set]
  by_cases heq : other = name
  · rw [if_pos heq, if_pos (congrArg Key.ofString heq)]
  · rw [if_neg heq, if_neg fun hk => heq (ofString_injective hk)]
    rfl

theorem HasPlainGlobals.setGlobalValue (hg : h.HasPlainGlobals) (name : String) (v : Value) :
    (h.setGlobalValue name v).HasPlainGlobals := by
  refine ⟨?_, ?_⟩
  · exact (size_modifyTable h _ _).symm ▸ hg.exists_table
  · show ((h.modifyTable h.globals (·.set (.ofString name) v)).table h.globals).metatable = none
    rw [table_modifyTable_self hg.exists_table]
    exact (Layout.metatable_set_ofString _ name v).trans hg.metatable

/-- A heap after a request to store a value under a name: nothing is stored if the name has a NUL. -/
def storeGlobal (h : Heap) (name : String) (v : Value) : Heap :=
  if '\x00' ∈ name.toList then h else h.setGlobalValue name v

theorem HasPlainGlobals.storeGlobal (hg : h.HasPlainGlobals) (name : String) (v : Value) :
    (h.storeGlobal name v).HasPlainGlobals := by
  unfold Heap.storeGlobal
  split
  · exact hg
  · exact hg.setGlobalValue name v

theorem globalValue_storeGlobal (hg : h.HasPlainGlobals) (name : String) (v : Value) (other : String) :
    (h.storeGlobal name v).globalValue other =
      if other = name ∧ '\x00' ∉ name.toList then v else h.globalValue other := by
  unfold storeGlobal
  split
  · next hn => rw [if_neg (fun h => h.2 hn)]
  · next hn => simp only [globalValue_setGlobalValue hg, hn, not_false_iff, and_true]

theorem grows_storeGlobal (h : Heap) (name : String) (v : Value) :
    h.Grows (· ≠ h.globals) (h.storeGlobal name v) := by
  unfold storeGlobal
  split
  · exact .refl _ h
  · exact h.grows_modifyTable h.globals _

/-- A heap that grows keeps its globals. -/
theorem HasPlainGlobals.of_grows (hg : h.HasPlainGlobals) (hh : h.Grows (fun _ => True) h') :
    h'.globals = h.globals ∧ h'.table h.globals = h.table h.globals ∧ h'.HasPlainGlobals := by
  have hglobals : h'.globals = h.globals := by rw [hh.others]
  have htable := hh.kept h.globals trivial hg.exists_table
  refine ⟨hglobals, htable, ?_, ?_⟩
  · rw [hglobals]
    exact Nat.lt_of_lt_of_le hg.exists_table hh.size
  · rw [hglobals, htable]
    exact hg.metatable

end Heap

theorem Machine.runFor_of_outcome {m : Machine} {o : Machine.Outcome} (ho : m.outcome? = some o) :
    Machine.runFor maxSteps m = some (o, m.heap) := by
  obtain ⟨n, hn⟩ : ∃ n, maxSteps = n + 1 := ⟨10 ^ 12 - 1, rfl⟩
  rw [hn, Machine.runFor, ho]

namespace Vm

variable {vm : Vm}

/-- Looking a global up in a table without a metatable. -/
theorem lookUp_of_plain (hg : vm.heap.HasPlainGlobals) (name : String) :
    pushGlobal.lookUp vm name = (vm.heap.globalValue name, vm) := by
  have hindex : ∀ m : Machine, m.heap = vm.heap →
      m.index (.table vm.heap.globals) (.ofString name) none none = m.give1 (vm.heap.globalValue name) := by
    intro m hm
    have hkey : Key.ofValue? (.ofString name) = some (.ofString name) := rfl
    have htouched : (vm.heap.table vm.heap.globals).isTouched (.ofString name) = false := rfl
    unfold Machine.index Machine.maxIndexDepth
    rw [Machine.index.go]
    simp only [hm, hkey, hg.metatable, htouched]
    unfold Heap.globalValue
    split
    · next h =>
      rw [h, if_neg (by decide), Machine.index.onMiss]
    · rfl
  unfold pushGlobal.lookUp
  dsimp only
  rw [hindex _ rfl, Machine.runFor_of_outcome (o := .values [vm.heap.globalValue name]) rfl]
  rfl

/-- Storing what is on top under a name. -/
theorem setGlobal_of_plain (hg : vm.heap.HasPlainGlobals) {name : String} (hn : '\x00' ∉ name.toList) {x : Value}
    {s : Array Value} (hs : vm.stack = s.push x) :
    vm.setGlobal name = { vm with heap := vm.heap.setGlobalValue name x, stack := s } := by
  have hindex : ∀ m : Machine, m.heap = vm.heap →
      m.setIndex (.table vm.heap.globals) (.ofString name) x none none =
        (m.withHeap (·.setGlobalValue name x)).finish := by
    intro m hm
    unfold Machine.setIndex Machine.maxIndexDepth
    rw [Machine.setIndex.go]
    simp only [hm, hg.metatable, Option.isNone_none, Bool.or_true, if_true]
    show (m.withHeap (·.modifyTable vm.heap.globals (·.set (.ofString name) x))).finish = _
    rw [Machine.withHeap, Machine.withHeap, hm]
    rfl
  have hthere : vm.touch 1 = vm := touch_of_le (by simp [top, hs])
  have htop : vm.topValue?.getD .nil = x := by simp [topValue?, hs]
  unfold setGlobal
  rw [if_neg (by simpa using hn)]
  dsimp only
  rw [hthere, htop, hindex _ rfl, Machine.runFor_of_outcome (o := .values []) rfl]
  simp [dropSlots, hs, Machine.withHeap, Machine.finish]

/-- Storing under a name with a NUL removes the slot and does nothing else. -/
theorem setGlobal_of_nul {name : String} (hn : '\x00' ∈ name.toList) {x : Value} {s : Array Value}
    (hs : vm.stack = s.push x) : vm.setGlobal name = { vm with stack := s } := by
  have hvm : vm = { vm with stack := s }.pushValue x := by
    obtain ⟨heap, stack, refusals, traversal, missing, strays⟩ := vm
    exact congrArg (Vm.mk heap · refusals traversal missing strays) hs
  rw [setGlobal, if_pos (by simpa using hn)]
  exact (congrArg (·.discard 1) hvm).trans (discard_pushValue { vm with stack := s } x 0)

/-- With room for it, a global is on top if its name has no NUL and stands for something. -/
theorem pushGlobal_of_granted (hg : vm.heap.HasPlainGlobals) (name : String) (hr : vm.reserve 1 = (true, vm)) :
    vm.pushGlobal name = if '\x00' ∈ name.toList ∨ (vm.heap.globalValue name).isNil then (false, vm)
      else (true, vm.pushValue (vm.heap.globalValue name)) := by
  unfold pushGlobal
  by_cases hn : '\x00' ∈ name.toList
  · rw [if_pos (by simpa using hn), if_pos (Or.inl hn)]
  · rw [if_neg (by simpa using hn), hr]
    dsimp only
    rw [lookUp_of_plain hg]
    by_cases hx : (vm.heap.globalValue name).isNil
    · rw [if_pos (Or.inr hx), Value.isNil_iff.1 hx]
      exact congrArg (false, ·) (discard_pushValue vm .nil 0)
    · rw [if_neg (not_or.2 ⟨hn, hx⟩)]
      split
      · next h => exact absurd (Value.isNil_iff.2 (Prod.mk.inj h).1) hx
      · next h =>
        obtain ⟨rfl, rfl⟩ := Prod.mk.inj h
        rfl

/-- A global without a NUL in its name that is something is on top, unless room for it is refused. -/
theorem pushGlobal_of_plain (hg : vm.heap.HasPlainGlobals) {name : String} (hn : '\x00' ∉ name.toList)
    (hx : vm.heap.globalValue name ≠ .nil) :
    vm.pushGlobal name = (true, vm.pushValue (vm.heap.globalValue name)) ∨
      vm.pushGlobal name = (false, vm.refuse 1) := by
  rcases reserve_cases vm 1 with hr | hr
  · left
    rw [pushGlobal_of_granted hg name hr, if_neg (not_or.2 ⟨hn, mt Value.isNil_iff.1 hx⟩)]
  · right
    rw [pushGlobal, if_neg (by simpa using hn), hr]

/-! ## Slots -/

/-- Reading and removing the topmost slot leaves what is below it as it was. -/
theorem stack_popAlways (vm : Vm) (x : Value) (t : Ty) : ((vm.pushValue x).popAlways t).2.stack = vm.stack := by
  obtain ⟨n, hs, -⟩ := readTop_reads vm.heap vm.traversal t (vm.pushValue x) x rfl rfl (topValue?_pushValue vm x 0)
  have hs : ((vm.pushValue x).read t).2 = (vm.pushValue x).refuse n := hs
  show (((vm.pushValue x).read t).2.discard 1).stack = vm.stack
  rw [hs, discard_pushValue]
  rfl

/-- Reading and removing a value that reads as a datum. -/
theorem popAlways_pushValue {x : Value} {t : Ty} {d : Datum} (hd : valueAs vm.heap vm.traversal t x = some d)
    (hr : ((vm.pushValue x).popAlways t).2.refusals = vm.refusals) : (vm.pushValue x).popAlways t = (some d, vm) := by
  have hr : ((vm.pushValue x).read t).2.refusals = vm.refusals := (refusals_discard _ 1).symm.trans hr
  have hread : (vm.pushValue x).read t = (some d, vm.pushValue x) :=
    (read_eq_valueAs (topValue?_pushValue vm x 0) t hr).trans (congrArg (·, vm.pushValue x) hd)
  rw [popAlways, hread]
  exact congrArg (some d, ·) (discard_pushValue vm x 0)

/-- Storing a global takes one slot, whether or not something is stored. -/
theorem stack_setGlobal {x : Value} {s : Array Value} (hs : vm.stack = s.push x) (name : String) :
    (vm.setGlobal name).stack = s := by
  have hdrop : ∀ heap, ({ vm with heap }.dropSlots 1).stack = s := fun heap => by simp [dropSlots, hs]
  by_cases hn : '\x00' ∈ name.toList
  · rw [setGlobal_of_nul hn hs]
  · unfold setGlobal
    rw [if_neg (by simpa using hn), touch_of_le (by simp [top, hs])]
    dsimp only
    split
    · exact hdrop _
    · exact hdrop vm.heap

end Vm

end Lua

namespace LuaPlugin

open Lua

/-- What reading a global gives, apart from what is printed. -/
theorem run_global (p : LuaPlugin) (name : String) (t : Ty) (w : World) : ((p.global name t).run w).1 =
    match p.vm.pushGlobal name with
    | (false, vm) => (.error (.symbolNotFound name), { p with vm := vm.takeOutput.2 })
    | (true, vm) => ((vm.popAlways t).1.elim
        (.error (.incorrectType ("global '" ++ name ++ "' does not match the requested type"))) .ok,
        { p with vm := (vm.popAlways t).2.takeOutput.2 }) := by
  unfold global
  rcases p.vm.pushGlobal name with ⟨_ | _, vm⟩
  · rfl
  · dsimp only
    rcases vm.popAlways t with ⟨_ | d, vm'⟩ <;> rfl

/-- What giving a global a value gives, apart from what is printed. -/
theorem run_setGlobal (p : LuaPlugin) (name : String) (d : Datum) (w : World) : ((p.setGlobal name d).run w).1 =
    match p.vm.push d with
    | (.error e, vm) => (.error (.incorrectType
        ("global '" ++ name ++ "' cannot be converted to a Lua value: " ++ e.display)), { p with vm })
    | (.ok (), vm) => (.ok (), { p with vm := (vm.setGlobal name).takeOutput.2 }) := by
  unfold setGlobal
  rcases p.vm.push d with ⟨_ | _, vm⟩ <;> rfl

/-- Reading a global leaves the stack as it was. -/
theorem stack_global (p : LuaPlugin) (name : String) (t : Ty) (w : World) :
    ((p.global name t).run w).1.2.vm.stack = p.vm.stack := by
  rw [run_global]
  rcases p.vm.pushGlobal_cases name with hg | ⟨heap, ⟨hg, -⟩ | ⟨x, hg, -⟩⟩ <;> rw [hg]
  · rfl
  · rfl
  · exact Vm.stack_popAlways { p.vm with heap } x t

/-- Giving a global a value leaves the stack as it was. -/
theorem stack_setGlobal (p : LuaPlugin) (name : String) (d : Datum) (w : World) :
    ((p.setGlobal name d).run w).1.2.vm.stack = p.vm.stack := by
  rw [run_setGlobal]
  rcases hp : p.vm.push d with ⟨e | ⟨⟩, vm⟩
  · rw [Vm.push_error hp]
    rfl
  · obtain ⟨x, hg, -⟩ := (Vm.push_ok hp).1
    exact Vm.stack_setGlobal (hg.stack.trans Array.push_eq_append.symm) name

/-! ## Reading back -/

variable {p after : LuaPlugin} {name : String} {d : Datum} {w w₁ : World}

/-- What it does to give a global a value: what stands for the datum is put into a heap that has grown, and stored under
the name if that has no NUL. -/
theorem setGlobal_ok (hg : p.vm.heap.HasPlainGlobals) (hset : (p.setGlobal name d).run w = ((.ok (), after), w₁)) :
    ∃ x heap, p.vm.heap.Grows (fun _ => True) heap ∧ Represents p.vm.heap.tables.size heap d x ∧
      after.vm = { p.vm with heap := { heap.storeGlobal name x with output := .empty } } := by
  have hset := congrArg Prod.fst hset
  rw [run_setGlobal] at hset
  rcases hp : p.vm.push d with ⟨e | ⟨⟩, vm⟩ <;> rw [hp] at hset
  · cases hset
  · cases hset
    obtain ⟨⟨x, hgrows, hx⟩, hr⟩ := Vm.push_ok hp
    obtain ⟨-, -, hplain⟩ := hg.of_grows hgrows.heap
    have hstack : vm.stack = p.vm.stack.push x := hgrows.stack.trans Array.push_eq_append.symm
    have hvm : vm.setGlobal name = { vm with heap := vm.heap.storeGlobal name x, stack := p.vm.stack } := by
      unfold Heap.storeGlobal
      split
      · next hn => exact Vm.setGlobal_of_nul hn hstack
      · next hn => exact Vm.setGlobal_of_plain hplain hn hstack
    refine ⟨x, vm.heap, hgrows.heap, hx, ?_⟩
    rw [hvm]
    obtain ⟨heap, stack, refusals, traversal, missing, strays⟩ := vm
    obtain ⟨-, -, ht, hm, hi⟩ := hgrows
    simp only at ht hm hi hr
    subst ht hm hi hr
    rfl

/-- Under a name with a NUL nothing is ever found. -/
theorem global_of_nul (hn : '\x00' ∈ name.toList) (p : LuaPlugin) (t : Ty) (w : World) :
    ((p.global name t).run w).1.1 = .error (.symbolNotFound name) := by
  have hpush : p.vm.pushGlobal name = (false, p.vm) := by
    rw [Vm.pushGlobal, if_pos (by simpa using hn)]
  rw [run_global, hpush]

/-- A global reads as what its value stands for, unless there is no room for it. -/
theorem global_of_value {t : Ty} {x : Value} (hg : p.vm.heap.HasPlainGlobals) (hn : '\x00' ∉ name.toList)
    (hname : p.vm.heap.globalValue name = x) (hnil : x ≠ .nil)
    (hread : Vm.valueAs p.vm.heap p.vm.traversal t x = some d)
    (hr : ((p.global name t).run w).1.2.vm.refusals = p.vm.refusals) : ((p.global name t).run w).1.1 = .ok d := by
  rw [run_global] at hr ⊢
  rcases Vm.pushGlobal_of_plain hg hn (hname.symm ▸ hnil) with hpush | hpush <;> rw [hpush] at hr ⊢
  · rw [hname] at hr ⊢
    dsimp only
    rw [Vm.popAlways_pushValue hread hr]
    rfl
  · exact absurd hr (Nat.succ_ne_self _)

/-- A value that was stored under a name is what the name then stands for: it reads as the datum, as long as no
request for room is refused. A name with a NUL stands for nothing, even if storing under it went well. No other name
stands for anything else than before, and of the tables that were there only that of the globals has changed. -/
theorem global_of_setGlobal {t : Ty} (hg : p.vm.heap.HasPlainGlobals) (ht : t.isPushable) (hd : d.hasType t)
    (hv : d.IsValue) (hk : d.keysPresent) (hdense : d.isDense) (ha : d.isAbsent = false)
    (hset : (p.setGlobal name d).run w = ((.ok (), after), w₁)) :
    (∀ w₂, if '\x00' ∈ name.toList then ((after.global name t).run w₂).1.1 = .error (.symbolNotFound name)
      else ((after.global name t).run w₂).1.2.vm.refusals = after.vm.refusals →
        ((after.global name t).run w₂).1.1 = .ok d.sorted) ∧
    (∀ other, other ≠ name → (Vm.pushGlobal.lookUp after.vm other).1 = (Vm.pushGlobal.lookUp p.vm other).1) ∧
    ∀ id, id < p.vm.heap.tables.size → id ≠ p.vm.heap.globals → after.vm.heap.table id = p.vm.heap.table id := by
  obtain ⟨x, heap, hgrows, hx, hafter⟩ := setGlobal_ok hg hset
  obtain ⟨hglobals, htable, hplain⟩ := hg.of_grows hgrows
  have hstored := heap.grows_storeGlobal name x
  have hplain' : after.vm.heap.HasPlainGlobals := by
    rw [hafter]
    exact ⟨(hplain.storeGlobal name x).exists_table, (hplain.storeGlobal name x).metatable⟩
  have hvalue : ∀ other, after.vm.heap.globalValue other =
      if other = name ∧ '\x00' ∉ name.toList then x else p.vm.heap.globalValue other := by
    intro other
    rw [hafter]
    refine (Heap.globalValue_storeGlobal hplain name x other).trans ?_
    rw [Heap.globalValue, hglobals, htable]
    rfl
  refine ⟨fun w₂ => ?_, fun other hother => ?_, fun id hid hne => ?_⟩
  · split
    · next hn => exact global_of_nul hn after t w₂
    next hn =>
    intro hr
    have hkeeps : heap.Keeps after.vm.heap p.vm.heap.tables.size := by
      rw [hafter]
      refine ⟨hstored.size, fun i hi hlt => hstored.kept i ?_ hlt⟩
      rw [hglobals]
      exact (Nat.lt_of_lt_of_le hg.exists_table hi).ne'
    have hname : after.vm.heap.globalValue name = x := (hvalue name).trans (if_pos ⟨rfl, hn⟩)
    have hnil : x ≠ .nil := Value.isNil_eq_false_iff.1 ((isNil_of_represents hx).trans ha)
    have hkept := Datum.kept_of_isDense hdense
    have hread := valueAs_readsKept (o := after.vm.traversal) ht hd hv hk (hkept.symm ▸ hv)
      (hx.mono (Nat.le_refl _) hkeeps)
    rw [hkept, if_pos hdense] at hread
    exact global_of_value hplain' hn hname hnil hread hr
  · rw [Vm.lookUp_of_plain hplain', Vm.lookUp_of_plain hg, hvalue, if_neg fun h => hother h.1]
  · rw [hafter]
    exact (hstored.kept id (hglobals ▸ hne) (Nat.lt_of_lt_of_le hid hgrows.size)).trans (hgrows.kept id trivial hid)

end LuaPlugin

end PluginHost
