import PluginHost.Proofs.Lua.Reading
import PluginHost.Proofs.Lua.Representation

/-!
# Pushing

Pushing a datum that succeeds puts one value on the stack, which stands for the datum in a heap that has grown, and
nothing else changes (`push_ok`). When it fails, all that it did is undone, but that room may have been refused
(`push_error`). Both rest on `pushDatum_ends`, which follows a datum through all the steps by which its tables are
filled.
-/

namespace PluginHost.Lua

/-- How many refusals of room an error comes from. -/
def VmError.refusals : VmError → Nat
  | .stackOverflow => 1
  | _ => 0

namespace Vm

/-- The interpreter has more on its stack and in its heap, where tables with a property stay as they are. -/
structure Grows (p : Nat → Prop) (vm vm' : Vm) (slots : List Value) : Prop where
  heap : vm.heap.Grows p vm'.heap
  stack : vm'.stack = vm.stack ++ slots.toArray
  traversal : vm'.traversal = vm.traversal
  missing : vm'.missing = vm.missing
  strays : vm'.strays = vm.strays

variable {p q : Nat → Prop} {vm vm₁ vm₂ : Vm} {xs ys : List Value}

theorem Grows.refl (p : Nat → Prop) (vm : Vm) : Grows p vm vm [] := ⟨.refl p _, by simp, rfl, rfl, rfl⟩

theorem Grows.trans (h₁ : Grows p vm vm₁ xs) (h₂ : Grows q vm₁ vm₂ ys)
    (hpq : ∀ i, i < vm.heap.tables.size → p i → q i) :
    Grows p vm vm₂ (xs ++ ys) :=
  ⟨h₁.heap.trans h₂.heap hpq, by simp [h₂.stack, h₁.stack],
    h₂.traversal.trans h₁.traversal, h₂.missing.trans h₁.missing, h₂.strays.trans h₁.strays⟩

theorem Grows.mono (h : Grows p vm vm₁ xs) (hq : ∀ i, i < vm.heap.tables.size → q i → p i) : Grows q vm vm₁ xs :=
  ⟨h.heap.mono hq, h.stack, h.traversal, h.missing, h.strays⟩

/-- How pushing ends: what holds of its success, which no refusal came before, or slots that are left over. -/
def Ends (p : Nat → Prop) (vm : Vm) (ok : Vm → Prop) (r : Except VmError Unit × Vm) : Prop :=
  match r.1 with
  | .ok () => r.2.refusals = vm.refusals ∧ ok r.2
  | .error e => r.2.refusals = vm.refusals + e.refusals ∧ ∃ slots, Grows p vm r.2 slots

/-- The run of an operation. -/
def Push.on (m : Push Unit) (vm : Vm) : Except VmError Unit × Vm := m.run.run vm

theorem Ends.of_grows {r : Except VmError Unit × Vm} {ok : Vm → Prop} (hg : Grows p vm vm₁ xs)
    (hr : vm₁.refusals = vm.refusals) (h : Ends q vm₁ ok r) (hpq : ∀ i, i < vm.heap.tables.size → p i → q i) :
    Ends p vm ok r := by
  unfold Ends at h ⊢
  split at h
  · exact ⟨h.1.trans hr, h.2⟩
  · obtain ⟨hrefusals, slots, hs⟩ := h
    exact ⟨hr ▸ hrefusals, _, hg.trans hs hpq⟩

theorem Ends.imp {r : Except VmError Unit × Vm} {ok ok' : Vm → Prop} (h : Ends p vm ok r)
    (hok : ∀ vm', ok vm' → ok' vm') :
    Ends p vm ok' r := by
  unfold Ends at h ⊢
  split at h
  · exact ⟨h.1, hok _ h.2⟩
  · exact h

theorem on_bind_ok {m : Push Unit} {f : Unit → Push Unit} (hm : m.on vm₁ = (.ok (), vm₂)) :
    (m >>= f).on vm₁ = (f ()).on vm₂ := by
  have hrun : m.run.run vm₁ = (.ok (), vm₂) := hm
  rw [Push.on, ExceptT.run_bind, StateT.run_bind, hrun]
  rfl

theorem on_bind_error {m : Push Unit} {f : Unit → Push Unit} {e : VmError} (hm : m.on vm₁ = (.error e, vm₂)) :
    (m >>= f).on vm₁ = (.error e, vm₂) := by
  have hrun : m.run.run vm₁ = (.error e, vm₂) := hm
  rw [Push.on, ExceptT.run_bind, StateT.run_bind, hrun]
  rfl

/-- One operation after another, both started after something that counts as part of them. -/
theorem Ends.bind {m : Push Unit} {f : Unit → Push Unit} {mid ok : Vm → Prop} (hm : Ends p vm mid (m.on vm₁))
    (hf : ∀ vm₂, vm₂.refusals = vm.refusals → mid vm₂ → Ends p vm ok ((f ()).on vm₂)) :
    Ends p vm ok ((m >>= f).on vm₁) := by
  rcases hmr : m.on vm₁ with ⟨_ | _, vm₂⟩
  · rw [on_bind_error hmr]
    rw [hmr] at hm
    exact hm
  · rw [on_bind_ok hmr]
    rw [hmr] at hm
    exact hf vm₂ hm.1 hm.2

/-! ## Single steps -/

theorem grows_pushValue (p : Nat → Prop) (vm : Vm) (v : Value) : Grows p vm (vm.pushValue v) [v] :=
  ⟨.refl p _, by simp [pushValue], rfl, rfl, rfl⟩

theorem grows_refuse (p : Nat → Prop) (vm : Vm) (n : Nat) : Grows p vm (vm.refuse n) [] :=
  ⟨.refl p _, by simp [refuse], rfl, rfl, rfl⟩

theorem on_reserve {n : Nat} {granted : Bool} (hr : vm.reserve (Int32.ofNat n) = (granted, vm₁)) :
    (Push.reserve n).on vm = (if granted then .ok () else .error .stackOverflow, vm₁) := by
  simp only [Push.on, Push.reserve, ExceptT.run_bind, StateT.run_bind]
  dsimp only [bind, pure, get, getThe, MonadStateOf.get, liftM, monadLift, MonadLift.monadLift, ExceptT.lift,
    ExceptT.mk, ExceptT.run, StateT.run, StateT.get, StateT.bind, Functor.map, StateT.map, StateT.pure]
  rw [hr]
  cases granted <;> rfl

theorem ends_reserve (p : Nat → Prop) (vm : Vm) (n : Nat) : Ends p vm (· = vm) ((Push.reserve n).on vm) := by
  rcases reserve_cases vm (Int32.ofNat n) with h | h
  · rw [on_reserve h]
    exact ⟨rfl, rfl⟩
  · rw [on_reserve h]
    exact ⟨rfl, [], grows_refuse p vm 1⟩

/-- A request for room comes first. -/
theorem Ends.after_reserve {m : Unit → Push Unit} {ok : Vm → Prop} (n : Nat) (h : Ends p vm ok ((m ()).on vm)) :
    Ends p vm ok ((Push.reserve n >>= m).on vm) :=
  (ends_reserve p vm n).bind fun vm₁ _ (hvm : vm₁ = vm) => hvm.symm ▸ h

theorem ends_newTable (vm : Vm) (values keys : Nat) :
    Ends (fun _ => True) vm (fun vm' => vm'.heap = (vm.heap.addTable (.withRoom values keys)).2 ∧
      Grows (fun _ => True) vm vm' [.table vm.heap.tables.size]) ((Push.newTable values keys).on vm) :=
  ⟨rfl, rfl, vm.heap.grows_addTable _ _, Array.push_eq_append, rfl, rfl, rfl⟩

theorem getElem?_push_of_eq {s : Array Value} {x : Value} {i : Nat} (h : i = s.size) : (s.push x)[i]? = some x := by
  rw [Array.getElem?_push, if_pos h]

theorem getElem?_push_of_ne {s : Array Value} {x : Value} {i : Nat} (h : i ≠ s.size) : (s.push x)[i]? = s[i]? := by
  rw [Array.getElem?_push, if_neg h]

/-- Storing an item takes it from the stack into the table below it. -/
theorem on_setItem {i id : Nat} {x : Value} {s : Array Value} (hs : vm.stack = (s.push (.table id)).push x) :
    (Push.setItem (i + 1)).on vm =
      (.ok (), { vm with heap := vm.heap.modifyTable id (·.set (.atPosition i) x), stack := s.push (.table id) }) := by
  obtain ⟨heap, stack, refusals, traversal, missing, strays⟩ := vm
  subst hs
  have h₁ : ((s.push (.table id)).push x)[s.size + 1 + 1 - 1]? = some x := getElem?_push_of_eq (by simp)
  have h₂ : ((s.push (.table id)).push x)[s.size + 1 + 1 - 2]? = some (.table id) := by
    rw [getElem?_push_of_ne (by simp), getElem?_push_of_eq (by simp)]
  show (Except.ok (), _) = _
  simp only [touch, top, Array.size_push, h₁, h₂]
  simp [dropSlots, Key.atPosition]

/-- Storing an entry takes it from the stack into the table below it, unless its key is none. -/
theorem on_setEntry {id : Nat} {x v : Value} {s : Array Value} (hs : vm.stack = ((s.push (.table id)).push x).push v) :
    Push.setEntry.on vm = (.ok (), { vm with
      heap := match Key.ofValue? x with
        | some k => vm.heap.modifyTable id (·.set k v)
        | none => vm.heap
      stack := s.push (.table id) }) := by
  obtain ⟨heap, stack, refusals, traversal, missing, strays⟩ := vm
  subst hs
  have h₁ : (((s.push (.table id)).push x).push v)[s.size + 1 + 1 + 1 - 1]? = some v := getElem?_push_of_eq (by simp)
  have h₂ : (((s.push (.table id)).push x).push v)[s.size + 1 + 1 + 1 - 2]? = some x := by
    rw [getElem?_push_of_ne (by simp), getElem?_push_of_eq (by simp)]
  have h₃ : (((s.push (.table id)).push x).push v)[s.size + 1 + 1 + 1 - 3]? = some (.table id) := by
    rw [getElem?_push_of_ne (by simp; omega), getElem?_push_of_ne (by simp), getElem?_push_of_eq (by simp)]
  show (Except.ok (), _) = _
  simp only [touch, top, Array.size_push, h₁, h₂, h₃]
  cases Key.ofValue? x <;> simp [dropSlots]

/-! ## Filling a table -/

/-- The table with a number has further entries, and the stack is what it was. -/
structure Filled (id : Nat) (vm vm' : Vm) (ps : List (Key × Value)) : Prop where
  grows : Grows (· ≠ id) vm vm' []
  get : ∀ k, (vm'.heap.table id).get k = lastOf ps (vm.heap.table id).get k

theorem Filled.refl (id : Nat) (vm : Vm) : Filled id vm vm [] := ⟨.refl _ vm, fun _ => rfl⟩

theorem Filled.trans {id : Nat} {ps qs : List (Key × Value)} (h₁ : Filled id vm vm₁ ps) (h₂ : Filled id vm₁ vm₂ qs) :
    Filled id vm vm₂ (ps ++ qs) := by
  refine ⟨h₁.grows.trans h₂.grows fun _ _ h => h, fun k => ?_⟩
  rw [h₂.get, lastOf, lastOf, h₁.get, lastOf, List.reverse_append, List.lookup_append]
  cases qs.reverse.lookup k <;> rfl

/-- Datum by datum the heap grows, and what is pushed stands for the datum. -/
def IsPushed (d : Datum) (vm vm' : Vm) : Prop :=
  ∃ x, Grows (fun _ => True) vm vm' [x] ∧ Represents vm.heap.tables.size vm'.heap d x

theorem keeps_of_grows {h h' : Heap} {id lo : Nat} (hg : h.Grows (· ≠ id) h') (hlo : id < lo) : h.Keeps h' lo :=
  ⟨hg.size, fun i hi hlt => hg.kept i (by omega) hlt⟩

/-- Setting an entry of the table with a number after some slots came and went. -/
theorem filled_of_modifyTable {id : Nat} {k : Key} {x : Value} (hid : id < vm.heap.tables.size)
    (hg : Grows (fun _ => True) vm vm₁ xs) (hh : vm₂.heap = vm₁.heap.modifyTable id (·.set k x))
    (hs : vm₂.stack = vm.stack)
    (ht : vm₂.traversal = vm₁.traversal) (hm : vm₂.missing = vm₁.missing) (hi : vm₂.strays = vm₁.strays) :
    Filled id vm vm₂ [(k, x)] := by
  refine ⟨⟨?_, by simp [hs], ht.trans hg.traversal, hm.trans hg.missing, hi.trans hg.strays⟩, fun k' => ?_⟩
  · rw [hh]
    exact (hg.heap.mono fun _ _ _ => trivial).trans (vm₁.heap.grows_modifyTable id _) fun _ _ h => h
  · rw [hh, Heap.table_modifyTable_self (Nat.lt_of_lt_of_le hid hg.heap.size), Table.get_set,
      hg.heap.kept id trivial hid, lastOf, List.reverse_singleton, Layout.lookup_cons_ite]
    split <;> rfl

/-- Storing an item that was pushed. -/
theorem ends_setItem {i id : Nat} {x : Value} {s : Array Value} (hs : vm.stack = s.push (.table id))
    (hid : id < vm.heap.tables.size) (hg : Grows (fun _ => True) vm vm₁ [x]) (hr : vm₁.refusals = vm.refusals) :
    Ends (· ≠ id) vm (fun vm₂ => Filled id vm vm₂ [(.atPosition i, x)] ∧ vm₁.heap.Grows (· ≠ id) vm₂.heap)
      ((Push.setItem (i + 1)).on vm₁) := by
  rw [on_setItem (show vm₁.stack = (s.push (.table id)).push x by rw [hg.stack, hs]; simp)]
  refine ⟨hr, ?_, vm₁.heap.grows_modifyTable id _⟩
  exact filled_of_modifyTable hid hg rfl hs.symm rfl rfl rfl

/-- Storing an entry that was pushed. -/
theorem ends_setEntry {id : Nat} {x v : Value} {s : Array Value} (hs : vm.stack = s.push (.table id))
    (hid : id < vm.heap.tables.size) (hg : Grows (fun _ => True) vm vm₁ [x, v]) (hr : vm₁.refusals = vm.refusals) :
    Ends (· ≠ id) vm (fun vm₂ => Filled id vm vm₂ (entryOf x v) ∧ vm₁.heap.Grows (· ≠ id) vm₂.heap)
      (Push.setEntry.on vm₁) := by
  rw [on_setEntry (show vm₁.stack = ((s.push (.table id)).push x).push v from
    Array.ext' (by simp [hg.stack, hs]))]
  cases hk : Key.ofValue? x with
  | none =>
    have hheap : vm.heap.Grows (· ≠ id) vm₁.heap := hg.heap.mono fun _ _ _ => trivial
    refine ⟨hr, ⟨⟨hheap, by simp [hs], hg.traversal, hg.missing, hg.strays⟩, fun k => ?_⟩, .refl _ _⟩
    rw [entryOf, hk]
    exact congrArg (fun t : Table => t.get k) (hg.heap.kept id trivial hid)
  | some k =>
    refine ⟨hr, ?_, vm₁.heap.grows_modifyTable id _⟩
    rw [entryOf, hk]
    exact filled_of_modifyTable hid hg rfl hs.symm rfl rfl rfl

theorem lt_of_filled {id : Nat} {ps : List (Key × Value)} (hid : id < vm.heap.tables.size) (hf : Filled id vm vm₁ ps) :
    id < vm₁.heap.tables.size :=
  Nat.lt_of_lt_of_le hid hf.grows.heap.size

theorem stack_of_filled {id : Nat} {ps : List (Key × Value)} (hf : Filled id vm vm₁ ps) : vm₁.stack = vm.stack := by
  rw [hf.grows.stack]
  simp

theorem lt_of_addTable {t : Table} (hh : vm₁.heap = (vm.heap.addTable t).2) :
    vm.heap.tables.size < vm₁.heap.tables.size := by
  rw [hh]
  simp [Heap.addTable]

/-- A new table that was filled is what was pushed. -/
theorem isPushed_of_filled {values keys : Nat} {ps : List (Key × Value)}
    (hh : vm₁.heap = (vm.heap.addTable (.withRoom values keys)).2)
    (hg : Grows (fun _ => True) vm vm₁ [.table vm.heap.tables.size]) (hf : Filled vm.heap.tables.size vm₁ vm₂ ps) :
    Grows (fun _ => True) vm vm₂ [.table vm.heap.tables.size] ∧
      ∀ k, (vm₂.heap.table vm.heap.tables.size).get k = lastOf ps (fun _ => .nil) k := by
  refine ⟨hg.trans hf.grows fun i hi _ => Nat.ne_of_lt hi, fun k => ?_⟩
  rw [hf.get, lastOf, lastOf, hh]
  exact congrArg _ ((congrArg (fun t : Table => t.get k) (vm.heap.table_addTable_self _)).trans
    (Table.get_withRoom _ _ k))

mutual

/-- Pushing a datum puts what stands for it on the stack, or slots are left over. -/
theorem pushDatum_ends : ∀ (d : Datum) (vm : Vm), Ends (fun _ => True) vm (IsPushed d vm) ((pushDatum d).on vm)
  | .int n, vm => by
    rw [pushDatum]
    split
    · next h => exact ⟨rfl, _, grows_pushValue _ vm _, h, rfl⟩
    · exact ⟨rfl, [], .refl _ vm⟩
  | .f32 _, vm | .f64 _, vm | .bool _, vm | .str _, vm | .unit, vm | .none, vm => by
    rw [pushDatum]
    exact ⟨rfl, _, grows_pushValue _ vm _, rfl⟩
  | .some d, vm => by
    rw [pushDatum]
    exact pushDatum_ends d vm
  | .list ds, vm => by
    rw [pushDatum]
    refine (ends_newTable vm ds.length 0).bind ?_
    rintro vm₁ hr₁ ⟨hh, hg⟩
    have hid := lt_of_addTable hh
    have hrest := pushItems_ends (s := vm.stack) ds 0 vm₁ (by rw [hg.stack]; simp) hid
    refine (hrest.of_grows hg hr₁ fun i hi _ => Nat.ne_of_lt hi).imp ?_
    rintro vm₂ ⟨xs, hf, hxs⟩
    obtain ⟨hg, hget⟩ := isPushed_of_filled hh hg hf
    exact ⟨_, hg, _, xs, rfl, Nat.le_refl _, lt_of_filled hid hf, hxs.mono hid (.refl _ _), hget⟩
  | .map es, vm => by
    rw [pushDatum]
    refine (ends_newTable vm 0 es.length).bind ?_
    rintro vm₁ hr₁ ⟨hh, hg⟩
    have hid := lt_of_addTable hh
    have hrest := pushEntries_ends (s := vm.stack) es vm₁ (by rw [hg.stack]; simp) hid
    refine (hrest.of_grows hg hr₁ fun i hi _ => Nat.ne_of_lt hi).imp ?_
    rintro vm₂ ⟨ps, hf, hps⟩
    obtain ⟨hg, hget⟩ := isPushed_of_filled hh hg hf
    exact ⟨_, hg, _, ps, rfl, Nat.le_refl _, lt_of_filled hid hf, hps.mono hid (.refl _ _), hget⟩

/-- Pushing items fills the table on top. -/
theorem pushItems_ends {id : Nat} {s : Array Value} : ∀ (ds : List Datum) (i : Nat) (vm : Vm),
    vm.stack = s.push (.table id) →
    id < vm.heap.tables.size →
      Ends (· ≠ id) vm (fun vm' => ∃ xs, Filled id vm vm' (itemPairs i xs) ∧
        RepresentsItems vm.heap.tables.size vm'.heap ds xs) ((pushItems (i + 1) ds).on vm)
  | [], i, vm, _, _ => by
    rw [pushItems]
    exact ⟨rfl, [], .refl id vm, rfl⟩
  | d :: ds, i, vm, hs, hid => by
    rw [pushItems]
    refine Ends.after_reserve 1 ?_
    have hd := (pushDatum_ends d vm).of_grows (p := (· ≠ id)) (.refl _ vm) rfl fun _ _ _ => trivial
    refine Ends.bind hd ?_
    rintro vm₁ hr₁ ⟨x, hg, hx⟩
    refine (ends_setItem hs hid hg hr₁).bind ?_
    rintro vm₂ hr₂ ⟨hf, hg₂⟩
    have hrest := pushItems_ends ds (i + 1) vm₂ ((stack_of_filled hf).trans hs) (lt_of_filled hid hf)
    refine (hrest.of_grows hf.grows hr₂ fun _ _ h => h).imp ?_
    rintro vm₃ ⟨xs, hf', hxs⟩
    refine ⟨x :: xs, hf.trans hf', x, xs, rfl, ?_, hxs.mono hf.grows.heap.size (.refl _ _)⟩
    exact hx.mono (Nat.le_refl _) (keeps_of_grows (hg₂.trans hf'.grows.heap fun _ _ h => h) hid)

/-- Pushing entries fills the table on top. -/
theorem pushEntries_ends {id : Nat} {s : Array Value} : ∀ (es : List (Datum × Datum)) (vm : Vm),
    vm.stack = s.push (.table id) →
    id < vm.heap.tables.size →
      Ends (· ≠ id) vm (fun vm' => ∃ ps, Filled id vm vm' ps ∧ RepresentsEntries vm.heap.tables.size vm'.heap es ps)
        ((pushEntries es).on vm)
  | [], vm, _, _ => by
    rw [pushEntries]
    exact ⟨rfl, [], .refl id vm, rfl⟩
  | (dk, dv) :: es, vm, hs, hid => by
    rw [pushEntries]
    refine Ends.after_reserve 2 ?_
    have hk := (pushDatum_ends dk vm).of_grows (p := (· ≠ id)) (.refl _ vm) rfl fun _ _ _ => trivial
    refine Ends.bind hk ?_
    rintro vm₁ hr₁ ⟨x, hg₁, hx⟩
    have hg' : Grows (· ≠ id) vm vm₁ [x] := hg₁.mono fun _ _ _ => trivial
    have hv := (pushDatum_ends dv vm₁).of_grows hg' hr₁ fun _ _ _ => trivial
    refine Ends.bind hv ?_
    rintro vm₂ hr₂ ⟨v, hg₂, hv⟩
    refine (ends_setEntry hs hid (hg₁.trans hg₂ fun _ _ _ => trivial) hr₂).bind ?_
    rintro vm₃ hr₃ ⟨hf, hg₃⟩
    have hrest := pushEntries_ends es vm₃ ((stack_of_filled hf).trans hs) (lt_of_filled hid hf)
    refine (hrest.of_grows hf.grows hr₃ fun _ _ h => h).imp ?_
    rintro vm₄ ⟨ps, hf', hps⟩
    have hg₄ : vm₂.heap.Grows (· ≠ id) vm₄.heap := hg₃.trans hf'.grows.heap fun _ _ h => h
    refine ⟨entryOf x v ++ ps, hf.trans hf', x, v, ps, rfl, ?_, ?_, ?_⟩
    · exact hx.mono (Nat.le_refl _) (keeps_of_grows ((hg₂.heap.mono fun _ _ _ => trivial).trans hg₄ fun _ _ h => h) hid)
    · exact hv.mono hg₁.heap.size (keeps_of_grows hg₄ (Nat.lt_of_lt_of_le hid hg₁.heap.size))
    · refine hps.mono ?_ (.refl _ _)
      exact hx.bound_le (Nat.le_trans hg₂.heap.size hg₃.size) hf.grows.heap.size

end

/-! ## Undoing what failed -/

theorem dropTables_of_grows {h h' : Heap} (hg : h.Grows (fun _ => True) h') : h'.dropTables h.tables.size = h := by
  have htables : h'.tables.take h.tables.size = h.tables := by
    refine Array.ext (by simp [Nat.min_eq_left hg.size]) fun i hi hi' => ?_
    have hkept := hg.kept i trivial hi'
    have hlt : i < h'.tables.size := Nat.lt_of_lt_of_le hi' hg.size
    simpa [Heap.table, Array.getD, hi', hlt] using hkept
  rw [Heap.dropTables, htables, hg.others]

/-- Undoing what was done since leaves nothing of it but refusals. -/
theorem undo_of_grows (hg : Grows (fun _ => True) vm vm₁ xs) (hr : vm₁.refusals = vm.refusals + n) :
    vm₁.undo vm = vm.refuse n := by
  obtain ⟨heap, stack, refusals, traversal, missing, strays⟩ := vm
  obtain ⟨heap₁, stack₁, refusals₁, traversal₁, missing₁, strays₁⟩ := vm₁
  obtain ⟨hheap, hstack, htraversal, hmissing, hstrays⟩ := hg
  simp only at hheap hstack htraversal hmissing hstrays hr
  subst hstack htraversal hmissing hstrays hr
  simp [undo, resize, top, refuse, dropTables_of_grows hheap]

/-- A run of which nothing stays if it fails. -/
def undoing (vm : Vm) : Except VmError Unit × Vm → Except VmError Unit × Vm
  | (.ok (), after) => (.ok (), after)
  | (.error e, after) => (.error e, after.undo vm)

section Undoing

variable {m : Unit → Push Unit} {ok : Vm → Prop} {n : Nat} (h : Ends (fun _ => True) vm ok ((m ()).on vm))
include h

theorem Ends.undoing_ok (hp : vm.undoing ((Push.reserve n >>= m).on vm) = (.ok (), vm₁)) :
    vm₁.refusals = vm.refusals ∧ ok vm₁ := by
  have h := Ends.after_reserve n h
  rcases hr : (Push.reserve n >>= m).on vm with ⟨_ | _, vm₂⟩
  · rw [hr] at hp
    cases hp
  · rw [hr] at hp h
    cases hp
    exact h

theorem Ends.undoing_error {e : VmError} (hp : vm.undoing ((Push.reserve n >>= m).on vm) = (.error e, vm₁)) :
    vm₁ = vm.refuse e.refusals := by
  have h := Ends.after_reserve n h
  rcases hr : (Push.reserve n >>= m).on vm with ⟨_ | _, vm₂⟩
  · rw [hr] at hp h
    cases hp
    obtain ⟨hrefusals, slots, hs⟩ := h
    exact undo_of_grows hs hrefusals
  · rw [hr] at hp
    cases hp

end Undoing

/-! ## Pushing one datum -/

theorem push_eq (vm : Vm) (d : Datum) :
    vm.push d = vm.undoing ((Push.reserve 1 >>= fun _ => pushDatum d).on vm) := rfl

/-- Pushing that succeeds puts what stands for the datum on the stack. -/
theorem push_ok {d : Datum} (hp : vm.push d = (.ok (), vm₁)) : IsPushed d vm vm₁ ∧ vm₁.refusals = vm.refusals :=
  ((pushDatum_ends d vm).undoing_ok ((push_eq vm d).symm.trans hp)).symm

/-- Pushing that fails changes nothing, unless room was refused. -/
theorem push_error {d : Datum} {e : VmError} (hp : vm.push d = (.error e, vm₁)) : vm₁ = vm.refuse e.refusals :=
  (pushDatum_ends d vm).undoing_error ((push_eq vm d).symm.trans hp)

end Vm

end PluginHost.Lua
