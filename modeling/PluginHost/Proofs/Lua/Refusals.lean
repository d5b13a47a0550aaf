import PluginHost.Proofs.Lua.Lifetime

/-!
# After a refusal

An interpreter that has refused room once has a little more of it from then on. An operation that is refused nothing does
not notice (`Steady`): it goes the same way, whatever was refused before. Nor does any operation notice further refusals
once there was one, as there is as much room as there will be. `LuaPlugin.after_refused` says so of all that is asked of a
plugin.
-/

namespace PluginHost

namespace Lua

namespace Vm

variable {α β : Type} {vm vm₁ : Vm} {n : Nat}

/-- Whether an operation goes the same way if more was refused before: one that is refused no room, or any if some was
refused before anyway. -/
structure Steady (m : Vm → α × Vm) (vm : Vm) : Prop where
  le : vm.refusals ≤ (m vm).2.refusals
  refused : (m vm).2.refusals = vm.refusals ∨ vm.hasOverflowed → ∀ n, m (vm.refuse n) = ((m vm).1, (m vm).2.refuse n)

theorem hasOverflowed_iff : vm.hasOverflowed ↔ 0 < vm.refusals := decide_eq_true_iff

theorem hasOverflowed_mono (hle : vm.refusals ≤ vm₁.refusals) (h : vm.hasOverflowed) : vm₁.hasOverflowed :=
  hasOverflowed_iff.2 (Nat.lt_of_lt_of_le (hasOverflowed_iff.1 h) hle)

namespace Steady

/-- What does not ask for room. -/
theorem of_eq {m : Vm → α × Vm} (hr : (m vm).2.refusals = vm.refusals)
    (hm : ∀ n, m (vm.refuse n) = ((m vm).1, (m vm).2.refuse n)) : Steady m vm :=
  ⟨hr.ge, fun _ => hm⟩

/-- What does the same as something else that is steady. -/
theorem congr {m m' : Vm → α × Vm} (h : Steady m' vm) (hm : m vm = m' vm)
    (hn : ∀ n, m (vm.refuse n) = m' (vm.refuse n)) : Steady m vm := by
  refine ⟨hm ▸ h.le, fun hr n => ?_⟩
  rw [hn, hm]
  exact h.refused (hm ▸ hr) n

theorem pure (a : α) (vm : Vm) : Steady (Pure.pure a : StateM Vm α) vm := of_eq rfl fun _ => rfl

/-- One operation that goes on with another where the first leaves off. -/
theorem next {m : Vm → α × Vm} {k g : Vm → β × Vm} {a : α} (hm : Steady m vm) (h : m vm = (a, vm₁)) (hg : Steady g vm₁)
    (hk : ∀ n vm₁, m (vm.refuse n) = (a, vm₁) → k (vm.refuse n) = g vm₁) : Steady k vm := by
  obtain ⟨hle, hrefused⟩ := hm
  have hvm : k vm = g vm₁ := hk 0 vm₁ h
  rw [h] at hle hrefused
  refine ⟨?_, fun hr n => ?_⟩
  · rw [hvm]
    exact hle.trans hg.le
  · rw [hvm] at hr ⊢
    have hm₁ : vm₁.refusals = vm.refusals ∨ vm.hasOverflowed :=
      hr.imp_left fun hr => Nat.le_antisymm (hg.le.trans hr.le) hle
    have hg₁ : (g vm₁).2.refusals = vm₁.refusals ∨ vm₁.hasOverflowed :=
      hr.imp (fun hr => Nat.le_antisymm (hr.le.trans hle) hg.le) (hasOverflowed_mono hle)
    rw [hk n _ (hrefused hm₁ n)]
    exact hg.refused hg₁ n

theorem bind {m : StateM Vm α} {f : α → StateM Vm β} (hm : Steady m vm) (hf : ∀ a vm, Steady (f a) vm) :
    Steady (m >>= f) vm := by
  refine hm.next rfl (hf (m vm).1 (m vm).2) fun n vm₁ h => ?_
  show f (m (vm.refuse n)).1 (m (vm.refuse n)).2 = _
  rw [h]

/-- A change of the interpreter that does not ask for room. -/
theorem change {f : Vm → Vm} (a : α) (hf : (f vm).refusals = vm.refusals)
    (hc : ∀ n, f (vm.refuse n) = (f vm).refuse n) : Steady (fun vm => (a, f vm)) vm :=
  of_eq hf fun n => congrArg (a, ·) (hc n)

end Steady

/-! ## Slots -/

theorem refuse_resize (vm : Vm) (k n : Nat) : (vm.refuse n).resize k = (vm.resize k).refuse n := by
  unfold resize
  show (if k ≤ vm.stack.size then _ else _) = _
  split <;> rfl

theorem refuse_discard (vm : Vm) (k : Int32) (n : Nat) : (vm.refuse n).discard k = (vm.discard k).refuse n := by
  have htop : (vm.refuse n).top = vm.top := rfl
  simp only [discard, htop]
  split <;> rfl

/-- Room that is granted is also granted after a refusal. -/
theorem reserve_refuse {k : Int32} (hr : vm.reserve k = (true, vm)) (n : Nat) :
    (vm.refuse n).reserve k = (true, vm.refuse n) := by
  have hover : vm.hasOverflowed → (vm.refuse n).hasOverflowed := hasOverflowed_mono (Nat.le_add_right _ n)
  have hlimit : (if vm.hasOverflowed then maxHeightAfterRefusal else maxHeight) ≤
      if (vm.refuse n).hasOverflowed then maxHeightAfterRefusal else maxHeight := by
    by_cases h : vm.hasOverflowed
    · rw [if_pos h, if_pos (hover h)]
    · rw [if_neg h]
      split <;> decide
  have htop : (vm.refuse n).top = vm.top := rfl
  unfold reserve at hr ⊢
  dsimp only at hr ⊢
  by_cases hle : vm.top + k.toInt ≤ (if vm.hasOverflowed then maxHeightAfterRefusal else maxHeight : Nat)
  · exact if_pos (by omega)
  · rw [if_neg hle] at hr
    cases congrArg Prod.fst hr

/-- Room that is refused after a refusal is refused after more of them. -/
theorem reserve_of_hasOverflowed {k : Int32} (hover : vm.hasOverflowed) (hr : vm.reserve k = (false, vm₁)) (n : Nat) :
    (vm.refuse n).reserve k = (false, (vm.refuse n).refuse 1) := by
  have hmore : (vm.refuse n).hasOverflowed := hasOverflowed_mono (Nat.le_add_right _ n) hover
  have htop : (vm.refuse n).top = vm.top := rfl
  unfold reserve at hr ⊢
  rw [if_pos hover] at hr
  rw [if_pos hmore, htop]
  dsimp only at hr ⊢
  split at hr
  · cases hr
  · next hle => exact if_neg hle

/-- What is done if room is granted, and what is answered if it is not. -/
theorem Steady.of_reserve {m : Vm → α × Vm} {k : Int32} {a : α} (hgranted : vm.reserve k = (true, vm) → Steady m vm)
    (hrefused : ∀ n, (vm.refuse n).reserve k = (false, (vm.refuse n).refuse 1) → m (vm.refuse n) =
      (a, (vm.refuse n).refuse 1)) : Steady m vm := by
  rcases reserve_cases vm k with hr | hr
  · exact hgranted hr
  · have hm : m vm = (a, vm.refuse 1) := hrefused 0 hr
    have hone : (m vm).2.refusals = vm.refusals + 1 := congrArg (fun r => r.2.refusals) hm
    refine ⟨by omega, fun h n => ?_⟩
    have hover : vm.hasOverflowed := h.resolve_left (by omega)
    rw [hrefused n (reserve_of_hasOverflowed hover hr n), hm, refuse_refuse, refuse_refuse, Nat.add_comm n 1]

/-! ## Pushing -/

theorem Steady.on_bind {m : Push Unit} {f : Unit → Push Unit} (hm : Steady m.on vm) (hf : ∀ vm, Steady (f ()).on vm) :
    Steady (m >>= f).on vm := by
  refine Steady.bind (m := m.run) (f := ExceptT.bindCont f) hm fun r vm => ?_
  cases r with
  | error e => exact .pure _ vm
  | ok => exact hf vm

theorem Steady.on_pure (vm : Vm) : Steady (Pure.pure () : Push Unit).on vm := .pure _ vm

theorem steady_reserve (k : Nat) (vm : Vm) : Steady (Push.reserve k).on vm := by
  refine .of_reserve (k := Int32.ofNat k) (a := .error .stackOverflow) (fun hr => ?_) fun _ hr => on_reserve hr
  exact .of_eq (congrArg (fun r => r.2.refusals) (on_reserve hr))
    fun n => by rw [on_reserve hr, on_reserve (reserve_refuse hr n)]

theorem steady_setItem (place : Nat) (vm : Vm) : Steady (Push.setItem place).on vm := by
  refine Steady.change (Except.ok () : Except VmError Unit) ?_ fun n => ?_
  · dsimp only
    split <;> rfl
  · dsimp only [refuse, touch, top]
    split <;> rfl

theorem steady_setEntry (vm : Vm) : Steady Push.setEntry.on vm := by
  refine Steady.change (Except.ok () : Except VmError Unit) ?_ fun n => ?_
  · dsimp only
    split
    · split <;> rfl
    · rfl
  · dsimp only [refuse, touch, top]
    split
    · split <;> rfl
    · rfl

mutual

theorem pushDatum_steady : ∀ (d : Datum) (vm : Vm), Steady (pushDatum d).on vm
  | .int n, vm => by
    rw [pushDatum]
    split
    · exact .of_eq rfl fun _ => rfl
    · exact .of_eq rfl fun _ => rfl
  | .f32 _, vm | .f64 _, vm | .bool _, vm | .str _, vm | .unit, vm | .none, vm => by
    rw [pushDatum]
    exact .of_eq rfl fun _ => rfl
  | .some d, vm => by
    rw [pushDatum]
    exact pushDatum_steady d vm
  | .list ds, vm => by
    rw [pushDatum]
    exact .on_bind (.of_eq rfl fun _ => rfl) (pushItems_steady 1 ds)
  | .map es, vm => by
    rw [pushDatum]
    exact .on_bind (.of_eq rfl fun _ => rfl) (pushEntries_steady es)

theorem pushItems_steady : ∀ (place : Nat) (ds : List Datum) (vm : Vm), Steady (pushItems place ds).on vm
  | _, [], vm => by
    rw [pushItems]
    exact .on_pure vm
  | place, d :: ds, vm => by
    rw [pushItems]
    exact .on_bind (steady_reserve 1 vm) fun vm => .on_bind (pushDatum_steady d vm) fun vm =>
      .on_bind (steady_setItem place vm) (pushItems_steady (place + 1) ds)

theorem pushEntries_steady : ∀ (es : List (Datum × Datum)) (vm : Vm), Steady (pushEntries es).on vm
  | [], vm => by
    rw [pushEntries]
    exact .on_pure vm
  | (k, v) :: es, vm => by
    rw [pushEntries]
    exact .on_bind (steady_reserve 2 vm) fun vm => .on_bind (pushDatum_steady k vm) fun vm =>
      .on_bind (pushDatum_steady v vm) fun vm => .on_bind (steady_setEntry vm) (pushEntries_steady es)

end

theorem pushArgs_steady (ds : List Datum) : ∀ vm : Vm, Steady (pushArgs ds).on vm := by
  induction ds with
  | nil => exact .on_pure
  | cons d ds ih => exact fun vm => .on_bind (pushDatum_steady d vm) ih

theorem refuse_undo (after before : Vm) (n : Nat) :
    (after.refuse n).undo (before.refuse n) = (after.undo before).refuse n :=
  refuse_resize { after with heap := after.heap.dropTables before.heap.tables.size } before.top n

theorem Steady.undoing {m : Push Unit} (hm : Steady m.on vm) : Steady (fun vm => vm.undoing (m.on vm)) vm := by
  have hsame : (vm.undoing (m.on vm)).2.refusals = (m.on vm).2.refusals := by
    rcases m.on vm with ⟨_ | _, after⟩
    · exact refusals_resize _ _
    · rfl
  refine ⟨hm.le.trans hsame.ge, fun h n => ?_⟩
  rw [hm.refused (h.imp_left hsame.symm.trans) n]
  rcases m.on vm with ⟨e | _, after⟩
  · exact congrArg (Prod.mk (Except.error e)) (refuse_undo after vm n)
  · rfl

theorem push_steady (d : Datum) (vm : Vm) : Steady (push · d) vm :=
  .undoing (.on_bind (steady_reserve 1 vm) (pushDatum_steady d))

theorem pushAll_steady (ds : List Datum) (vm : Vm) : Steady (pushAll · ds) vm :=
  .undoing (.on_bind (steady_reserve ds.length vm) (pushArgs_steady ds))

/-! ## Reading -/

theorem readScalar_steady (t : Ty) (vm : Vm) : Steady (readScalar t) vm := .of_eq rfl fun _ => rfl

theorem walkEntries_steady {readKey readValue : Read} (hk : ∀ vm, Steady readKey vm) (hv : ∀ vm, Steady readValue vm)
    (height : Nat) (es : List (Key × Value)) : ∀ vm, Steady (walkEntries readKey readValue height es) vm := by
  induction es with
  | nil => exact .pure _
  | cons e es ih =>
    intro vm
    refine .bind (.change () rfl fun _ => rfl) fun _ vm => .bind (hv vm) fun value vm =>
      .bind (.change () (refusals_discard vm 1) (refuse_discard vm 1)) fun _ vm => .bind (hk vm) fun key vm => ?_
    split
    · exact .bind (.change () rfl fun _ => rfl) fun _ vm => .bind (ih vm) fun _ => .pure _
    · exact .bind (.change () (refusals_resize vm height) (refuse_resize vm height)) fun _ => .pure _

theorem readEntries_steady {readKey readValue : Read} (hk : ∀ vm, Steady readKey vm) (hv : ∀ vm, Steady readValue vm)
    (vm : Vm) : Steady (readEntries readKey readValue) vm := by
  by_cases hx : ∃ id, vm.topValue? = some (.table id)
  · obtain ⟨id, hx⟩ := hx
    have hx : ∀ n, (vm.refuse n).topValue? = some (.table id) := fun _ => hx
    refine .of_reserve (k := 2) (a := none) (fun hr => ?_) fun n hr => run_readEntries_table (hx n) hr
    exact .congr (walkEntries_steady hk hv vm.top (vm.traversal.entries vm.heap id) vm)
      (run_readEntries_table (hx 0) hr) fun n => run_readEntries_table (hx n) (reserve_refuse hr n)
  · have hx : ∀ n id, (vm.refuse n).topValue? ≠ some (.table id) := fun n id h => hx ⟨id, h⟩
    exact .congr (.pure none vm) (run_readEntries_other (hx 0)) fun n => run_readEntries_other (hx n)

theorem readTop_steady : ∀ (t : Ty) (vm : Vm), Steady (readTop t) vm
  | .int t, vm => readScalar_steady (.int t) vm
  | .f32, vm => readScalar_steady .f32 vm
  | .f64, vm => readScalar_steady .f64 vm
  | .bool, vm => readScalar_steady .bool vm
  | .str, vm => readScalar_steady .str vm
  | .nil, vm => readScalar_steady .nil vm
  | .unit, vm | .tuple _, vm => .pure _ vm
  | .vec t, vm => .bind (readEntries_steady (readScalar_steady _) (readTop_steady t) vm) fun _ => .pure _
  | .map k v, vm => .bind (readEntries_steady (readTop_steady k) (readTop_steady v) vm) fun _ => .pure _
  | .opt t, vm => by
    have ih : Steady (do return (← readTop t).map .some : Read) vm := .bind (readTop_steady t vm) fun _ => .pure _
    by_cases hx : vm.topValue? = some .nil
    · have hx : ∀ n, (vm.refuse n).topValue? = some .nil := fun _ => hx
      exact .congr (.pure (some Datum.none) vm) (run_readTop_opt_nil (hx 0)) fun n => run_readTop_opt_nil (hx n)
    · have hx : ∀ n, (vm.refuse n).topValue? ≠ some .nil := fun _ => hx
      exact .congr ih (run_readTop_opt (hx 0)) fun n => run_readTop_opt (hx n)

theorem readSlot_steady (i : Nat) (t : Ty) (vm : Vm) : Steady (readSlot i t) vm := by
  refine .of_reserve (k := 1) (a := none) (fun hr => ?_) fun _ hr => run_readSlot hr
  have hread : Steady (do
      modify (·.pushCopy i)
      let d ← readTop t
      modify (·.discard 1)
      return d : Read) vm :=
    .bind (.change () rfl fun _ => rfl) fun _ vm => .bind (readTop_steady t vm) fun d vm =>
      .bind (.change () (refusals_discard vm 1) (refuse_discard vm 1)) fun _ => .pure _
  exact .congr hread (run_readSlot hr) fun n => run_readSlot (reserve_refuse hr n)

theorem readSlots_steady (ts : List Ty) : ∀ (i : Nat) (vm : Vm), Steady (readSlots i ts) vm := by
  induction ts with
  | nil => exact fun _ => .pure _
  | cons t ts ih =>
    refine fun i vm => .bind (readSlot_steady i t vm) fun d vm => ?_
    cases d with
    | none => exact .pure _ vm
    | some d => exact .bind (ih (i + 1) vm) fun _ => .pure _

theorem readResults_steady (t : Ty) (vm : Vm) : Steady (readResults · t) vm := by
  cases t with
  | unit => exact .pure _ vm
  | tuple ts =>
    by_cases hlt : vm.top < ts.length
    · exact .congr (.pure none vm) (if_pos hlt) fun n => if_pos hlt
    · have hread : Steady (do return (← readSlots (vm.top - ts.length + 1) ts).map .list : Read) vm :=
        .bind (readSlots_steady ts _ vm) fun _ => .pure _
      exact .congr hread (readResults_tuple hlt) fun n => readResults_tuple hlt
  | _ => exact readTop_steady _ vm

theorem popAlways_steady (t : Ty) (vm : Vm) : Steady (popAlways · t) vm := by
  have hread := readTop_steady t vm
  rcases h : vm.read t with ⟨d, vm₁⟩
  have hdiscard : Steady (fun vm => (d, vm.discard 1)) vm₁ := .change d (refusals_discard vm₁ 1) (refuse_discard vm₁ 1)
  exact hread.next h hdiscard fun n vm₁ h => by rw [popAlways, show (vm.refuse n).read t = (d, vm₁) from h]

/-! ## Globals and calls -/

theorem lookUp_refuse (vm : Vm) (name : String) (n : Nat) :
    pushGlobal.lookUp (vm.refuse n) name = ((pushGlobal.lookUp vm name).1, (pushGlobal.lookUp vm name).2.refuse n) := by
  unfold pushGlobal.lookUp
  dsimp only [refuse]
  split <;> rfl

theorem refusals_lookUp (vm : Vm) (name : String) : (pushGlobal.lookUp vm name).2.refusals = vm.refusals := by
  obtain ⟨v, heap, hv⟩ := lookUp_eq vm name
  rw [hv]

theorem pushGlobal_of_refused {name : String} (hn : ¬name.toList.contains '\x00')
    (hr : vm.reserve 1 = (false, vm.refuse 1)) : vm.pushGlobal name = (false, vm.refuse 1) := by
  rw [pushGlobal, if_neg hn, hr]

theorem pushGlobal_steady (name : String) (vm : Vm) : Steady (pushGlobal · name) vm := by
  by_cases hn : name.toList.contains '\x00'
  · exact .congr (.pure false vm) (if_pos hn) fun n => if_pos hn
  · refine .of_reserve (k := 1) (a := false) (fun hr => ?_) fun _ hr => pushGlobal_of_refused hn hr
    have hlook : Steady (pushGlobal.lookUp · name) vm := .of_eq (refusals_lookUp vm name) (lookUp_refuse vm name)
    have hnil : ∀ n vm₁, pushGlobal.lookUp (vm.refuse n) name = (.nil, vm₁) →
        (vm.refuse n).pushGlobal name = (false, vm₁) := by
      intro n vm₁ h
      rw [pushGlobal, if_neg hn, reserve_refuse hr n]
      dsimp only
      rw [h]
      exact congrArg (false, ·) (discard_pushValue vm₁ .nil 0)
    have hsome : ∀ v, v ≠ .nil → ∀ n vm₁, pushGlobal.lookUp (vm.refuse n) name = (v, vm₁) →
        (vm.refuse n).pushGlobal name = (true, vm₁.pushValue v) := by
      intro v hv n vm₁ h
      rw [pushGlobal, if_neg hn, reserve_refuse hr n]
      dsimp only
      rw [h]
      cases v with
      | nil => exact absurd rfl hv
      | _ => rfl
    rcases h : pushGlobal.lookUp vm name with ⟨v, vm₁⟩
    by_cases hv : v = .nil
    · subst hv
      exact hlook.next h (.pure false vm₁) hnil
    · exact hlook.next h (.of_eq rfl fun _ => rfl) (hsome v hv)

theorem top_of_pushGlobal {name : String} (h : vm.pushGlobal name = (true, vm₁)) : vm₁.top = vm.top + 1 := by
  rcases vm.pushGlobal_cases name with hg | ⟨heap, ⟨hg, -⟩ | ⟨x, hg, -⟩⟩ <;> rw [hg] at h <;> cases h
  simp [top, pushValue]

theorem setGlobal_refuse (vm : Vm) (name : String) (n : Nat) :
    (vm.refuse n).setGlobal name = (vm.setGlobal name).refuse n := by
  unfold setGlobal
  split
  · exact refuse_discard vm 1 n
  · dsimp only [refuse, touch, topValue?]
    split <;> rfl

theorem refusals_setGlobal (vm : Vm) (name : String) : (vm.setGlobal name).refusals = vm.refusals := by
  unfold setGlobal
  split
  · exact refusals_discard vm 1
  · dsimp only
    split <;> rfl

theorem roomToStart_le (f : Value) : roomToStart f ≤ 20 := by
  cases f <;> simp [roomToStart]

/-- A call goes the same way as long as the stack is low: the room that a function needs to start is not asked for. -/
theorem protectedCall_steady (ht : vm.top + 20 ≤ maxHeight) (k j : Int32) : Steady (protectedCall · k j) vm := by
  have hlow : ∀ {top : Nat} {f : Value} {b : Bool}, top = vm.top → ¬(maxHeight < top + roomToStart f ∧ b) := by
    rintro _ f _ rfl
    have := roomToStart_le f
    omega
  have htop : ∀ m, (vm.touch m).top = vm.top := fun _ => rfl
  have hrefuse : ∀ m n, ((vm.refuse n).touch m).top = vm.top := fun _ _ => rfl
  refine .of_eq ?_ fun n => ?_
  · rw [protectedCall]
    dsimp only
    rw [if_neg (hlow (htop _))]
    split <;> rfl
  · rw [protectedCall, protectedCall]
    dsimp only
    rw [if_neg (hlow (hrefuse _ n)), if_neg (hlow (htop _))]
    dsimp only [refuse, touch, top]
    split <;> rfl

/-! ## What gives something is refused nothing -/

theorem readSlot_givesUp (i : Nat) (t : Ty) : GivesUp (readSlot i t) := by
  intro vm
  rcases reserve_cases vm 1 with hr | hr <;> rw [run_readSlot hr]
  · refine (readTop_givesUp t (vm.pushCopy i)).imp_left fun h => ?_
    exact (refusals_discard _ 1).trans h
  · exact .inr rfl

theorem readSlots_givesUp (ts : List Ty) : ∀ i, GivesUp (readSlots i ts) := by
  induction ts with
  | nil => exact fun _ _ => .inl rfl
  | cons t ts ih =>
    intro i vm
    rw [run_readSlots_cons]
    rcases hd : (readSlot i t).run vm with ⟨_ | d, vm₁⟩
    · exact .inr rfl
    · have hvm₁ := (readSlot_givesUp i t).refusals_eq hd
      refine (ih (i + 1) vm₁).imp (·.trans hvm₁) fun h => ?_
      show Option.map _ ((readSlots (i + 1) ts).run vm₁).1 = none
      rw [h]
      rfl

/-- Results that are read are read without a refusal. -/
theorem readResults_givesUp (t : Ty) : GivesUp (readResults · t : StateM Vm (Option Datum)) := by
  intro vm
  cases t with
  | unit => exact .inl rfl
  | tuple ts =>
    by_cases hlt : vm.top < ts.length
    · exact .inr (congrArg Prod.fst (if_pos hlt))
    · have hread : GivesUp (do return (← readSlots (vm.top - ts.length + 1) ts).map .list : StateM Vm (Option Datum)) :=
        (readSlots_givesUp ts _).map rfl
      show (vm.readResults (.tuple ts)).2.refusals = _ ∨ (vm.readResults (.tuple ts)).1 = none
      rw [readResults_tuple hlt]
      exact hread vm
  | _ => exact readTop_givesUp _ vm

theorem refusals_protectedCall (vm : Vm) (k j : Int32) : (vm.protectedCall k j).2.refusals = vm.refusals := by
  unfold protectedCall
  dsimp only
  split
  · rfl
  · split <;> rfl

theorem refusals_pushGlobal {name : String} (h : vm.pushGlobal name = (true, vm₁)) : vm₁.refusals = vm.refusals := by
  rcases vm.pushGlobal_cases name with hg | ⟨heap, ⟨hg, -⟩ | ⟨x, hg, -⟩⟩ <;> rw [hg] at h <;> cases h
  rfl

end Vm

namespace Captured

variable {vm : Vm} {args : List Datum}

/-- Cutting the stack after all is said. -/
theorem steady_resize {α : Type} (a : α) (base : Nat) (vm : Vm) : Vm.Steady (fun vm => (a, vm.resize base)) vm :=
  .change a (Vm.refusals_resize vm base) (Vm.refuse_resize vm base)

/-- What is done with the results of a function. -/
def finish (base : Nat) (result : Ty) (vm : Vm) : Except CallError Datum × Vm :=
  match vm.readResults result with
  | (some d, vm) => (.ok d, vm.resize base)
  | (none, vm) => (.error (.incorrectType "returned values do not match the requested types"), vm.resize base)

theorem finish_steady (base : Nat) (result : Ty) (vm : Vm) : Vm.Steady (finish base result) vm := by
  have hread := Vm.readResults_steady result vm
  rcases h : vm.readResults result with ⟨_ | d, vm₁⟩
  · exact hread.next h (steady_resize _ base vm₁) fun n vm₁ h => by rw [finish, h]
  · exact hread.next h (steady_resize _ base vm₁) fun n vm₁ h => by rw [finish, h]

/-- What is done once the arguments of a function are on the stack. -/
def proceed (base count : Nat) (result : Ty) (vm : Vm) : Except CallError Datum × Vm :=
  match vm.protectedCall (Int32.ofNat count) (Int32.ofNat (Vm.resultCount result)) with
  | (.error e, vm) => (.error (.unknown e.message), vm.resize base)
  | (.ok (), vm) => finish base result vm

theorem proceed_steady (base count : Nat) (result : Ty) (ht : vm.top + 20 ≤ Vm.maxHeight) :
    Vm.Steady (proceed base count result) vm := by
  have hcall := Vm.protectedCall_steady ht (Int32.ofNat count) (Int32.ofNat (Vm.resultCount result))
  rcases h : vm.protectedCall (Int32.ofNat count) (Int32.ofNat (Vm.resultCount result)) with ⟨e | ⟨⟩, vm₁⟩
  · exact hcall.next h (steady_resize _ base vm₁) fun n vm₁ h => by rw [proceed, h]
  · exact hcall.next h (finish_steady base result vm₁) fun n vm₁ h => by rw [proceed, h]

theorem run_steady (base : Nat) (ht : vm.top + args.length + 20 ≤ Vm.maxHeight) (result : Ty) :
    Vm.Steady (run base · args result) vm := by
  have hpush := Vm.pushAll_steady args vm
  rcases h : vm.pushAll args with ⟨e | ⟨⟩, vm₁⟩
  · exact hpush.next h (steady_resize _ base vm₁) fun n vm₁ h => by rw [run, h]
  · obtain ⟨-, xs, hg, hxs⟩ := Vm.pushAll_ok h
    have htop : vm₁.top = vm.top + args.length := by
      rw [← length_of_representsItems hxs]
      simp [Vm.top, hg.stack]
    exact hpush.next h (proceed_steady base args.length result (by omega)) fun n vm₁ h => by rw [run, h]; rfl

theorem refusals_release (c : Captured) (vm : Vm) : (c.release vm).refusals = vm.refusals := by
  unfold release
  split
  · exact Vm.refusals_discard vm 1
  · rfl

theorem refuse_release (c : Captured) (vm : Vm) (n : Nat) : c.release (vm.refuse n) = (c.release vm).refuse n := by
  unfold release
  show (if _ then (vm.refuse n).discard 1 else vm.refuse n) = _
  rw [Vm.refuse_discard]
  exact (apply_ite (Vm.refuse · n) _ _ _).symm

theorem call_steady (c : Captured) (ht : vm.top + args.length + 20 ≤ Vm.maxHeight) (result : Ty) :
    Vm.Steady (c.call · args result) vm := by
  by_cases hv : c.isValid vm
  · have hv : ∀ n, c.isValid (vm.refuse n) := fun _ => hv
    exact .congr (run_steady (c.depth - 1) ht result) (call_of_isValid (hv 0) args result)
      fun n => call_of_isValid (hv n) args result
  · have hrelease := Vm.Steady.change (Except.error (CallError.unknown "invalid stack content") : Except CallError Datum)
      (refusals_release c vm) (refuse_release c vm)
    exact .congr hrelease (if_neg hv) fun n => if_neg hv

/-- A call that gives something was refused nothing. -/
theorem refusals_of_ok {c : Captured} {vm₁ : Vm} {result : Ty} {d : Datum}
    (h : c.call vm args result = (.ok d, vm₁)) : vm₁.refusals = vm.refusals := by
  by_cases hv : c.isValid vm
  · rw [call_of_isValid hv, run] at h
    split at h
    · cases h
    · next vm₂ hpush =>
      split at h
      · cases h
      · next vm₃ hcall =>
        have hvm₃ : vm₃.refusals = vm₂.refusals := by
          have := vm₂.refusals_protectedCall (Int32.ofNat args.length) (Int32.ofNat (Vm.resultCount result))
          rwa [hcall] at this
        split at h
        · next d' vm₄ hres =>
          cases h
          have hvm₄ : vm₄.refusals = vm₃.refusals := (Vm.readResults_givesUp result).refusals_eq hres
          rw [Vm.refusals_resize, hvm₄, hvm₃, (Vm.pushAll_ok hpush).1]
        · cases h
  · rw [call, if_neg hv] at h
    cases h

end Captured

end Lua

namespace LuaPlugin

open Lua

/-- A plugin whose interpreter has refused some more requests for room. -/
def refused (p : LuaPlugin) (n : Nat) : LuaPlugin := { p with vm := p.vm.refuse n }

variable {p : LuaPlugin} {f : Value}

/-- What a plugin answers to a request, and what becomes of it, with its interpreter apart. -/
def response (p : LuaPlugin) (r : Request) (w : World) (vm : Vm) : (Except CallError Datum × Path × Bool) × Vm :=
  let (answer, q) := (({ p with vm }.perform r).run w).1
  ((answer, q.path, q.isPending), q.vm)

theorem steady_output {α : Type} (a : α) (vm : Vm) : Vm.Steady (fun vm => (a, vm.takeOutput.2)) vm :=
  .change a rfl fun _ => rfl

theorem steady_cut {α : Type} (a : α) (height : Nat) (vm : Vm) :
    Vm.Steady (fun vm => (a, (vm.resize height).takeOutput.2)) vm := by
  refine .change a (Vm.refusals_resize vm height) fun n => ?_
  rw [Vm.refuse_resize]
  rfl

/-- What a call does with what is on top. -/
def callTop (p : LuaPlugin) (name : String) (args : List Datum) (result : Ty) (height : Nat) (vm : Vm) :
    (Except CallError Datum × Path × Bool) × Vm :=
  match Captured.fromTop? vm with
  | some f => (((f.call vm args result).1, p.path, p.isPending), ((f.call vm args result).2.resize height).takeOutput.2)
  | none => ((.error (.unknown ("symbol '" ++ name ++ "' is not a function")), p.path, p.isPending),
      (vm.resize height).takeOutput.2)

theorem callTop_steady (name : String) {args : List Datum} (result : Ty) (height : Nat) {vm : Vm}
    (ht : vm.top + args.length + 20 ≤ Vm.maxHeight) : Vm.Steady (p.callTop name args result height) vm := by
  cases hc : Captured.fromTop? vm with
  | none =>
    have hrun : ∀ n, p.callTop name args result height (vm.refuse n) = _ := fun n => by
      rw [callTop, show Captured.fromTop? (vm.refuse n) = none from hc]
    exact .congr (steady_cut _ height vm) (hrun 0) hrun
  | some c =>
    have hcall := c.call_steady ht result
    rcases h : c.call vm args result with ⟨answer, vm₁⟩
    refine hcall.next h (steady_cut (answer, p.path, p.isPending) height vm₁) fun n vm₁ h => ?_
    rw [callTop, show Captured.fromTop? (vm.refuse n) = some c from hc]
    dsimp only
    rw [h]

/-- What reading a global does with what is on top. -/
def readTop (p : LuaPlugin) (name : String) (t : Ty) (vm : Vm) : (Except CallError Datum × Path × Bool) × Vm :=
  (((vm.popAlways t).1.elim
    (.error (.incorrectType ("global '" ++ name ++ "' does not match the requested type"))) .ok, p.path, p.isPending),
    (vm.popAlways t).2.takeOutput.2)

theorem readTop_steady (name : String) (t : Ty) (vm : Vm) : Vm.Steady (p.readTop name t) vm := by
  have hpop := Vm.popAlways_steady t vm
  rcases h : vm.popAlways t with ⟨d, vm₁⟩
  exact hpop.next h (steady_output (d.elim
    (.error (.incorrectType ("global '" ++ name ++ "' does not match the requested type"))) .ok, p.path, p.isPending) vm₁)
    fun n vm h => by rw [readTop, h]

theorem response_global (name : String) (t : Ty) (w : World) (vm : Vm) : p.response (.global name t) w vm =
    match vm.pushGlobal name with
    | (false, vm) => ((.error (.symbolNotFound name), p.path, p.isPending), vm.takeOutput.2)
    | (true, vm) => p.readTop name t vm := by
  unfold response
  rw [perform, run_global]
  rcases vm.pushGlobal name with ⟨_ | _, vm⟩ <;> rfl

theorem response_setGlobal (name : String) (d : Datum) (w : World) (vm : Vm) : p.response (.setGlobal name d) w vm =
    match vm.push d with
    | (.error e, vm) => ((.error (.incorrectType
        ("global '" ++ name ++ "' cannot be converted to a Lua value: " ++ e.display)), p.path, p.isPending), vm)
    | (.ok (), vm) => ((.ok .unit, p.path, p.isPending), (vm.setGlobal name).takeOutput.2) := by
  have hrun := run_setGlobal { p with vm } name d w
  have hperform : (({ p with vm }.perform (.setGlobal name d)).run w).1 =
      ((({ p with vm }.setGlobal name d).run w).1.1.map fun () => .unit,
        (({ p with vm }.setGlobal name d).run w).1.2) := by
    unfold perform
    rfl
  unfold response
  rw [hperform, hrun]
  dsimp only
  rcases vm.push d with ⟨_ | _, vm⟩ <;> rfl

theorem response_call (name : String) (args : List Datum) (result : Ty) (ha hn) (w : World) (vm : Vm) :
    p.response (.call name args result ha hn) w vm = match vm.pushGlobal name with
    | (false, vm') => ((.error (.symbolNotFound name), p.path, p.isPending), vm'.takeOutput.2)
    | (true, vm') => p.callTop name args result vm.top vm' := by
  unfold response
  rw [perform, run_call]
  rcases vm.pushGlobal name with ⟨_ | _, vm'⟩
  · rfl
  · dsimp only [callTop]
    cases Captured.fromTop? vm' <;> rfl

theorem response_run (w : World) (vm : Vm) (hp : p.isPending) : p.response .run w vm =
    (((((vm.pushValue (vm.stack.getD 0 .nil)).protectedCall 0 0).1.mapError fun e => .unknown e.message).map fun () => .unit,
      p.path, false), (((vm.pushValue (vm.stack.getD 0 .nil)).protectedCall 0 0).2.resize 0).takeOutput.2) := by
  have hrun : (({ p with vm }.perform .run).run w).1 =
      ((({ p with vm }.run).run w).1.1.map fun () => .unit, (({ p with vm }.run).run w).1.2) := by
    unfold perform
    rfl
  unfold response
  rw [hrun, run_of_isPending (p := { p with vm }) hp]

theorem response_ran (w : World) (vm : Vm) (hp : ¬p.isPending) : p.response .run w vm =
    ((.error (.unknown "script has already been executed"), p.path, p.isPending), vm) := by
  have hrun : (({ p with vm }.perform .run).run w).1 =
      ((({ p with vm }.run).run w).1.1.map fun () => .unit, (({ p with vm }.run).run w).1.2) := by
    unfold perform
    rfl
  unfold response
  rw [hrun, run_of_not_isPending (p := { p with vm }) hp]
  rfl

theorem Holds.top_le (hf : p.Holds f) : p.vm.top ≤ 1 := by
  rw [Vm.top, hf]
  split <;> simp

/-- A plugin that is refused no room while it answers a request does not notice what was refused before. -/
theorem response_steady (hf : p.Holds f) (r : Request) (w : World) : Vm.Steady (p.response r w) p.vm := by
  have ht := hf.top_le
  cases r with
  | run =>
    by_cases hp : p.isPending
    · have hcall : Vm.Steady (Vm.protectedCall · 0 0) (p.vm.pushValue (p.vm.stack.getD 0 .nil)) := by
        refine Vm.protectedCall_steady ?_ 0 0
        simp only [Vm.top, Vm.pushValue, Array.size_push, Vm.maxHeight] at ht ⊢
        omega
      have hstart : Vm.Steady (fun vm => (vm.pushValue (vm.stack.getD 0 .nil)).protectedCall 0 0) p.vm :=
        ⟨hcall.le, hcall.refused⟩
      rcases h : (p.vm.pushValue (p.vm.stack.getD 0 .nil)).protectedCall 0 0 with ⟨answer, vm⟩
      have hcut := steady_cut ((answer.mapError fun e => CallError.unknown e.message).map fun () => Datum.unit, p.path, false)
        0 vm
      exact hstart.next h hcut fun n vm h => by rw [response_run w _ hp, h]
    · exact .congr (.pure _ p.vm) (response_ran w p.vm hp) fun n => response_ran w _ hp
  | call name args result ha hn =>
    have hpush := Vm.pushGlobal_steady name p.vm
    rcases h : p.vm.pushGlobal name with ⟨_ | _, vm⟩
    · exact hpush.next h (steady_output _ vm) fun n vm h => by rw [response_call, h]
    · have htop := Vm.top_of_pushGlobal h
      have hroom : vm.top + args.length + 20 ≤ Vm.maxHeight := by
        rw [Vm.maxHeight]
        omega
      exact hpush.next h (callTop_steady name result p.vm.top hroom) fun n vm h => by
        rw [response_call, h]
        rfl
  | global name t =>
    have hpush := Vm.pushGlobal_steady name p.vm
    rcases h : p.vm.pushGlobal name with ⟨_ | _, vm⟩
    · exact hpush.next h (steady_output _ vm) fun n vm h => by rw [response_global, h]
    · exact hpush.next h (readTop_steady name t vm) fun n vm h => by rw [response_global, h]
  | setGlobal name d =>
    have hpush := Vm.push_steady d p.vm
    rcases h : p.vm.push d with ⟨e | ⟨⟩, vm⟩
    · exact hpush.next h (.of_eq rfl fun _ => rfl) fun n vm h => by rw [response_setGlobal, h]
    · have hset : Vm.Steady (fun vm => (((.ok .unit : Except CallError Datum), p.path, p.isPending),
          (vm.setGlobal name).takeOutput.2)) vm :=
        .change _ (Vm.refusals_setGlobal vm name) fun n => congrArg (·.takeOutput.2) (Vm.setGlobal_refuse vm name n)
      exact hpush.next h hset fun n vm h => by rw [response_setGlobal, h]

theorem perform_refused (hf : p.Holds f) (r : Request) (w : World) :
    p.vm.refusals ≤ ((p.perform r).run w).1.2.vm.refusals ∧
    (((p.perform r).run w).1.2.vm.refusals = p.vm.refusals → ∀ n,
      (((p.refused n).perform r).run w).1 = (((p.perform r).run w).1.1, ((p.perform r).run w).1.2.refused n)) := by
  have hsteady := response_steady hf r w
  refine ⟨hsteady.le, fun h n => ?_⟩
  exact congrArg (fun x => (x.1.1, LuaPlugin.mk x.2 x.1.2.1 x.1.2.2)) (hsteady.refused (.inl h) n)

/-- What a plugin answers to requests. -/
def answers (p : LuaPlugin) : List (Request × World) → List (Except CallError Datum)
  | [] => []
  | (r, w) :: rs => ((p.perform r).run w).1.1 :: answers ((p.perform r).run w).1.2 rs

/-- A plugin that was refused room before answers as one that was not, as long as that is refused none. -/
theorem after_refused (rs : List (Request × World)) : ∀ {p : LuaPlugin}, p.Holds f →
    p.vm.refusals ≤ (p.after rs).vm.refusals ∧
    ((p.after rs).vm.refusals = p.vm.refusals → ∀ n, (p.refused n).answers rs = p.answers rs ∧
      (p.refused n).after rs = (p.after rs).refused n) := by
  induction rs with
  | nil => exact fun _ => ⟨Nat.le_refl _, fun _ _ => ⟨rfl, rfl⟩⟩
  | cons e rs ih =>
    obtain ⟨r, w⟩ := e
    intro p hf
    obtain ⟨hle, hstep⟩ := perform_refused hf r w
    obtain ⟨hle', hrun⟩ := ih (holds_perform hf r w).1
    refine ⟨hle.trans hle', fun h n => ?_⟩
    have h₁ : ((p.perform r).run w).1.2.vm.refusals = p.vm.refusals := Nat.le_antisymm (hle'.trans h.le) hle
    have hstep := hstep h₁ n
    obtain ⟨hanswers, hafter⟩ := hrun (h.trans h₁.symm) n
    rw [answers, answers, after, hstep]
    exact ⟨congrArg (_ :: ·) hanswers, hafter⟩

/-! ## Requests that are answered -/

/-- A request that is answered is refused nothing. -/
theorem refusals_of_ok {r : Request} {w : World} {d : Datum} (h : ((p.perform r).run w).1.1 = .ok d) :
    ((p.perform r).run w).1.2.vm.refusals = p.vm.refusals := by
  have h : (p.response r w p.vm).1.1 = .ok d := h
  show (p.response r w p.vm).2.refusals = p.vm.refusals
  cases r with
  | run =>
    by_cases hp : p.isPending
    · rw [response_run w _ hp]
      exact (Vm.refusals_resize _ 0).trans (Vm.refusals_protectedCall _ 0 0)
    · rw [response_ran w _ hp]
  | call name args result =>
    rw [response_call] at h ⊢
    rcases hg : p.vm.pushGlobal name with ⟨_ | _, vm⟩ <;> rw [hg] at h
    · cases h
    · rcases hc : Captured.fromTop? vm with _ | c <;> simp only [callTop, hc] at h ⊢
      · cases h
      · have hcall : c.call vm args result = (.ok d, (c.call vm args result).2) := Prod.ext h rfl
        exact (Vm.refusals_resize _ _).trans ((Captured.refusals_of_ok hcall).trans (Vm.refusals_pushGlobal hg))
  | global name t =>
    rw [response_global] at h ⊢
    rcases hg : p.vm.pushGlobal name with ⟨_ | _, vm⟩ <;> rw [hg] at h
    · cases h
    · rcases hd : vm.read t with ⟨_ | d', vm₁⟩ <;> simp only [readTop, Vm.popAlways, hd] at h ⊢
      · cases h
      · have hvm₁ : vm₁.refusals = vm.refusals := (Vm.readTop_givesUp t).refusals_eq hd
        exact (Vm.refusals_discard vm₁ 1).trans (hvm₁.trans (Vm.refusals_pushGlobal hg))
  | setGlobal name value =>
    rw [response_setGlobal] at h ⊢
    rcases hpush : p.vm.push value with ⟨e | ⟨⟩, vm⟩ <;> rw [hpush] at h
    · cases h
    · exact (Vm.refusals_setGlobal vm name).trans (Vm.push_ok hpush).2

/-- Requests that are all answered are refused nothing. -/
theorem refusals_after (rs : List (Request × World)) : ∀ {p : LuaPlugin}, (∀ answer ∈ p.answers rs, answer.isOk) →
    (p.after rs).vm.refusals = p.vm.refusals := by
  induction rs with
  | nil => exact fun _ => rfl
  | cons e rs ih =>
    intro p h
    obtain ⟨hstep, hrest⟩ := List.forall_mem_cons.1 h
    rcases ha : ((p.perform e.1).run e.2).1.1 with _ | d
    · rw [ha] at hstep
      cases hstep
    · exact (ih hrest).trans (refusals_of_ok ha)

end LuaPlugin

end PluginHost
