import PluginHost.Script.LuaExchange

/-!
# Reading leaves the stack alone

A reader walks tables on the stack it shares with everything else. `readTop_reads` says that it leaves all as it was,
but for requests that were refused, and that without a refusal it gives what `valueAs` computes from the value alone.
With one it gives nothing (`readTop_givesUp`).
-/

namespace PluginHost.Lua

namespace Vm

variable {vm : Vm} {v : Value} {n : Nat}

/-! ## Slots that come and go -/

@[simp] theorem refuse_zero (vm : Vm) : vm.refuse 0 = vm := rfl

@[simp] theorem refuse_refuse (vm : Vm) (m n : Nat) : (vm.refuse m).refuse n = vm.refuse (m + n) := by
  simp [refuse, Nat.add_assoc]

@[simp] theorem dropSlots_pushValue (vm : Vm) (v : Value) (n : Nat) :
    ((vm.pushValue v).refuse n).dropSlots 1 = vm.refuse n := by
  simp [dropSlots, pushValue, refuse]

@[simp] theorem discard_pushValue (vm : Vm) (v : Value) (n : Nat) :
    ((vm.pushValue v).refuse n).discard 1 = vm.refuse n := by
  have h : (min (1 : Int32).toInt ((vm.pushValue v).refuse n).top).toNat = 1 := by
    have : (1 : Int32).toInt = 1 := by decide
    simp only [this, top, refuse, pushValue, Array.size_push]
    omega
  unfold discard
  simp only [h, if_pos (show 0 < min (1 : Int32).toInt ((vm.pushValue v).refuse n).top by omega)]
  exact dropSlots_pushValue vm v n

@[simp] theorem resize_pushValue (vm : Vm) (v : Value) (n : Nat) :
    ((vm.pushValue v).refuse n).resize vm.top = vm.refuse n := by
  have h : vm.top ≤ ((vm.pushValue v).refuse n).stack.size := by simp [pushValue, refuse, top]
  simp only [resize, h, if_pos]
  simp [pushValue, refuse, top]

@[simp] theorem refusals_resize (vm : Vm) (n : Nat) : (vm.resize n).refusals = vm.refusals := by
  unfold resize
  split <;> rfl

@[simp] theorem topValue?_pushValue (vm : Vm) (v : Value) (n : Nat) :
    ((vm.pushValue v).refuse n).topValue? = some v := by
  simp [topValue?, pushValue, refuse]

/-- A request is granted or noted as refused. -/
theorem reserve_cases (vm : Vm) (n : Int32) : vm.reserve n = (true, vm) ∨ vm.reserve n = (false, vm.refuse 1) := by
  unfold reserve
  by_cases h : vm.top + n.toInt ≤ (if vm.hasOverflowed then maxHeightAfterRefusal else maxHeight : Nat)
  · exact .inl (if_pos h)
  · exact .inr (if_neg h)

/-! ## What a value reads as -/

/-- Reads each entry. -/
def pairsAs (readKey readValue : Value → Option Datum) (es : List (Key × Value)) : Option (List (Datum × Datum)) :=
  es.mapM fun (e : Key × Value) => do return (← readKey e.1.toValue, ← readValue e.2)

theorem pairsAs_cons (readKey readValue : Value → Option Datum) (k : Key) (v : Value) (es : List (Key × Value)) :
    pairsAs readKey readValue ((k, v) :: es) = do
      let key ← readKey k.toValue
      let value ← readValue v
      let pairs ← pairsAs readKey readValue es
      return (key, value) :: pairs := by
  rw [pairsAs, List.mapM_cons]
  cases readKey k.toValue with
  | none => rfl
  | some _ => cases readValue v <;> rfl

/-- Reads the entries of a value, if it is a table. -/
def entriesAs (h : Heap) (o : Traversal) (readKey readValue : Value → Option Datum) :
    Value → Option (List (Datum × Datum))
  | .table id => pairsAs readKey readValue (o.entries h id)
  | _ => none

/-- What a value reads as while no request is refused. -/
def valueAs (h : Heap) (o : Traversal) : Ty → Value → Option Datum
  | .opt _, .nil => some .none
  | .opt t, x => (valueAs h o t x).map .some
  | .vec t, x => (entriesAs h o (scalar? (.int .i64)) (valueAs h o t) x).bind itemsOf?
  | .map k v, x => (entriesAs h o (valueAs h o k) (valueAs h o v) x).map Datum.mapOfEntries
  | .unit, _ | .tuple _, _ => none
  | t, x => scalar? t x

/-! ## Readers -/

/-- Reading the topmost slot changes nothing but the number of refusals and, if that stays, gives what a function of the
value in the slot gives. -/
def Reads (h : Heap) (o : Traversal) (m : Read) (f : Value → Option Datum) : Prop :=
  ∀ (vm : Vm) (x : Value), vm.heap = h → vm.traversal = o → vm.topValue? = some x →
    ∃ n, (m.run vm).2 = vm.refuse n ∧ (n = 0 → (m.run vm).1 = f x)

variable {h : Heap} {o : Traversal} {readKey readValue : Read} {key value : Value → Option Datum}

/-- An entry of which both parts read is followed by the others. -/
theorem walkEntries_some {height : Nat} {k : Key} {v : Value} {es : List (Key × Value)} {vm vm₁ vm₂ : Vm}
    {dk dv : Datum}
    (hv : readValue.run ((vm.pushValue k.toValue).pushValue v) = (some dv, vm₁))
    (hk : readKey.run (vm₁.discard 1) = (some dk, vm₂)) :
    (walkEntries readKey readValue height ((k, v) :: es)).run vm =
      let (pairs, vm₃) := (walkEntries readKey readValue height es).run (vm₂.dropSlots 1)
      (pairs.map ((dk, dv) :: ·), vm₃) := by
  simp only [walkEntries, StateT.run_bind, StateT.run_modify]
  dsimp only [pure, bind]
  rw [hv]
  dsimp only
  rw [hk]
  rfl

/-- An entry of which a part does not read ends the walk. -/
theorem walkEntries_none {height : Nat} {k : Key} {v : Value} {es : List (Key × Value)} {vm vm₁ vm₂ : Vm}
    {dk dv : Option Datum} (hv : readValue.run ((vm.pushValue k.toValue).pushValue v) = (dv, vm₁))
    (hk : readKey.run (vm₁.discard 1) = (dk, vm₂)) (hd : dk = none ∨ dv = none) :
    (walkEntries readKey readValue height ((k, v) :: es)).run vm = (none, vm₂.resize height) := by
  simp only [walkEntries, StateT.run_bind, StateT.run_modify]
  dsimp only [pure, bind]
  rw [hv]
  dsimp only
  rw [hk]
  rcases hd with rfl | rfl
  · rfl
  · cases dk <;> rfl

theorem walkEntries_reads (hk : Reads h o readKey key) (hv : Reads h o readValue value) (es : List (Key × Value)) :
    ∀ vm : Vm, vm.heap = h → vm.traversal = o →
      ∃ n, ((walkEntries readKey readValue vm.top es).run vm).2 = vm.refuse n ∧
        (n = 0 → ((walkEntries readKey readValue vm.top es).run vm).1 = pairsAs key value es) := by
  induction es with
  | nil => exact fun vm _ _ => ⟨0, rfl, fun _ => rfl⟩
  | cons e es ih =>
    obtain ⟨k, v⟩ := e
    intro vm hh ho
    obtain ⟨n₁, hs₁, hr₁⟩ := hv ((vm.pushValue k.toValue).pushValue v) v hh ho (topValue?_pushValue _ v 0)
    obtain ⟨n₂, hs₂, hr₂⟩ := hk ((vm.pushValue k.toValue).refuse n₁) k.toValue hh ho (topValue?_pushValue _ _ _)
    obtain ⟨n₃, hs₃, hr₃⟩ := ih (vm.refuse (n₁ + n₂)) hh ho
    rcases hrv : readValue.run ((vm.pushValue k.toValue).pushValue v) with ⟨value', vm₁⟩
    rw [hrv] at hs₁ hr₁
    obtain rfl : vm₁ = ((vm.pushValue k.toValue).pushValue v).refuse n₁ := hs₁
    rcases hrk : readKey.run ((vm.pushValue k.toValue).refuse n₁) with ⟨key', vm₂⟩
    rw [hrk] at hs₂ hr₂
    obtain rfl : vm₂ = ((vm.pushValue k.toValue).refuse n₁).refuse n₂ := hs₂
    have hrk' := (congrArg readKey.run (discard_pushValue (vm.pushValue k.toValue) v n₁)).trans hrk
    rw [refuse_refuse] at hrk'
    cases key' with
    | none =>
      rw [walkEntries_none hrv hrk' (.inl rfl)]
      refine ⟨n₁ + n₂, resize_pushValue _ _ _, fun hn => ?_⟩
      rw [pairsAs_cons, ← hr₂ (by omega)]
      rfl
    | some key' =>
      cases value' with
      | none =>
        rw [walkEntries_none hrv hrk' (.inr rfl)]
        refine ⟨n₁ + n₂, resize_pushValue _ _ _, fun hn => ?_⟩
        rw [pairsAs_cons, ← hr₁ (by omega), ← hr₂ (by omega)]
        rfl
      | some value' =>
        rw [walkEntries_some hrv hrk', dropSlots_pushValue]
        refine ⟨n₁ + n₂ + n₃, hs₃.trans (refuse_refuse _ _ _), fun hn => ?_⟩
        have hr₃ : ((walkEntries readKey readValue vm.top es).run (vm.refuse (n₁ + n₂))).1 = _ := hr₃ (by omega)
        show Option.map _ ((walkEntries readKey readValue vm.top es).run (vm.refuse (n₁ + n₂))).1 = _
        rw [pairsAs_cons, ← hr₁ (by omega), ← hr₂ (by omega), hr₃]
        cases pairsAs key value es <;> rfl

theorem run_readEntries_table {vm vm' : Vm} {id : Nat} {granted : Bool} (hx : vm.topValue? = some (.table id))
    (hr : vm.reserve 2 = (granted, vm')) :
    (readEntries readKey readValue).run vm =
      if granted then (walkEntries readKey readValue vm'.top (vm'.traversal.entries vm'.heap id)).run vm'
      else (none, vm') := by
  simp only [readEntries, StateT.run_bind, StateT.run_get, pure_bind, hx, StateT.run_set, hr]
  cases granted <;> rfl

theorem run_readEntries_other {vm : Vm} (hx : ∀ id, vm.topValue? ≠ some (.table id)) :
    (readEntries readKey readValue).run vm = (none, vm) := by
  simp only [readEntries, StateT.run_bind, StateT.run_get, pure_bind]
  rfl

/-- Reading a table entry by entry. -/
theorem readEntries_reads (hk : Reads h o readKey key) (hv : Reads h o readValue value) {vm : Vm} {x : Value}
    (hh : vm.heap = h) (ho : vm.traversal = o) (hx : vm.topValue? = some x) :
    ∃ n, ((readEntries readKey readValue).run vm).2 = vm.refuse n ∧
      (n = 0 → ((readEntries readKey readValue).run vm).1 = entriesAs h o key value x) := by
  cases x with
  | table id =>
    rcases reserve_cases vm 2 with hr | hr
    · rw [run_readEntries_table hx hr, hh, ho]
      exact walkEntries_reads hk hv (o.entries h id) vm hh ho
    · rw [run_readEntries_table hx hr]
      exact ⟨1, rfl, fun h => by cases h⟩
  | _ =>
    rw [run_readEntries_other (by simp [hx])]
    exact ⟨0, rfl, fun _ => rfl⟩

theorem readScalar_reads (t : Ty) : Reads h o (readScalar t) (scalar? t) := by
  intro vm x _ _ hx
  refine ⟨0, rfl, fun _ => ?_⟩
  show vm.topValue?.bind (scalar? t) = _
  rw [hx]
  rfl

/-- A reader whose result is worked on afterwards. -/
theorem Reads.map {α : Type} {m : StateM Vm α} {f : α → Option Datum} {g : Value → Option Datum} {r : Value → α}
    (hm : ∀ (vm : Vm) (x : Value), vm.heap = h → vm.traversal = o → vm.topValue? = some x →
      ∃ n, (m.run vm).2 = vm.refuse n ∧ (n = 0 → (m.run vm).1 = r x)) (hg : ∀ x, f (r x) = g x) :
    Reads h o (do return f (← m)) g := by
  intro vm x hh ho hx
  obtain ⟨n, hs, hr⟩ := hm vm x hh ho hx
  refine ⟨n, hs, fun hn => ?_⟩
  show f (m.run vm).1 = g x
  rw [hr hn, hg]

theorem run_readTop_opt_nil {t : Ty} {vm : Vm} (hx : vm.topValue? = some .nil) :
    (readTop (.opt t)).run vm = (some .none, vm) := by
  simp only [readTop, StateT.run_bind, StateT.run_get, pure_bind, hx]
  rfl

theorem run_readTop_opt {t : Ty} {vm : Vm} (hx : vm.topValue? ≠ some .nil) :
    (readTop (.opt t)).run vm = (do return (← readTop t).map .some : Read).run vm := by
  simp only [readTop, StateT.run_bind, StateT.run_get, pure_bind]

/-- Reading leaves the stack as it was and, unless a request is refused, gives what the value in the slot reads as. -/
theorem readTop_reads (h : Heap) (o : Traversal) : ∀ t : Ty, Reads h o (readTop t) (valueAs h o t)
  | .int t => readScalar_reads (.int t)
  | .f32 => readScalar_reads .f32
  | .f64 => readScalar_reads .f64
  | .bool => readScalar_reads .bool
  | .str => readScalar_reads .str
  | .nil => readScalar_reads .nil
  | .unit | .tuple _ => fun _ _ _ _ _ => ⟨0, rfl, fun _ => rfl⟩
  | .vec t => Reads.map (fun _ _ => readEntries_reads (readScalar_reads _) (readTop_reads h o t)) fun _ => rfl
  | .map k v => Reads.map (fun _ _ => readEntries_reads (readTop_reads h o k) (readTop_reads h o v)) fun _ => rfl
  | .opt t => by
    intro vm x hh ho hx
    have ih := Reads.map (f := Option.map Datum.some) (fun _ _ => readTop_reads h o t _ _) fun _ => rfl
    cases x with
    | nil =>
      rw [run_readTop_opt_nil hx]
      exact ⟨0, rfl, fun _ => rfl⟩
    | _ =>
      rw [run_readTop_opt (by simp [hx])]
      exact ih vm _ hh ho hx

/-- What reading the topmost slot gives while no request is refused. -/
theorem read_eq_valueAs {vm : Vm} {x : Value} (hx : vm.topValue? = some x) (t : Ty)
    (hr : (vm.read t).2.refusals = vm.refusals) : vm.read t = (valueAs vm.heap vm.traversal t x, vm) := by
  obtain ⟨n, hs, hv⟩ := readTop_reads vm.heap vm.traversal t vm x rfl rfl hx
  have hn : n = 0 := by
    have := congrArg Vm.refusals hs
    simp only [refuse] at this
    exact Nat.add_eq_left.1 (this.symm.trans hr)
  subst hn
  exact Prod.ext (hv rfl) hs

/-! ## Readers that are refused room -/

theorem refusals_discard (vm : Vm) (n : Int32) : (vm.discard n).refusals = vm.refusals := by
  simp only [discard]
  split <;> rfl

/-- Whether a reader gives nothing if it is refused room. -/
def GivesUp {α : Type} (m : StateM Vm (Option α)) : Prop :=
  ∀ vm : Vm, (m.run vm).2.refusals = vm.refusals ∨ (m.run vm).1 = none

theorem GivesUp.refusals_eq {α : Type} {m : StateM Vm (Option α)} {vm vm₁ : Vm} {a : α} (hm : GivesUp m)
    (hrun : m.run vm = (some a, vm₁)) : vm₁.refusals = vm.refusals := by
  rcases hm vm with h | h <;> rw [hrun] at h
  · exact h
  · cases h

theorem GivesUp.map {α β : Type} {m : StateM Vm (Option α)} (hm : GivesUp m) {f : Option α → Option β}
    (hf : f none = none) : GivesUp (do return f (← m)) := fun vm => (hm vm).imp_right fun h => (congrArg f h).trans hf

theorem walkEntries_givesUp (hk : GivesUp readKey) (hv : GivesUp readValue) (height : Nat) (es : List (Key × Value)) :
    GivesUp (walkEntries readKey readValue height es) := by
  induction es with
  | nil => exact fun _ => .inl rfl
  | cons e es ih =>
    obtain ⟨k, v⟩ := e
    intro vm
    rcases hrv : readValue.run ((vm.pushValue k.toValue).pushValue v) with ⟨value, vm₁⟩
    rcases hrk : readKey.run (vm₁.discard 1) with ⟨key, vm₂⟩
    cases key with
    | none =>
      rw [walkEntries_none hrv hrk (.inl rfl)]
      exact .inr rfl
    | some key =>
      cases value with
      | none =>
        rw [walkEntries_none hrv hrk (.inr rfl)]
        exact .inr rfl
      | some value =>
        have hvm₁ : vm₁.refusals = ((vm.pushValue k.toValue).pushValue v).refusals := hv.refusals_eq hrv
        have hvm₂ : vm₂.refusals = vm.refusals := (hk.refusals_eq hrk).trans ((refusals_discard vm₁ 1).trans hvm₁)
        rw [walkEntries_some hrv hrk]
        refine (ih (vm₂.dropSlots 1)).imp (·.trans hvm₂) fun h => ?_
        show Option.map _ ((walkEntries readKey readValue height es).run (vm₂.dropSlots 1)).1 = none
        rw [h]
        rfl

theorem readEntries_givesUp (hk : GivesUp readKey) (hv : GivesUp readValue) :
    GivesUp (readEntries readKey readValue) := by
  intro vm
  by_cases hx : ∃ id, vm.topValue? = some (.table id)
  · obtain ⟨id, hx⟩ := hx
    rcases reserve_cases vm 2 with hr | hr <;> rw [run_readEntries_table hx hr]
    · exact walkEntries_givesUp hk hv vm.top _ vm
    · exact .inr rfl
  · rw [run_readEntries_other fun id h => hx ⟨id, h⟩]
    exact .inr rfl

/-- A reading that is refused room gives nothing. -/
theorem readTop_givesUp : ∀ t : Ty, GivesUp (readTop t)
  | .int _ | .f32 | .f64 | .bool | .str | .nil | .unit | .tuple _ => fun _ => .inl rfl
  | .vec t => (readEntries_givesUp (fun _ => .inl rfl) (readTop_givesUp t)).map rfl
  | .map k v => (readEntries_givesUp (readTop_givesUp k) (readTop_givesUp v)).map rfl
  | .opt t => by
    intro vm
    have ih := GivesUp.map (f := Option.map Datum.some) (readTop_givesUp t) rfl
    by_cases hx : vm.topValue? = some .nil
    · left
      rw [run_readTop_opt_nil hx]
    · rw [run_readTop_opt hx]
      exact ih vm

end Vm

end PluginHost.Lua
