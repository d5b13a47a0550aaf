import PluginHost.Proofs.Lua.Optional

/-!
# Data survive the Lua stack

`pop_push`: what is pushed and then popped comes back, for data of all types without absent values inside. Tables keep
all of such a datum (`isDense_of_isPlain`), so it reads as itself.
-/

namespace PluginHost

/-- The types without absent values and tuples, the keys of whose maps are without floating point numbers. -/
def Ty.isPlain : Ty → Bool
  | .int _ | .f32 | .f64 | .bool | .str => true
  | .vec t => t.isPlain
  | .map k v => k.isPlain && k.isOrdered && v.isPlain
  | _ => false

/-- The types whose data come back from Lua: only the whole may be absent. -/
def Ty.comesBack : Ty → Bool
  | .opt t => t.isPlain
  | t => t.isPlain

namespace Lua

/-! ## Types without absent values -/

theorem isPushable_of_isPlain : ∀ {t : Ty}, t.isPlain → t.isPushable
  | .int _, _ | .f32, _ | .f64, _ | .bool, _ | .str, _ => rfl
  | .vec t, ht => isPushable_of_isPlain (t := t) ht
  | .map k v, ht => by
    simp only [Ty.isPlain, Ty.isPushable, Bool.and_eq_true] at ht ⊢
    exact ⟨⟨isPushable_of_isPlain ht.1.1, ht.1.2⟩, isPushable_of_isPlain ht.2⟩

/-- Nothing is absent in the data of a plain type. -/
theorem isDense_of_isPlain : ∀ {t : Ty} {d : Datum}, t.isPlain → d.hasType t →
    d.isAbsent = false ∧ d.isDense ∧ d.keysPresent
  | .int _, d, _, hd => by
    obtain ⟨n, rfl, -⟩ := Datum.hasType_int_iff.1 hd
    exact ⟨rfl, rfl, rfl⟩
  | .f32, d, _, hd => by
    obtain ⟨y, rfl⟩ := Datum.hasType_f32_iff.1 hd
    exact ⟨rfl, rfl, rfl⟩
  | .f64, d, _, hd => by
    obtain ⟨y, rfl⟩ := Datum.hasType_f64_iff.1 hd
    exact ⟨rfl, rfl, rfl⟩
  | .bool, d, _, hd => by
    obtain ⟨b, rfl⟩ := Datum.hasType_bool_iff.1 hd
    exact ⟨rfl, rfl, rfl⟩
  | .str, d, _, hd => by
    obtain ⟨s, rfl⟩ := Datum.hasType_str_iff.1 hd
    exact ⟨rfl, rfl, rfl⟩
  | .vec t, d, ht, hd => by
    obtain ⟨ds, rfl, hds⟩ := Datum.hasType_vec_iff.1 hd
    have hitems : ∀ e ∈ ds, e.isAbsent = false ∧ e.isDense ∧ e.keysPresent := fun e he =>
      isDense_of_isPlain (t := t) ht (hds e he)
    refine ⟨rfl, ?_, Datum.areKeysPresent_iff.2 fun e he => (hitems e he).2.2⟩
    rw [Datum.isDense, Datum.areDense_eq, List.all_eq_true]
    exact fun e he => by simp [hitems e he]
  | .map k v, d, ht, hd => by
    simp only [Ty.isPlain, Bool.and_eq_true] at ht
    obtain ⟨es, rfl, hes⟩ := Datum.hasType_map_iff.1 hd
    have hkeys : ∀ e ∈ es, e.1.isAbsent = false ∧ e.1.isDense ∧ e.1.keysPresent := fun e he =>
      isDense_of_isPlain ht.1.1 (hes e he).1
    have hvalues : ∀ e ∈ es, e.2.isAbsent = false ∧ e.2.isDense ∧ e.2.keysPresent := fun e he =>
      isDense_of_isPlain ht.2 (hes e he).2
    refine ⟨rfl, ?_, Datum.haveKeysPresent_iff.2 fun e he => ⟨(hkeys e he).1, (hkeys e he).2.2, (hvalues e he).2.2⟩⟩
    rw [Datum.isDense, Datum.haveDense_eq, List.all_eq_true]
    exact fun e he => by simp [hkeys e he, hvalues e he]

/-- Whether what stands for data of a type reads as them, and is never nothing. -/
def ReadsBack (h : Heap) (t : Ty) (f : Value → Option Datum) : Prop :=
  ∀ ⦃lo : Nat⦄ ⦃d : Datum⦄ ⦃x : Value⦄, d.hasType t → d.IsValue → Represents lo h d x →
    f x = some d.sorted ∧ x ≠ .nil

/-- What stands for a datum without absent parts reads as the datum, however tables are traversed. -/
theorem valueAs_of_represents {h : Heap} {o : Traversal} {t : Ty} (ht : t.isPlain) : ReadsBack h t (Vm.valueAs h o t) := by
  intro lo d x hd hv hr
  obtain ⟨ha, hdense, hkeys⟩ := isDense_of_isPlain ht hd
  have hkept := Datum.kept_of_isDense hdense
  have hread := valueAs_readsKept (o := o) (isPushable_of_isPlain ht) hd hv hkeys (hkept.symm ▸ hv) hr
  rw [hkept, if_pos hdense] at hread
  exact ⟨hread, Value.isNil_eq_false_iff.1 ((isNil_of_represents hr).trans ha)⟩

/-! ## The round trip -/

theorem refusals_pop (vm : Vm) (t : Ty) : (vm.pop t).2.refusals = (vm.read t).2.refusals := by
  rw [Vm.pop]
  rcases vm.read t with ⟨_ | _, vm₁⟩
  · rfl
  · exact Vm.refusals_discard vm₁ 1

/-- Popping what reads as a datum. -/
theorem pop_pushValue {vm : Vm} {x : Value} {t : Ty} {d : Datum} (hd : Vm.valueAs vm.heap vm.traversal t x = some d)
    (hr : ((vm.pushValue x).pop t).2.refusals = vm.refusals) : (vm.pushValue x).pop t = (some d, vm) := by
  have hread := Vm.read_eq_valueAs (Vm.topValue?_pushValue vm x 0) t ((refusals_pop _ t).symm.trans hr)
  have hread : (vm.pushValue x).read t = (some d, vm.pushValue x) := hread.trans (congrArg (·, vm.pushValue x) hd)
  rw [Vm.pop, hread]
  exact congrArg (some d, ·) (Vm.discard_pushValue vm x 0)

/-- What is pushed comes back: after a push that succeeds, popping gives the datum, with its maps sorted, and leaves the
stack as it was before, as long as no request for room is refused. -/
theorem pop_push (vm after : Vm) (d : Datum) (t : Ty) (ht : t.comesBack) (hd : d.hasType t) (hv : d.IsValue)
    (hp : vm.push d = (.ok (), after)) (hr : (after.pop t).2.refusals = after.refusals) :
    after.pop t = (some d.sorted, { vm with heap := after.heap }) := by
  obtain ⟨⟨x, hg, hx⟩, hrefusals⟩ := Vm.push_ok hp
  have hafter := eq_pushValue_of_grows hg hrefusals
  have hread : Vm.valueAs after.heap vm.traversal t x = some d.sorted := by
    cases t with
    | opt t =>
      rcases Datum.hasType_opt_iff.1 hd with rfl | ⟨e, rfl, he⟩
      · obtain rfl : x = .nil := hx
        rfl
      · obtain ⟨h, hnil⟩ := valueAs_of_represents (o := vm.traversal) ht he hv hx
        rw [Vm.valueAs, h]
        · rfl
        · exact hnil
    | _ => exact (valueAs_of_represents ht hd hv hx).1
  rw [hafter] at hr ⊢
  exact pop_pushValue hread hr

/-- A map whose keys are sequences, not in their order. -/
def sampleMap : Datum := .map [(.list [.int 2], .str "b"), (.list [.int 1, .int 3], .str "a")]

/-- A map whose keys are sequences comes back in order. -/
theorem pop_push_sampleMap :
    (sampleVm.push sampleMap).2.pop (.map (.vec (.int .u8)) .str) =
      (some (.map [(.list [.int 1, .int 3], .str "a"), (.list [.int 2], .str "b")]),
        { sampleVm with heap := (sampleVm.push sampleMap).2.heap }) := by
  have hv : sampleMap.IsValue := by
    simp [sampleMap, Datum.IsValue, Datum.AreValues, Datum.HasValues, Datum.sortedParts, Datum.sorted,
      Datum.sortedItems]
  exact pop_push sampleVm (sampleVm.push sampleMap).2 sampleMap (.map (.vec (.int .u8)) .str) rfl rfl hv
    (Prod.ext rfl rfl) (by decide)

end Lua

end PluginHost
