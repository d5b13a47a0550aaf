import PluginHost.Proofs.Lua.Decoding
import PluginHost.Proofs.Lua.Demands
import PluginHost.Proofs.Lua.Undisturbed

/-!
# What can be read

Whether a value reads as a type depends on the value, on what it refers to, and on the height of the stack:
`Readable` says how. The order in which tables are walked does not matter (`isSome_readTop_iff`), even where it matters
for what they read as.
-/

namespace PluginHost.Lua

/-- Whether a value reads as a type while the stack has a height. -/
def Readable (h : Heap) (limit : Nat) : Nat → Ty → Value → Prop
  | height, .opt t, x => x = .nil ∨ Readable h limit height t x
  | height, .vec t, x => ∃ id, x = .table id ∧ height + 2 ≤ limit ∧ (h.table id).IsSequence ∧
      ∀ e ∈ (h.table id).toEntries, Readable h limit (height + 2) t e.2
  | height, .map k v, x => ∃ id, x = .table id ∧ height + 2 ≤ limit ∧
      ∀ e ∈ (h.table id).toEntries, Readable h limit (height + 1) k e.1.toValue ∧ Readable h limit (height + 2) v e.2
  | _, t, x => (Vm.scalar? t x).isSome

theorem isSome_mapM_iff {α β : Type} {f : α → Option β} {as : List α} :
    (as.mapM f).isSome ↔ ∀ a ∈ as, (f a).isSome := by
  induction as with
  | nil => simp
  | cons a as ih =>
    rw [List.mapM_cons, List.forall_mem_cons, ← ih]
    cases f a with
    | none => simp
    | some b => cases as.mapM f <;> simp

theorem isSome_pairsAs_iff {key value : Value → Option Datum} {es : List (Key × Value)} :
    (Vm.pairsAs key value es).isSome ↔ ∀ e ∈ es, (key e.1.toValue).isSome ∧ (value e.2).isSome := by
  rw [Vm.pairsAs, isSome_mapM_iff]
  refine forall₂_congr fun e _ => ?_
  cases key e.1.toValue with
  | none => simp
  | some k => cases value e.2 <;> simp

/-- The keys of a sequence read as integers. -/
theorem Table.IsSequence.isSome_scalar? {t : Table} (ht : t.IsSequence) {e : Key × Value} (he : e ∈ t.toEntries) :
    (Vm.scalar? (.int .i64) e.1.toValue).isSome := by
  obtain ⟨i, -, hi⟩ := List.mem_map.1 (ht.mem_iff.1 (List.mem_map_of_mem he))
  rw [scalar?_place_iff.2 hi.symm]
  rfl

/-- Entries that read are a sequence as soon as their keys are. -/
theorem isSome_bind_itemsOf?_iff {value : Value → Option Datum} {t : Table} {es : List (Key × Value)}
    (hes : es.Perm t.toEntries) (hread : (Vm.pairsAs (Vm.scalar? (.int .i64)) value es).isSome) :
    ((Vm.pairsAs (Vm.scalar? (.int .i64)) value es).bind Vm.itemsOf?).isSome ↔ t.IsSequence := by
  rw [pairsAs_bind_itemsOf? hes]
  by_cases ht : t.IsSequence
  · rw [if_pos ht, Option.isSome_map, isSome_mapM_iff]
    refine iff_of_true (fun i hi => ?_) ht
    have he : (.atPosition i, t.get (.atPosition i)) ∈ es :=
      hes.mem_iff.2 (ht.perm.mem_iff.2 (List.mem_map_of_mem hi))
    exact (isSome_pairsAs_iff.1 hread _ he).2
  · rw [if_neg ht]
    exact iff_of_false nofun ht

namespace Vm

variable {vm vm₁ : Vm} {readKey readValue : Read}

/-- A reader that leaves everything as it was if it succeeds. -/
def Restores (m : Read) : Prop := ∀ {vm vm₁ : Vm} {d : Datum}, m.run vm = (some d, vm₁) → vm₁ = vm

theorem readScalar_restores (t : Ty) : Restores (readScalar t) := fun h => (congrArg Prod.snd h).symm

theorem readTop_restores (t : Ty) : Restores (readTop t) := by
  intro vm vm₁ d h
  obtain ⟨n, hn⟩ := readTop_refuses t vm
  have hrefusals := (readTop_givesUp t).refusals_eq h
  rw [h] at hn
  obtain rfl : vm₁ = vm.refuse n := hn
  obtain rfl : n = 0 := Nat.add_eq_left.1 hrefusals
  rfl

/-- A walk succeeds if all entries read from where it starts. -/
theorem isSome_walkEntries_iff (hk : Restores readKey) (hv : Restores readValue) (es : List (Key × Value)) (vm : Vm) :
    ((walkEntries readKey readValue vm.top es).run vm).1.isSome ↔ ∀ e ∈ es,
      (readKey.run (vm.pushValue e.1.toValue)).1.isSome ∧
      (readValue.run ((vm.pushValue e.1.toValue).pushValue e.2)).1.isSome := by
  induction es with
  | nil => exact iff_of_true rfl fun _ h => absurd h List.not_mem_nil
  | cons e es ih =>
    obtain ⟨k, v⟩ := e
    rw [List.forall_mem_cons, ← ih]
    rcases hrv : readValue.run ((vm.pushValue k.toValue).pushValue v) with ⟨_ | dv, vm₁⟩
    · rcases hrk : readKey.run (vm₁.discard 1) with ⟨dk, vm₂⟩
      rw [walkEntries_none hrv hrk (.inr rfl)]
      simp
    · obtain rfl := hv hrv
      have hdiscard : ((vm.pushValue k.toValue).pushValue v).discard 1 = vm.pushValue k.toValue :=
        discard_pushValue (vm.pushValue k.toValue) v 0
      rcases hrk : readKey.run (vm.pushValue k.toValue) with ⟨_ | dk, vm₂⟩ <;>
        have hrk' := (congrArg readKey.run hdiscard).trans hrk
      · rw [walkEntries_none hrv hrk' (.inl rfl)]
        simp
      · obtain rfl := hk hrk
        have hdrop : (vm.pushValue k.toValue).dropSlots 1 = vm := dropSlots_pushValue vm k.toValue 0
        rw [walkEntries_some hrv hrk', hdrop]
        show (Option.map _ ((walkEntries readKey readValue vm.top es).run vm).1).isSome ↔ _
        rw [Option.isSome_map]
        simp

/-- A table reads entry by entry if there is room and all entries read. -/
theorem isSome_readEntries_iff (hk : Restores readKey) (hv : Restores readValue) {id : Nat}
    (hx : vm.topValue? = some (.table id)) : ((readEntries readKey readValue).run vm).1.isSome ↔
      vm.top + 2 ≤ vm.limit ∧ ∀ e ∈ (vm.heap.table id).toEntries,
        (readKey.run (vm.pushValue e.1.toValue)).1.isSome ∧
        (readValue.run ((vm.pushValue e.1.toValue).pushValue e.2)).1.isSome := by
  have hreserve : vm.reserve 2 = _ := reserve_ofNat (n := 2) (by omega) vm
  by_cases hle : vm.top + 2 ≤ vm.limit
  · rw [if_pos hle] at hreserve
    rw [run_readEntries_table hx hreserve, if_pos rfl, isSome_walkEntries_iff hk hv]
    have hmem : ∀ e, e ∈ vm.traversal.entries vm.heap id ↔ e ∈ (vm.heap.table id).toEntries := fun e =>
      (vm.traversal.perm vm.heap id).mem_iff
    simp only [hmem, hle, true_and]
  · rw [if_neg hle] at hreserve
    rw [run_readEntries_table hx hreserve]
    exact iff_of_false Bool.false_ne_true fun h => hle h.1

/-- What the entries of a sequence read as, if they do. -/
theorem fst_readEntries {t : Ty} {id : Nat} (hx : vm.topValue? = some (.table id))
    (h : ((readEntries (readScalar (.int .i64)) (readTop t)).run vm).1.isSome) :
    ((readEntries (readScalar (.int .i64)) (readTop t)).run vm).1 =
      pairsAs (scalar? (.int .i64)) (valueAs vm.heap vm.traversal t) (vm.traversal.entries vm.heap id) := by
  have hscalar : GivesUp (readScalar (.int .i64)) := fun _ => .inl rfl
  obtain ⟨n, hn, hread⟩ :=
    readEntries_reads (readScalar_reads (.int .i64)) (readTop_reads vm.heap vm.traversal t) rfl rfl hx
  refine hread ?_
  rcases readEntries_givesUp hscalar (readTop_givesUp t) vm with hr | hnone
  · rw [hn] at hr
    exact Nat.add_eq_left.1 hr
  · rw [hnone] at h
    cases h

theorem isSome_readScalar_iff (t : Ty) {x : Value} (hx : vm.topValue? = some x) :
    ((readScalar t).run vm).1.isSome ↔ (scalar? t x).isSome := by
  show (vm.topValue?.bind (scalar? t)).isSome ↔ _
  rw [hx]
  rfl

theorem top_pushValue (vm : Vm) (v : Value) : (vm.pushValue v).top = vm.top + 1 := Array.size_push _

section Above

variable {t : Ty} (ih : ∀ {vm : Vm} {x : Value}, vm.topValue? = some x →
  (((readTop t).run vm).1.isSome ↔ Readable vm.heap vm.limit vm.top t x))
include ih

/-- The key of an entry is read right above the table. -/
theorem isSome_readKey_iff (vm : Vm) (k : Value) :
    ((readTop t).run (vm.pushValue k)).1.isSome ↔ Readable vm.heap vm.limit (vm.top + 1) t k := by
  have hx : (vm.pushValue k).topValue? = some k := topValue?_pushValue vm k 0
  have h := ih hx
  rwa [top_pushValue] at h

/-- The value of an entry is read above its key. -/
theorem isSome_readValue_iff (vm : Vm) (k v : Value) :
    ((readTop t).run ((vm.pushValue k).pushValue v)).1.isSome ↔ Readable vm.heap vm.limit (vm.top + 2) t v := by
  have h := isSome_readKey_iff ih (vm.pushValue k) v
  rwa [top_pushValue] at h

end Above

/-- Whether reading succeeds does not depend on the order in which tables are walked. -/
theorem isSome_readTop_iff : ∀ (t : Ty) {vm : Vm} {x : Value}, vm.topValue? = some x →
    (((readTop t).run vm).1.isSome ↔ Readable vm.heap vm.limit vm.top t x)
  | .int t, _, _, hx => isSome_readScalar_iff (.int t) hx
  | .f32, _, _, hx => isSome_readScalar_iff .f32 hx
  | .f64, _, _, hx => isSome_readScalar_iff .f64 hx
  | .bool, _, _, hx => isSome_readScalar_iff .bool hx
  | .str, _, _, hx => isSome_readScalar_iff .str hx
  | .nil, _, _, hx => isSome_readScalar_iff .nil hx
  | .unit, _, _, _ | .tuple _, _, _, _ => Iff.rfl
  | .opt t, vm, x, hx => by
    have ih := isSome_readTop_iff t hx
    rw [Readable]
    by_cases hnil : x = .nil
    · rw [run_readTop_opt_nil (hnil ▸ hx)]
      exact iff_of_true rfl (.inl hnil)
    · rw [run_readTop_opt fun h => hnil (Option.some.inj (hx.symm.trans h)), or_iff_right hnil, ← ih]
      show (Option.map _ ((readTop t).run vm).1).isSome ↔ _
      rw [Option.isSome_map]
  | .map k v, vm, x, hx => by
    have hkey := isSome_readKey_iff (isSome_readTop_iff k) vm
    have hvalue := isSome_readValue_iff (isSome_readTop_iff v) vm
    show (Option.map _ ((readEntries (readTop k) (readTop v)).run vm).1).isSome ↔ _
    rw [Option.isSome_map, Readable]
    by_cases htable : ∃ id, x = .table id
    · obtain ⟨id, rfl⟩ := htable
      rw [isSome_readEntries_iff (readTop_restores k) (readTop_restores v) hx]
      simp [hkey, hvalue]
    · rw [run_readEntries_other fun id h => htable ⟨id, Option.some.inj (hx.symm.trans h)⟩]
      exact iff_of_false nofun fun ⟨id, h, _⟩ => htable ⟨id, h⟩
  | .vec t, vm, x, hx => by
    have hkey : ∀ y, ((readScalar (.int .i64)).run (vm.pushValue y)).1.isSome ↔ (scalar? (.int .i64) y).isSome :=
      fun y => isSome_readScalar_iff (.int .i64) (topValue?_pushValue vm y 0)
    have hvalue := isSome_readValue_iff (isSome_readTop_iff t) vm
    show (Option.bind ((readEntries (readScalar (.int .i64)) (readTop t)).run vm).1 itemsOf?).isSome ↔ _
    rw [Readable]
    by_cases htable : ∃ id, x = .table id
    · obtain ⟨id, rfl⟩ := htable
      have hentries := isSome_readEntries_iff (readScalar_restores (.int .i64)) (readTop_restores t) hx
      simp only [hkey, hvalue] at hentries
      constructor
      · intro h
        have hread := Option.isSome_of_isSome_bind h
        obtain ⟨hroom, hvalues⟩ := hentries.1 hread
        have hfst := fst_readEntries hx hread
        rw [hfst] at h hread
        have hsequence := (isSome_bind_itemsOf?_iff (vm.traversal.perm vm.heap id) hread).1 h
        exact ⟨id, rfl, hroom, hsequence, fun e he => (hvalues e he).2⟩
      · rintro ⟨id, h, hroom, hsequence, hvalues⟩
        cases h
        have hread := hentries.2 ⟨hroom, fun e he => ⟨hsequence.isSome_scalar? he, hvalues e he⟩⟩
        have hfst := fst_readEntries hx hread
        rw [hfst] at hread ⊢
        exact (isSome_bind_itemsOf?_iff (vm.traversal.perm vm.heap id) hread).2 hsequence
    · rw [run_readEntries_other fun id h => htable ⟨id, Option.some.inj (hx.symm.trans h)⟩]
      exact iff_of_false nofun fun ⟨id, h, _⟩ => htable ⟨id, h⟩

end Vm

end PluginHost.Lua
