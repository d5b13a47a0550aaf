import PluginHost.Datum
import Mathlib.Data.List.Sort

/-!
# The order of keys

On the data of one type without floating point numbers `Datum.compare` is a linear order (`compare_orders`). Maps whose
keys are of such a type therefore have one sorted form, whichever order their entries come in (`mapOfEntries_eq` and
`sortEntries_congr`). `Datum.sorted` sorts all maps in a datum and is what reading gives back.
-/

namespace PluginHost

/-- A comparison that orders some values linearly. -/
structure Orders {α : Type} (cmp : α → α → Ordering) (s : α → Prop) : Prop where
  eq_iff : ∀ {a b}, s a → s b → (cmp a b = .eq ↔ a = b)
  swap : ∀ {a b}, s a → s b → cmp b a = (cmp a b).swap
  trans : ∀ {a b c}, s a → s b → s c → cmp a b = .lt → cmp b c = .lt → cmp a c = .lt

namespace Orders

variable {α β : Type} {cmp : α → α → Ordering} {s : α → Prop} {cmp' : β → β → Ordering} {s' : β → Prop}

theorem of_instances [Ord α] [Std.TransOrd α] [Std.LawfulEqOrd α] :
    Orders (Ord.compare : α → α → Ordering) fun _ => True :=
  ⟨fun _ _ => Std.LawfulEqOrd.compare_eq_iff_eq, fun _ _ => Std.OrientedCmp.eq_swap, fun _ _ _ => Std.TransCmp.lt_trans⟩

theorem mono {s₁ : α → Prop} (h : Orders cmp s) (hs : ∀ a, s₁ a → s a) : Orders cmp s₁ :=
  ⟨fun ha hb => h.eq_iff (hs _ ha) (hs _ hb), fun ha hb => h.swap (hs _ ha) (hs _ hb),
    fun ha hb hc => h.trans (hs _ ha) (hs _ hb) (hs _ hc)⟩

theorem single {z : α} (hz : cmp z z = .eq) : Orders cmp fun a => a = z := by
  refine ⟨?_, ?_, ?_⟩
  · rintro a b rfl rfl
    simp [hz]
  · rintro a b rfl rfl
    simp [hz]
  · rintro a b c rfl rfl rfl h
    simp [hz] at h

/-- A comparison along an injection. -/
theorem image (h : Orders cmp s) {f : α → β} (hf : ∀ {a b}, f a = f b → a = b)
    (hcmp : ∀ a b, cmp' (f a) (f b) = cmp a b) (hs : ∀ b, s' b → ∃ a, s a ∧ f a = b) : Orders cmp' s' := by
  suffices h : Orders cmp' fun b => ∃ a, s a ∧ f a = b from h.mono hs
  refine ⟨?_, ?_, ?_⟩
  · rintro _ _ ⟨a, ha, rfl⟩ ⟨b, hb, rfl⟩
    rw [hcmp, h.eq_iff ha hb]
    exact ⟨fun e => e ▸ rfl, hf⟩
  · rintro _ _ ⟨a, ha, rfl⟩ ⟨b, hb, rfl⟩
    rw [hcmp, hcmp, h.swap ha hb]
  · rintro _ _ _ ⟨a, ha, rfl⟩ ⟨b, hb, rfl⟩ ⟨c, hc, rfl⟩
    rw [hcmp, hcmp, hcmp]
    exact h.trans ha hb hc

/-- The lexicographic order of pairs. -/
theorem pair (h : Orders cmp s) (h' : Orders cmp' s') :
    Orders (fun p q : α × β => (cmp p.1 q.1).then (cmp' p.2 q.2)) fun p => s p.1 ∧ s' p.2 := by
  refine ⟨?_, ?_, ?_⟩
  · rintro ⟨a, x⟩ ⟨b, y⟩ ⟨ha, hx⟩ ⟨hb, hy⟩
    simp [h.eq_iff ha hb, h'.eq_iff hx hy]
  · rintro ⟨a, x⟩ ⟨b, y⟩ ⟨ha, hx⟩ ⟨hb, hy⟩
    simp only [h.swap ha hb, h'.swap hx hy, Ordering.swap_then]
  · rintro ⟨a, x⟩ ⟨b, y⟩ ⟨c, z⟩ ⟨ha, hx⟩ ⟨hb, hy⟩ ⟨hc, hz⟩ h₁ h₂
    simp only [Ordering.then_eq_lt, h.eq_iff ha hb, h.eq_iff hb hc, h.eq_iff ha hc] at h₁ h₂ ⊢
    rcases h₁ with h₁ | ⟨rfl, h₁⟩
    · rcases h₂ with h₂ | ⟨rfl, -⟩
      · exact .inl (h.trans ha hb hc h₁ h₂)
      · exact .inl h₁
    · rcases h₂ with h₂ | ⟨rfl, h₂⟩
      · exact .inl h₂
      · exact .inr ⟨rfl, h'.trans hx hy hz h₁ h₂⟩

/-- A value below all others may be added. -/
theorem withLeast (h : Orders cmp s) {z : α} (hz : cmp z z = .eq) (hs : ∀ a, s a → cmp z a = .lt ∧ cmp a z = .gt) :
    Orders cmp fun a => a = z ∨ s a := by
  have hne : ∀ {a}, s a → a ≠ z := fun ha e => by simpa [e, hz] using (hs _ ha).1
  refine ⟨?_, ?_, ?_⟩
  · rintro a b (rfl | ha) (rfl | hb)
    · simp [hz]
    · simp [(hs b hb).1, (hne hb).symm]
    · simp [(hs a ha).2, hne ha]
    · exact h.eq_iff ha hb
  · rintro a b (rfl | ha) (rfl | hb)
    · simp [hz]
    · simp [hs b hb]
    · simp [hs a ha]
    · exact h.swap ha hb
  · rintro a b c (rfl | ha) (rfl | hb) (rfl | hc) h₁ h₂
    · exact h₁
    · exact h₂
    · simp [(hs b hb).2] at h₂
    · exact (hs c hc).1
    · exact h₁
    · simp [(hs a ha).2] at h₁
    · simp [(hs b hb).2] at h₂
    · exact h.trans ha hb hc h₁ h₂

/-- The lexicographic order of sequences. -/
theorem list (h : Orders cmp s) : Orders (List.compareLex cmp) fun l => ∀ a ∈ l, s a := by
  -- a longer sequence is a pair of its head and its tail
  have bounded : ∀ n, Orders (List.compareLex cmp) fun l => l.length ≤ n ∧ ∀ a ∈ l, s a := by
    intro n
    induction n with
    | zero => exact (single List.compareLex_nil_nil).mono fun l hl => List.eq_nil_of_length_eq_zero (Nat.le_zero.1 hl.1)
    | succ n ih =>
      have hcons : Orders (List.compareLex cmp) fun l => ∃ p : α × List α, _ ∧ p.1 :: p.2 = l :=
        (h.pair ih).image (fun e => Prod.ext (List.cons.inj e).1 (List.cons.inj e).2)
          (fun a b => List.compareLex_cons_cons) fun _ hp => hp
      refine (hcons.withLeast List.compareLex_nil_nil ?_).mono ?_
      · rintro _ ⟨p, -, rfl⟩
        exact ⟨List.compareLex_nil_cons, List.compareLex_cons_nil⟩
      · intro l hl
        cases l with
        | nil => exact .inl rfl
        | cons a l =>
          rw [List.forall_mem_cons, List.length_cons] at hl
          exact .inr ⟨(a, l), ⟨hl.2.1, Nat.le_of_succ_le_succ hl.1, hl.2.2⟩, rfl⟩
  refine ⟨fun {a b} ha hb => ?_, fun {a b} ha hb => ?_, fun {a b c} ha hb hc => ?_⟩
  · exact (bounded (a.length + b.length)).eq_iff ⟨by omega, ha⟩ ⟨by omega, hb⟩
  · exact (bounded (a.length + b.length)).swap ⟨by omega, ha⟩ ⟨by omega, hb⟩
  · exact (bounded (a.length + b.length + c.length)).trans ⟨by omega, ha⟩ ⟨by omega, hb⟩ ⟨by omega, hc⟩

end Orders

/-- In lists that are related item by item each item on the right has one on the left. -/
theorem exists_of_mem_right {α β : Type} {r : α → β → Prop} {as : List α} {bs : List β} {b : β}
    (h : List.Forall₂ r as bs) (hb : b ∈ bs) : ∃ a ∈ as, r a b := by
  induction h with
  | nil => cases hb
  | @cons a _ as _ ha _ ih =>
    rcases List.mem_cons.1 hb with rfl | hb
    · exact ⟨a, List.mem_cons_self, ha⟩
    · obtain ⟨a', hmem, ha'⟩ := ih hb
      exact ⟨a', List.mem_cons_of_mem _ hmem, ha'⟩

/-! ## Types of keys -/

mutual

/-- Whether a type has no floating point numbers in it. -/
def Ty.isOrdered : Ty → Bool
  | .f32 | .f64 => false
  | .opt t | .vec t => t.isOrdered
  | .map k v => k.isOrdered && v.isOrdered
  | .tuple ts => areOrdered ts
  | _ => true
termination_by structural x => x

/-- Whether all types are without floating point numbers. -/
def Ty.areOrdered : List Ty → Bool
  | [] => true
  | t :: ts => t.isOrdered && areOrdered ts
termination_by structural x => x

end

namespace Datum

theorem compareList_eq : ∀ xs ys : List Datum, compareList xs ys = List.compareLex compare xs ys
  | [], [] => by rw [compareList, List.compareLex_nil_nil]
  | [], _ :: _ => by rw [compareList, List.compareLex_nil_cons]
  | _ :: _, [] => by rw [compareList, List.compareLex_cons_nil]
  | x :: xs, y :: ys => by rw [compareList, List.compareLex_cons_cons, compareList_eq xs ys]

theorem compareEntries_eq : ∀ xs ys : List (Datum × Datum),
    compareEntries xs ys = List.compareLex (fun a b => (a.1.compare b.1).then (a.2.compare b.2)) xs ys
  | [], [] => by rw [compareEntries, List.compareLex_nil_nil]
  | [], _ :: _ => by rw [compareEntries, List.compareLex_nil_cons]
  | _ :: _, [] => by rw [compareEntries, List.compareLex_cons_nil]
  | x :: xs, y :: ys => by rw [compareEntries, List.compareLex_cons_cons, compareEntries_eq xs ys]

theorem allHaveType_iff {t : Ty} {ds : List Datum} : allHaveType ds t = true ↔ ∀ d ∈ ds, d.hasType t := by
  induction ds with
  | nil => simp [allHaveType]
  | cons d ds ih => simp [allHaveType, ih]

theorem entriesHaveType_iff {k v : Ty} {es : List (Datum × Datum)} :
    entriesHaveType es k v = true ↔ ∀ e ∈ es, e.1.hasType k ∧ e.2.hasType v := by
  induction es with
  | nil => simp [entriesHaveType]
  | cons e es ih => simp [entriesHaveType, ih]

/-! ### The data of each type -/

section Shapes

variable {d : Datum}

theorem hasType_int_iff {t : IntTy} : d.hasType (.int t) ↔ ∃ n, d = .int n ∧ t.holds n := by
  cases d <;> simp

theorem hasType_f32_iff : d.hasType .f32 ↔ ∃ x, d = .f32 x := by
  cases d <;> simp

theorem hasType_f64_iff : d.hasType .f64 ↔ ∃ x, d = .f64 x := by
  cases d <;> simp

theorem hasType_bool_iff : d.hasType .bool ↔ ∃ b, d = .bool b := by
  cases d <;> simp

theorem hasType_str_iff : d.hasType .str ↔ ∃ s, d = .str s := by
  cases d <;> simp

theorem hasType_nil_iff : d.hasType .nil ↔ d = .unit := by
  cases d <;> simp

theorem hasType_unit_iff : d.hasType .unit ↔ d = .unit := by
  cases d <;> simp

theorem hasType_opt_iff {t : Ty} : d.hasType (.opt t) ↔ d = .none ∨ ∃ e : Datum, d = .some e ∧ e.hasType t := by
  cases d <;> simp

theorem hasType_vec_iff {t : Ty} : d.hasType (.vec t) ↔ ∃ ds, d = .list ds ∧ ∀ e ∈ ds, e.hasType t := by
  cases d <;> simp [allHaveType_iff]

theorem hasType_tuple_iff {ts : List Ty} : d.hasType (.tuple ts) ↔ ∃ ds, d = .list ds ∧ haveTypes ds ts := by
  cases d <;> simp

theorem hasType_map_iff {k v : Ty} :
    d.hasType (.map k v) ↔ ∃ es, d = .map es ∧ ∀ e ∈ es, e.1.hasType k ∧ e.2.hasType v := by
  cases d <;> simp [entriesHaveType_iff]

end Shapes

mutual

/-- The data of a type without floating point numbers are ordered linearly. -/
theorem compare_orders : ∀ {t : Ty}, t.isOrdered → Orders compare fun d => d.hasType t
  | .int t, _ => by
    refine Orders.of_instances.image (f := Datum.int) (fun h => by injection h) (fun _ _ => rfl) fun d hd => ?_
    obtain ⟨n, rfl, -⟩ := hasType_int_iff.1 hd
    exact ⟨n, trivial, rfl⟩
  | .bool, _ => by
    refine Orders.of_instances.image (f := Datum.bool) (fun h => by injection h) (fun _ _ => rfl) fun d hd => ?_
    obtain ⟨b, rfl⟩ := hasType_bool_iff.1 hd
    exact ⟨b, trivial, rfl⟩
  | .str, _ => by
    refine Orders.of_instances.image (f := Datum.str) (fun h => by injection h) (fun _ _ => rfl) fun d hd => ?_
    obtain ⟨s, rfl⟩ := hasType_str_iff.1 hd
    exact ⟨s, trivial, rfl⟩
  | .nil, _ => (Orders.single (z := Datum.unit) (by simp [compare])).mono fun d hd => hasType_nil_iff.1 hd
  | .unit, _ => (Orders.single (z := Datum.unit) (by simp [compare])).mono fun d hd => hasType_unit_iff.1 hd
  | .opt t, ht => by
    have hsome : Orders compare fun d => ∃ e : Datum, e.hasType t ∧ Datum.some e = d :=
      (compare_orders (t := t) ht).image (fun h => by injection h) (fun _ _ => by rw [compare]) fun _ he => he
    refine (hsome.withLeast (z := .none) (by simp [compare]) ?_).mono fun d hd => ?_
    · rintro _ ⟨d, -, rfl⟩
      simp [compare]
    · rcases hasType_opt_iff.1 hd with rfl | ⟨e, rfl, he⟩
      · exact .inl rfl
      · exact .inr ⟨e, he, rfl⟩
  | .vec t, ht => by
    refine (compare_orders (t := t) ht).list.image (f := Datum.list) (fun h => by injection h)
      (fun a b => by rw [compare, compareList_eq]) fun d hd => ?_
    obtain ⟨ds, rfl, hds⟩ := hasType_vec_iff.1 hd
    exact ⟨ds, hds, rfl⟩
  | .map k v, ht => by
    simp only [Ty.isOrdered, Bool.and_eq_true] at ht
    refine ((compare_orders ht.1).pair (compare_orders ht.2)).list.image (f := Datum.map) (fun h => by injection h)
      (fun a b => by rw [compare, compareEntries_eq]) fun d hd => ?_
    obtain ⟨es, rfl, hes⟩ := hasType_map_iff.1 hd
    exact ⟨es, hes, rfl⟩
  | .tuple ts, ht => by
    refine (@compareList_orders ts ht).image (f := Datum.list) (fun h => by injection h)
      (fun a b => by rw [compare]) fun d hd => ?_
    obtain ⟨ds, rfl, hds⟩ := hasType_tuple_iff.1 hd
    exact ⟨ds, hds, rfl⟩

/-- Tuples are compared item by item. -/
theorem compareList_orders : ∀ {ts : List Ty}, Ty.areOrdered ts → Orders compareList fun ds => haveTypes ds ts
  | [], _ => by
    refine (Orders.single (z := []) (by rw [compareList])).mono fun ds hd => ?_
    cases ds <;> simp_all [haveTypes]
  | t :: ts, ht => by
    simp only [Ty.areOrdered, Bool.and_eq_true] at ht
    refine ((compare_orders ht.1).pair (compareList_orders ht.2)).image (f := fun p => p.1 :: p.2)
      (fun {a b} h => Prod.ext (List.cons.inj h).1 (List.cons.inj h).2) (fun a b => by rw [compareList]) fun ds hd => ?_
    cases ds <;> simp_all [haveTypes]

end

/-! ## Sorted entries -/

/-- Whether the keys of entries ascend. -/
def Ascends (es : List (Datum × Datum)) : Prop := es.Pairwise fun a b => a.1.compare b.1 = .lt

/-- Entries in the order of their keys. -/
def sortEntries (es : List (Datum × Datum)) : List (Datum × Datum) :=
  es.insertionSort fun a b => (a.1.compare b.1).isLE

theorem sortEntries_perm (es : List (Datum × Datum)) : (sortEntries es).Perm es := List.perm_insertionSort _ es

section Sorting

variable {s : Datum → Prop} (hs : Orders compare s)
include hs

theorem ascends_orderedInsert {e : Datum × Datum} (he : s e.1) {es : List (Datum × Datum)} (ha : ∀ a ∈ es, s a.1)
    (hne : ∀ a ∈ es, e.1 ≠ a.1) (h : Ascends es) :
    Ascends (es.orderedInsert (fun a b => (a.1.compare b.1).isLE) e) := by
  induction es with
  | nil => exact List.pairwise_singleton _ _
  | cons a es ih =>
    rw [List.forall_mem_cons] at ha hne
    obtain ⟨hlt, h⟩ := List.pairwise_cons.1 h
    rw [List.orderedInsert]
    split
    · next hle =>
      have hea : e.1.compare a.1 = .lt := by
        cases hc : e.1.compare a.1 with
        | lt => rfl
        | eq => exact absurd ((hs.eq_iff he ha.1).1 hc) hne.1
        | gt => simp [hc] at hle
      refine List.pairwise_cons.2 ⟨?_, List.pairwise_cons.2 ⟨hlt, h⟩⟩
      rw [List.forall_mem_cons]
      exact ⟨hea, fun b hb => hs.trans he ha.1 (ha.2 b hb) hea (hlt b hb)⟩
    · next hle =>
      have hae : a.1.compare e.1 = .lt := by
        rw [hs.swap he ha.1]
        cases hc : e.1.compare a.1 <;> simp_all
      refine List.pairwise_cons.2 ⟨?_, ih ha.2 hne.2 h⟩
      intro b hb
      rcases (List.mem_orderedInsert _).1 hb with rfl | hb
      · exact hae
      · exact hlt b hb

theorem ascends_sortEntries {es : List (Datum × Datum)} (ha : ∀ a ∈ es, s a.1) (hn : (es.map Prod.fst).Nodup) :
    Ascends (sortEntries es) := by
  induction es with
  | nil => exact List.Pairwise.nil
  | cons e es ih =>
    rw [List.forall_mem_cons] at ha
    rw [List.map_cons, List.nodup_cons, List.mem_map] at hn
    have hmem : ∀ a ∈ sortEntries es, a ∈ es := fun a h => (sortEntries_perm es).subset h
    have hne : ∀ a ∈ sortEntries es, e.1 ≠ a.1 := fun a h e => hn.1 ⟨a, hmem a h, e.symm⟩
    exact ascends_orderedInsert hs ha.1 (fun a h => ha.2 a (hmem a h)) hne (ih ha.2 hn.2)

/-- Entries have one ascending order. -/
theorem Ascends.eq_of_perm {es fs : List (Datum × Datum)} (ha : ∀ a ∈ es, s a.1) (he : Ascends es) (hf : Ascends fs)
    (h : es.Perm fs) : es = fs := by
  refine List.Perm.eq_of_pairwise (fun a b hmem hmem' hab hba => ?_) he hf h
  rw [hs.swap (ha a hmem) (ha b (h.mem_iff.2 hmem')), hab] at hba
  cases hba

/-- In which order the entries come makes no difference. -/
theorem sortEntries_congr {es fs : List (Datum × Datum)} (ha : ∀ a ∈ es, s a.1) (hn : (es.map Prod.fst).Nodup)
    (h : es.Perm fs) : sortEntries es = sortEntries fs := by
  refine Ascends.eq_of_perm hs (fun a hmem => ha a ((sortEntries_perm es).subset hmem)) (ascends_sortEntries hs ha hn)
    (ascends_sortEntries hs (fun a hmem => ha a (h.mem_iff.2 hmem)) ((h.map Prod.fst).nodup_iff.1 hn)) ?_
  exact (sortEntries_perm es).trans (h.trans (sortEntries_perm fs).symm)

theorem insertEntry_eq {k v : Datum} (hk : s k) {es : List (Datum × Datum)} (ha : ∀ a ∈ es, s a.1)
    (hne : ∀ a ∈ es, k ≠ a.1) :
    insertEntry k v es = es.orderedInsert (fun a b => (a.1.compare b.1).isLE) (k, v) := by
  induction es with
  | nil => rfl
  | cons a es ih =>
    rw [List.forall_mem_cons] at ha hne
    have hka : k.compare a.1 ≠ .eq := fun e => hne.1 ((hs.eq_iff hk ha.1).1 e)
    rw [insertEntry, List.orderedInsert, ih ha.2 hne.2]
    cases hc : k.compare a.1 <;> simp_all

/-- Filling a map that is sorted keeps it sorted. -/
theorem foldl_insertEntry {es fs : List (Datum × Datum)} (ha : ∀ a ∈ es ++ fs, s a.1)
    (hn : ((es ++ fs).map Prod.fst).Nodup) :
    es.foldl (fun m (k, v) => insertEntry k v m) (sortEntries fs) = sortEntries (es.reverse ++ fs) := by
  induction es generalizing fs with
  | nil => rfl
  | cons e es ih =>
    obtain ⟨k, v⟩ := e
    have hperm : ((k, v) :: es ++ fs).Perm (es ++ (k, v) :: fs) := List.perm_middle.symm
    have hk := ha _ List.mem_cons_self
    have hn' := (hperm.map Prod.fst).nodup_iff.1 hn
    rw [List.cons_append, List.map_cons, List.nodup_cons, List.mem_map] at hn
    have hmem : ∀ a ∈ sortEntries fs, a ∈ es ++ fs := fun a h =>
      List.mem_append_right _ ((sortEntries_perm fs).subset h)
    have hne : ∀ a ∈ sortEntries fs, k ≠ a.1 := fun a h e => hn.1 ⟨a, hmem a h, e.symm⟩
    show es.foldl _ (insertEntry k v (sortEntries fs)) = _
    rw [insertEntry_eq hs hk (fun a h => ha a (List.mem_cons_of_mem _ (hmem a h))) hne, List.reverse_cons,
      List.append_assoc]
    exact ih (fun a h => ha a (hperm.mem_iff.2 h)) hn'

/-- A map that is filled with distinct keys holds all entries. -/
theorem mapOfEntries_eq {es : List (Datum × Datum)} (ha : ∀ a ∈ es, s a.1) (hn : (es.map Prod.fst).Nodup) :
    mapOfEntries es = .map (sortEntries es) := by
  have h := @foldl_insertEntry s hs es [] (by simpa using ha) (by simpa using hn)
  rw [mapOfEntries]
  refine congrArg Datum.map (h.trans ?_)
  rw [List.append_nil]
  exact (sortEntries_congr hs ha hn (List.reverse_perm es).symm).symm

end Sorting

/-! ## Sorted data -/

mutual

/-- A datum with the entries of each map in the order of their keys. -/
def sorted : Datum → Datum
  | .some d => .some d.sorted
  | .list ds => .list (sortedItems ds)
  | .map es => .map (sortEntries (sortedParts es))
  | d => d
termination_by structural x => x

def sortedItems : List Datum → List Datum
  | [] => []
  | d :: ds => d.sorted :: sortedItems ds
termination_by structural x => x

def sortedParts : List (Datum × Datum) → List (Datum × Datum)
  | [] => []
  | (k, v) :: es => (k.sorted, v.sorted) :: sortedParts es
termination_by structural x => x

end

theorem sortedItems_eq (ds : List Datum) : sortedItems ds = ds.map sorted := by
  induction ds with
  | nil => rfl
  | cons d ds ih => rw [sortedItems, ih, List.map_cons]

theorem sortedParts_eq (es : List (Datum × Datum)) : sortedParts es = es.map fun e => (e.1.sorted, e.2.sorted) := by
  induction es with
  | nil => rfl
  | cons e es ih => rw [sortedParts, ih, List.map_cons]

end Datum

end PluginHost
