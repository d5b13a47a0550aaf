import PluginHost.Proofs.Data.Absent

/-!
# Collapsed data

An object that stands for nothing does not say how often an absent value is wrapped: what is there and absent at once is
just absent. `Datum.collapsed` is what remains of a datum then. Keys of a map may become one key that way, which keeps
its first place and its last value (`mergeEntries`). What is nowhere there and absent at once (`Datum.isFlat`) stays as
it is (`collapsed_of_isFlat`).
-/

namespace PluginHost

mutual

/-- The types that keys are made of, in any nesting: numbers without a point, truth values, texts, optional values,
sequences and tuples. -/
def Ty.isKeyLike : Ty → Bool
  | .int _ | .bool | .str => true
  | .opt t | .vec t => t.isKeyLike
  | .tuple ts => areKeyLike ts
  | _ => false
termination_by structural x => x

def Ty.areKeyLike : List Ty → Bool
  | [] => true
  | t :: ts => t.isKeyLike && areKeyLike ts
termination_by structural x => x

end

mutual

/-- The types of data that become objects and are read again. Keys of maps have no floating point numbers and no maps in
them. -/
def Ty.isConvertible : Ty → Bool
  | .int _ | .f32 | .f64 | .bool | .str => true
  | .opt t | .vec t => t.isConvertible
  | .map k v => k.isKeyLike && v.isConvertible
  | .tuple ts => areConvertible ts
  | _ => false
termination_by structural x => x

def Ty.areConvertible : List Ty → Bool
  | [] => true
  | t :: ts => t.isConvertible && areConvertible ts
termination_by structural x => x

end

mutual

theorem Ty.isConvertible_of_isKeyLike : ∀ {t : Ty}, t.isKeyLike → t.isConvertible
  | .int _, _ | .bool, _ | .str, _ => rfl
  | .opt t, ht => Ty.isConvertible_of_isKeyLike (t := t) ht
  | .vec t, ht => Ty.isConvertible_of_isKeyLike (t := t) ht
  | .tuple ts, ht => @Ty.areConvertible_of_areKeyLike ts ht

theorem Ty.areConvertible_of_areKeyLike : ∀ {ts : List Ty}, areKeyLike ts → areConvertible ts
  | [], _ => rfl
  | t :: ts, ht => by
    simp only [areKeyLike, areConvertible, Bool.and_eq_true] at ht ⊢
    exact ⟨Ty.isConvertible_of_isKeyLike ht.1, Ty.areConvertible_of_areKeyLike ht.2⟩

end

mutual

theorem Ty.isOrdered_of_isKeyLike : ∀ {t : Ty}, t.isKeyLike → t.isOrdered
  | .int _, _ | .bool, _ | .str, _ => rfl
  | .opt t, ht => Ty.isOrdered_of_isKeyLike (t := t) ht
  | .vec t, ht => Ty.isOrdered_of_isKeyLike (t := t) ht
  | .tuple ts, ht => @Ty.areOrdered_of_areKeyLike ts ht

theorem Ty.areOrdered_of_areKeyLike : ∀ {ts : List Ty}, areKeyLike ts → areOrdered ts
  | [], _ => rfl
  | t :: ts, ht => by
    simp only [areKeyLike, areOrdered, Bool.and_eq_true] at ht ⊢
    exact ⟨Ty.isOrdered_of_isKeyLike ht.1, Ty.areOrdered_of_areKeyLike ht.2⟩

end

namespace Datum

/-- Gives a key a value. A key that is there keeps its place; a new one goes to the end. -/
def putEntry (k v : Datum) : List (Datum × Datum) → List (Datum × Datum)
  | [] => [(k, v)]
  | e :: es => if e.1.compare k = .eq then (e.1, v) :: es else e :: putEntry k v es

/-- Entries of which no two have the same key. -/
def mergeEntries (es : List (Datum × Datum)) : List (Datum × Datum) := es.foldl (fun m e => putEntry e.1 e.2 m) []

mutual

/-- A datum in which nothing is there and absent at once. -/
def collapsed : Datum → Datum
  | .some d => if d.isAbsent then .none else .some d.collapsed
  | .list ds => .list (collapsedItems ds)
  | .map es => .map (mergeEntries (collapsedParts es))
  | d => d
termination_by structural x => x

def collapsedItems : List Datum → List Datum
  | [] => []
  | d :: ds => d.collapsed :: collapsedItems ds
termination_by structural x => x

def collapsedParts : List (Datum × Datum) → List (Datum × Datum)
  | [] => []
  | (k, v) :: es => (k.collapsed, v.collapsed) :: collapsedParts es
termination_by structural x => x

end

mutual

/-- Whether nothing in a datum is there and absent at once. -/
def isFlat : Datum → Bool
  | .some d => !d.isAbsent && d.isFlat
  | .list ds => areFlat ds
  | .map es => haveFlat es
  | _ => true
termination_by structural x => x

def areFlat : List Datum → Bool
  | [] => true
  | d :: ds => d.isFlat && areFlat ds
termination_by structural x => x

def haveFlat : List (Datum × Datum) → Bool
  | [] => true
  | (k, v) :: es => k.isFlat && v.isFlat && haveFlat es
termination_by structural x => x

end

/-! ## Merging -/

section Merging

variable {k v : Datum} {es : List (Datum × Datum)} {P Q : Datum → Prop}

theorem forall_mem_putEntry (hk : P k) (hv : Q v) (hes : ∀ e ∈ es, P e.1 ∧ Q e.2) :
    ∀ e ∈ putEntry k v es, P e.1 ∧ Q e.2 := by
  induction es with
  | nil => simpa [putEntry] using ⟨hk, hv⟩
  | cons e es ih =>
    rw [List.forall_mem_cons] at hes
    rw [putEntry]
    split
    · exact List.forall_mem_cons.2 ⟨⟨hes.1.1, hv⟩, hes.2⟩
    · exact List.forall_mem_cons.2 ⟨hes.1, ih hes.2⟩

theorem forall_mem_mergeEntries (hes : ∀ e ∈ es, P e.1 ∧ Q e.2) : ∀ e ∈ mergeEntries es, P e.1 ∧ Q e.2 := by
  suffices h : ∀ m : List (Datum × Datum), (∀ e ∈ m, P e.1 ∧ Q e.2) →
      ∀ e ∈ es.foldl (fun m e => putEntry e.1 e.2 m) m, P e.1 ∧ Q e.2 from h [] nofun
  induction es with
  | nil => exact fun _ hm => hm
  | cons e es ih =>
    rw [List.forall_mem_cons] at hes
    exact fun m hm => ih hes.2 _ (forall_mem_putEntry hes.1.1 hes.1.2 hm)

/-- A new key goes to the end. -/
theorem putEntry_of_new (hnew : ∀ e ∈ es, e.1.compare k ≠ .eq) : putEntry k v es = es ++ [(k, v)] := by
  induction es with
  | nil => rfl
  | cons e es ih =>
    rw [List.forall_mem_cons] at hnew
    rw [putEntry, if_neg hnew.1, ih hnew.2, List.cons_append]

/-- The keys stay as they are if one of them gets another value. -/
theorem keys_putEntry (hold : ¬∀ e ∈ es, e.1.compare k ≠ .eq) : (putEntry k v es).map Prod.fst = es.map Prod.fst := by
  induction es with
  | nil => exact absurd nofun hold
  | cons e es ih =>
    rw [putEntry]
    by_cases he : e.1.compare k = .eq
    · rw [if_pos he]
      rfl
    · rw [if_neg he, List.map_cons, List.map_cons, ih fun hnew => hold (List.forall_mem_cons.2 ⟨he, hnew⟩)]

variable (hp : Orders compare P)
include hp

theorem nodup_putEntry (hes : ∀ e ∈ es, P e.1) (hn : (es.map Prod.fst).Nodup) :
    ((putEntry k v es).map Prod.fst).Nodup := by
  by_cases hnew : ∀ e ∈ es, e.1.compare k ≠ .eq
  · rw [putEntry_of_new hnew, List.map_append]
    refine hn.append (List.nodup_singleton k) (List.disjoint_singleton.2 fun hmem => ?_)
    obtain ⟨e, he, rfl⟩ := List.mem_map.1 hmem
    exact hnew e he ((hp.eq_iff (hes e he) (hes e he)).2 rfl)
  · rwa [keys_putEntry hnew]

/-- Merged entries have different keys. -/
theorem nodup_mergeEntries (hes : ∀ e ∈ es, P e.1) : ((mergeEntries es).map Prod.fst).Nodup := by
  suffices h : ∀ m : List (Datum × Datum), (∀ e ∈ m, P e.1) → (m.map Prod.fst).Nodup →
      ((es.foldl (fun m e => putEntry e.1 e.2 m) m).map Prod.fst).Nodup from h [] nofun List.nodup_nil
  induction es with
  | nil => exact fun _ _ hn => hn
  | cons e es ih =>
    rw [List.forall_mem_cons] at hes
    refine fun m hm hn => ih hes.2 _ (fun a ha => ?_) (nodup_putEntry hp hm hn)
    exact (forall_mem_putEntry (Q := fun _ => True) hes.1 trivial (fun a ha => ⟨hm a ha, trivial⟩) a ha).1

/-- Entries with different keys are merged already. -/
theorem mergeEntries_eq_self (hes : ∀ e ∈ es, P e.1) (hn : (es.map Prod.fst).Nodup) : mergeEntries es = es := by
  suffices h : ∀ m : List (Datum × Datum), (∀ e ∈ m ++ es, P e.1) → ((m ++ es).map Prod.fst).Nodup →
      es.foldl (fun m e => putEntry e.1 e.2 m) m = m ++ es from h [] hes hn
  clear hes hn
  induction es with
  | nil => exact fun m _ _ => (List.append_nil m).symm
  | cons e es ih =>
    intro m hes hn
    have hsplit : m ++ e :: es = m ++ [e] ++ es := by simp
    have hput : putEntry e.1 e.2 m = m ++ [e] := putEntry_of_new fun a ha heq => by
      have hkey := (hp.eq_iff (hes a (List.mem_append_left _ ha)) (hes e (by simp))).1 heq
      rw [List.map_append, List.nodup_append] at hn
      exact hn.2.2 a.1 (List.mem_map_of_mem ha) e.1 (List.mem_map_of_mem List.mem_cons_self) hkey
    rw [List.foldl_cons, hput, hsplit]
    rw [hsplit] at hes hn
    exact ih _ hes hn

end Merging

/-! ## Collapsing -/

theorem collapsedItems_eq (ds : List Datum) : collapsedItems ds = ds.map collapsed := by
  induction ds with
  | nil => rfl
  | cons d ds ih => rw [collapsedItems, ih, List.map_cons]

theorem collapsedParts_eq (es : List (Datum × Datum)) :
    collapsedParts es = es.map fun e => (e.1.collapsed, e.2.collapsed) := by
  induction es with
  | nil => rfl
  | cons e es ih => rw [collapsedParts, ih, List.map_cons]

theorem areFlat_iff {ds : List Datum} : areFlat ds = true ↔ ∀ d ∈ ds, d.isFlat := by
  induction ds with
  | nil => simp [areFlat]
  | cons d ds ih => simp [areFlat, ih]

theorem haveFlat_iff {es : List (Datum × Datum)} : haveFlat es = true ↔ ∀ e ∈ es, e.1.isFlat ∧ e.2.isFlat := by
  induction es with
  | nil => simp [haveFlat]
  | cons e es ih => simp [haveFlat, ih, and_assoc]

theorem collapsed_some {d : Datum} (ha : d.isAbsent = false) : (some d).collapsed = .some d.collapsed := by
  rw [collapsed, ha]
  rfl

theorem collapsed_some_of_isAbsent {d : Datum} (ha : d.isAbsent) : (some d).collapsed = .none := by
  rw [collapsed, ha]
  rfl

/-- What collapses to an absent value was absent. -/
theorem isAbsent_of_sorted_collapsed {d : Datum} (h : d.collapsed.sorted = .none) : d.isAbsent := by
  cases d with
  | none => rfl
  | some d =>
    rw [isAbsent]
    by_contra ha
    rw [collapsed_some (Bool.eq_false_iff.2 ha), sorted] at h
    cases h
  | _ => cases h

mutual

theorem hasType_collapsed : ∀ {d : Datum} {t : Ty}, d.hasType t → d.collapsed.hasType t
  | .int _, _, h | .f32 _, _, h | .f64 _, _, h | .bool _, _, h | .str _, _, h | .unit, _, h | .none, _, h => h
  | .some d, .opt t, h => by
    rw [collapsed]
    split
    · rfl
    · exact hasType_collapsed (d := d) (t := t) h
  | .list ds, .vec t, h => @allHaveType_collapsed ds t h
  | .list ds, .tuple ts, h => @haveTypes_collapsed ds ts h
  | .map es, .map k v, h => by
    have h := entriesHaveType_iff.1 (@entriesHaveType_collapsed es k v h)
    exact entriesHaveType_iff.2 (forall_mem_mergeEntries (P := fun d => d.hasType k) (Q := fun d => d.hasType v) h)

theorem allHaveType_collapsed : ∀ {ds : List Datum} {t : Ty}, allHaveType ds t → allHaveType (collapsedItems ds) t
  | [], _, h => h
  | d :: ds, t, h => by
    simp only [allHaveType, collapsedItems, Bool.and_eq_true] at h ⊢
    exact ⟨hasType_collapsed h.1, allHaveType_collapsed h.2⟩

theorem haveTypes_collapsed : ∀ {ds : List Datum} {ts : List Ty}, haveTypes ds ts → haveTypes (collapsedItems ds) ts
  | [], [], h => h
  | d :: ds, t :: ts, h => by
    simp only [haveTypes, collapsedItems, Bool.and_eq_true] at h ⊢
    exact ⟨hasType_collapsed h.1, haveTypes_collapsed h.2⟩

theorem entriesHaveType_collapsed : ∀ {es : List (Datum × Datum)} {k v : Ty}, entriesHaveType es k v →
    entriesHaveType (collapsedParts es) k v
  | [], _, _, h => h
  | (dk, dv) :: es, k, v, h => by
    simp only [entriesHaveType, collapsedParts, Bool.and_eq_true] at h ⊢
    exact ⟨⟨hasType_collapsed h.1.1, hasType_collapsed h.1.2⟩, entriesHaveType_collapsed h.2⟩

end

/-- Whether a datum is what some datum of a type collapses to. -/
def IsCollapsed (t : Ty) (d : Datum) : Prop := ∃ e : Datum, e.hasType t ∧ e.collapsed = d

theorem IsCollapsed.hasType {t : Ty} {d : Datum} (hd : IsCollapsed t d) : d.hasType t := by
  obtain ⟨e, he, rfl⟩ := hd
  exact hasType_collapsed he

mutual

/-- There is nothing to sort in a key. -/
theorem sorted_of_isKeyLike : ∀ {t : Ty} {d : Datum}, t.isKeyLike → d.hasType t → d.sorted = d
  | .int _, d, _, hd => by
    obtain ⟨n, rfl, -⟩ := hasType_int_iff.1 hd
    rfl
  | .bool, d, _, hd => by
    obtain ⟨b, rfl⟩ := hasType_bool_iff.1 hd
    rfl
  | .str, d, _, hd => by
    obtain ⟨s, rfl⟩ := hasType_str_iff.1 hd
    rfl
  | .opt t, d, ht, hd => by
    rcases hasType_opt_iff.1 hd with rfl | ⟨e, rfl, he⟩
    · rfl
    · rw [sorted, sorted_of_isKeyLike (t := t) ht he]
  | .vec t, d, ht, hd => by
    obtain ⟨ds, rfl, hds⟩ := hasType_vec_iff.1 hd
    rw [sorted, sortedItems_eq, List.map_congr_left fun d hmem => sorted_of_isKeyLike (t := t) ht (hds d hmem),
      List.map_id']
  | .tuple ts, d, ht, hd => by
    obtain ⟨ds, rfl, hds⟩ := hasType_tuple_iff.1 hd
    rw [sorted, @sortedItems_of_areKeyLike ts ds ht hds]

theorem sortedItems_of_areKeyLike : ∀ {ts : List Ty} {ds : List Datum}, Ty.areKeyLike ts → haveTypes ds ts →
    sortedItems ds = ds
  | [], [], _, _ => rfl
  | t :: ts, d :: ds, ht, hd => by
    simp only [Ty.areKeyLike, haveTypes, Bool.and_eq_true] at ht hd
    rw [sortedItems, sorted_of_isKeyLike ht.1 hd.1, sortedItems_of_areKeyLike ht.2 hd.2]

end

mutual

/-- What is nowhere there and absent at once stays as it is. -/
theorem collapsed_of_isFlat : ∀ {t : Ty} {d : Datum}, t.isConvertible → d.hasType t → d.IsValue → d.isFlat →
    d.collapsed = d
  | .int _, d, _, hd, _, _ => by
    obtain ⟨n, rfl, -⟩ := hasType_int_iff.1 hd
    rfl
  | .f32, d, _, hd, _, _ => by
    obtain ⟨x, rfl⟩ := hasType_f32_iff.1 hd
    rfl
  | .f64, d, _, hd, _, _ => by
    obtain ⟨x, rfl⟩ := hasType_f64_iff.1 hd
    rfl
  | .bool, d, _, hd, _, _ => by
    obtain ⟨b, rfl⟩ := hasType_bool_iff.1 hd
    rfl
  | .str, d, _, hd, _, _ => by
    obtain ⟨s, rfl⟩ := hasType_str_iff.1 hd
    rfl
  | .opt t, d, ht, hd, hv, hf => by
    rcases hasType_opt_iff.1 hd with rfl | ⟨e, rfl, he⟩
    · rfl
    · rw [isFlat, Bool.and_eq_true, Bool.not_eq_true'] at hf
      rw [collapsed_some hf.1, collapsed_of_isFlat (t := t) ht he hv hf.2]
  | .vec t, d, ht, hd, hv, hf => by
    obtain ⟨ds, rfl, hds⟩ := hasType_vec_iff.1 hd
    have hitems : ∀ d ∈ ds, d.collapsed = d := fun d hmem =>
      collapsed_of_isFlat (t := t) ht (hds d hmem) (areValues_iff.1 hv.2 d hmem) (areFlat_iff.1 hf d hmem)
    rw [collapsed, collapsedItems_eq, List.map_congr_left hitems, List.map_id']
  | .tuple ts, d, ht, hd, hv, hf => by
    obtain ⟨ds, rfl, hds⟩ := hasType_tuple_iff.1 hd
    rw [collapsed, @collapsedItems_of_areFlat ts ds ht hds hv.2 hf]
  | .map k v, d, ht, hd, hv, hf => by
    simp only [Ty.isConvertible, Bool.and_eq_true] at ht
    obtain ⟨es, rfl, hes⟩ := hasType_map_iff.1 hd
    have hentries : ∀ e ∈ es, (e.1.collapsed, e.2.collapsed) = e := fun e hmem => by
      have hvalues := hasValues_iff.1 hv.2 e hmem
      have hflat := haveFlat_iff.1 hf e hmem
      rw [collapsed_of_isFlat (Ty.isConvertible_of_isKeyLike ht.1) (hes e hmem).1 hvalues.1 hflat.1,
        collapsed_of_isFlat ht.2 (hes e hmem).2 hvalues.2 hflat.2]
    rw [collapsed, collapsedParts_eq, List.map_congr_left hentries, List.map_id',
      mergeEntries_eq_self (compare_orders (Ty.isOrdered_of_isKeyLike ht.1)) (fun e hmem => (hes e hmem).1)
        (nodup_keys_of_isValue hv)]

theorem collapsedItems_of_areFlat : ∀ {ts : List Ty} {ds : List Datum}, Ty.areConvertible ts → haveTypes ds ts →
    AreValues ds → areFlat ds → collapsedItems ds = ds
  | [], [], _, _, _, _ => rfl
  | t :: ts, d :: ds, ht, hd, hv, hf => by
    simp only [Ty.areConvertible, haveTypes, areFlat, Bool.and_eq_true] at ht hd hf
    rw [collapsedItems, collapsed_of_isFlat ht.1 hd.1 hv.1 hf.1, collapsedItems_of_areFlat ht.2 hd.2 hv.2 hf.2]

end

end Datum

end PluginHost
