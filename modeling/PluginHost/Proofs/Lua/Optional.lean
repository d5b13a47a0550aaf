import PluginHost.Proofs.Data.Absent
import PluginHost.Proofs.Lua.Decoding
import PluginHost.Proofs.Lua.Pushing
import PluginHost.Proofs.Single

/-!
# Data with absent parts on the Lua stack

A table has no entry whose value is nothing. `valueAs_readsKept` says what therefore reads back from what stands for
a datum: what tables keep of it, if nothing of that is absent, and otherwise nothing at all. A container that is a key
goes through a table that is a key by being itself; the proof follows what stands for a datum (`Represents`) and not the
order of its parts.
-/

namespace PluginHost.Lua

/-! ## Tables that were filled -/

theorem toEntries_perm_of_lastOf {t : Table} {ps : List (Key × Value)} (hn : (ps.map Prod.fst).Nodup)
    (hget : ∀ k, t.get k = lastOf ps (fun _ => .nil) k) : t.toEntries.Perm (ps.filter fun p => !p.2.isNil) := by
  refine (List.perm_ext_iff_of_nodup (List.Nodup.of_map _ t.nodup_keys) ((List.Nodup.of_map _ hn).filter _)).2 ?_
  rintro ⟨k, v⟩
  rw [t.mem_toEntries, hget, List.mem_filter, Bool.not_eq_true', Value.isNil_eq_false_iff, lastOf]
  have hrev : (ps.reverse.map Prod.fst).Nodup := by rwa [List.map_reverse, List.nodup_reverse]
  refine and_congr_left fun hv => ⟨fun h => ?_, fun h => ?_⟩
  · cases hl : ps.reverse.lookup k with
    | none =>
      rw [hl] at h
      exact absurd h.symm hv
    | some w =>
      rw [hl] at h
      exact List.mem_reverse.1 (h ▸ Layout.mem_of_lookup_eq_some hl)
  · rw [Layout.lookup_eq_some_of_mem hrev (List.mem_reverse.2 h)]
    rfl

theorem positions_itemPairs {xs : List Value} (hl : xs.length < 2 ^ 63) :
    (itemPairs 0 xs).map (·.1.position?) = (List.range xs.length).map some := by
  refine List.ext_getElem (by simp [itemPairs]) fun i h₁ h₂ => ?_
  simp only [itemPairs, List.map_map, List.getElem_map, List.getElem_zipIdx, Function.comp, List.getElem_range,
    Nat.zero_add]
  simp only [List.length_map, List.length_range] at h₂
  exact Key.position?_atPosition (by omega)

theorem nodup_itemPairs {xs : List Value} (hl : xs.length < 2 ^ 63) : ((itemPairs 0 xs).map Prod.fst).Nodup := by
  refine List.Nodup.of_map Key.position? ?_
  rw [List.map_map]
  exact positions_itemPairs hl ▸ List.Nodup.map (fun _ _ => Option.some.inj) List.nodup_range

theorem map_snd_itemPairs (i : Nat) (xs : List Value) : (itemPairs i xs).map Prod.snd = xs := by
  rw [itemPairs, List.map_map]
  exact List.zipIdx_map_fst i xs

theorem length_itemPairs (i : Nat) (xs : List Value) : (itemPairs i xs).length = xs.length := by
  rw [itemPairs, List.length_map, List.length_zipIdx]

/-! ## Sequences -/

section Sequences

variable {h : Heap} {o : Traversal} {id : Nat} {xs : List Value}

/-- The items at the end that are nothing leave no entries. -/
theorem filter_itemPairs (xs : List Value) : ((itemPairs 0 xs).filter fun p => !p.2.isNil) =
    (itemPairs 0 (xs.rdropWhile Value.isNil)).filter fun p => !p.2.isNil := by
  have hsplit : xs.rdropWhile Value.isNil ++ xs.rtakeWhile Value.isNil = xs := List.rdropWhile_append_rtakeWhile
  have happend : itemPairs 0 xs = itemPairs 0 (xs.rdropWhile Value.isNil) ++
      itemPairs (xs.rdropWhile Value.isNil).length (xs.rtakeWhile Value.isNil) := by
    rw [itemPairs, itemPairs, itemPairs, ← List.map_append, ← Nat.zero_add (xs.rdropWhile _).length,
      ← List.zipIdx_append, hsplit]
  rw [happend, List.filter_append, List.append_right_eq_self, List.filter_eq_nil_iff]
  intro p hp
  have hmem := List.mem_map_of_mem (f := Prod.snd) hp
  rw [map_snd_itemPairs] at hmem
  simp [List.mem_rtakeWhile_imp hmem]

/-- A table whose entries are numbered items is a sequence. -/
theorem isSequence_of_perm (hl : xs.length < 2 ^ 63) (hperm : (h.table id).toEntries.Perm (itemPairs 0 xs)) :
    (h.table id).IsSequence := by
  rw [Table.IsSequence, hperm.length_eq, length_itemPairs, ← positions_itemPairs hl]
  exact hperm.map _

/-- The items are what the table has at their places. -/
theorem items_eq_of_perm (hperm : (h.table id).toEntries.Perm (itemPairs 0 xs)) :
    xs = (List.range xs.length).map fun i => (h.table id).get (.atPosition i) := by
  refine List.ext_getElem (by simp) fun i hi _ => ?_
  rw [List.getElem_map, List.getElem_range]
  refine (Table.lookup_eq_get (hperm.mem_iff.2 (List.mem_map.2 ⟨(xs[i], i), ?_, rfl⟩))).symm
  exact List.mk_mem_zipIdx_iff_getElem?.2 (List.getElem?_eq_getElem hi)

/-- A table that lacks some of the items before the last is none: its entries are fewer than the items, and so the
place of the last item is too high. -/
theorem not_isSequence_of_gap (hl : xs.length < 2 ^ 63) (hlast : ∀ hne : xs ≠ [], ¬(xs.getLast hne).isNil)
    (hgap : ∃ x ∈ xs, x.isNil)
    (hperm : (h.table id).toEntries.Perm ((itemPairs 0 xs).filter fun p => !p.2.isNil)) :
    ¬(h.table id).IsSequence := by
  intro hsequence
  obtain ⟨x, hx, hnil⟩ := hgap
  have hne : xs ≠ [] := List.ne_nil_of_mem hx
  have hfewer : (h.table id).toEntries.length < xs.length := by
    rw [hperm.length_eq, ← length_itemPairs 0 xs, List.length_filter_lt_length_iff_exists]
    obtain ⟨p, hp, rfl⟩ := List.mem_map.1 ((map_snd_itemPairs 0 xs).symm ▸ hx)
    exact ⟨p, hp, by simp [hnil]⟩
  have hplace : (Key.atPosition (xs.length - 1)).position? = some (xs.length - 1) :=
    Key.position?_atPosition (by omega)
  have hmem : (Key.atPosition (xs.length - 1), xs.getLast hne) ∈ (h.table id).toEntries := by
    refine hperm.mem_iff.2 (List.mem_filter.2 ⟨List.mem_map.2 ⟨(xs.getLast hne, xs.length - 1), ?_, rfl⟩, ?_⟩)
    · rw [List.mk_mem_zipIdx_iff_getElem?, List.getLast_eq_getElem]
      exact List.getElem?_eq_getElem _
    · simpa using hlast hne
  obtain ⟨i, hi, hi'⟩ := List.mem_map.1 (hsequence.mem_iff.1 (List.mem_map_of_mem hmem))
  rw [hplace, Option.some.injEq] at hi'
  rw [List.mem_range] at hi
  omega

/-- A table that was filled with items reads as a sequence of them up to the last that is not nothing, if none before
that is. -/
theorem valueAs_vec (hl : xs.length < 2 ^ 63)
    (hget : ∀ k, (h.table id).get k = lastOf (itemPairs 0 xs) (fun _ => .nil) k)
    (t : Ty) : Vm.valueAs h o (.vec t) (.table id) =
      if (xs.rdropWhile Value.isNil).all (!·.isNil) then
        ((xs.rdropWhile Value.isNil).mapM (Vm.valueAs h o t)).map .list
      else none := by
  have hperm := toEntries_perm_of_lastOf (nodup_itemPairs hl) hget
  rw [filter_itemPairs] at hperm
  have hlast := List.rdropWhile_last_not Value.isNil xs
  have hl : (xs.rdropWhile Value.isNil).length < 2 ^ 63 :=
    Nat.lt_of_le_of_lt (List.rdropWhile_prefix _ xs).length_le hl
  show (Vm.pairsAs _ _ (o.entries h id)).bind Vm.itemsOf? = _
  rw [pairsAs_bind_itemsOf? (o.perm h id)]
  generalize xs.rdropWhile Value.isNil = ys at *
  by_cases hall : ys.all (!·.isNil)
  · have hkept : ∀ p ∈ itemPairs 0 ys, _ := fun p hp =>
      List.all_eq_true.1 hall _ (map_snd_itemPairs 0 ys ▸ List.mem_map_of_mem hp)
    rw [List.filter_eq_self.2 hkept] at hperm
    rw [if_pos hall, if_pos (isSequence_of_perm hl hperm), hperm.length_eq, length_itemPairs]
    conv_rhs => rw [items_eq_of_perm hperm, List.mapM_map]
    rfl
  · have hgap : ∃ y ∈ ys, y.isNil := by simpa using hall
    rw [if_neg hall, if_neg (not_isSequence_of_gap hl hlast hgap hperm)]

end Sequences

/-! ## Keys that were pushed -/

section Keys

variable {lo lo' : Nat} {h : Heap} {x : Value}

/-- What stands for a datum is nothing exactly if the datum is. -/
theorem Represents.eq_nil_iff : ∀ {d : Datum}, Represents lo h d x → (x = .nil ↔ d.isAbsent)
  | .int _, hr => by simp [hr.2, Datum.isAbsent]
  | .f32 _, hr | .f64 _, hr | .bool _, hr | .str _, hr => by
    obtain rfl : x = _ := hr
    simp [Datum.isAbsent]
  | .unit, hr | .none, hr => by
    obtain rfl : x = _ := hr
    simp [Datum.isAbsent]
  | .some d, hr => Represents.eq_nil_iff (d := d) hr
  | .list _, ⟨_, _, hx, _⟩ | .map _, ⟨_, _, hx, _⟩ => by simp [hx, Datum.isAbsent]

/-- What stands for a key is a key. -/
theorem exists_key : ∀ {t : Ty} {d : Datum}, t.isPushable → t.isOrdered → d.hasType t → d.isAbsent = false →
    Represents lo h d x → ∃ k, Key.ofValue? x = some k ∧ k.toValue = x
  | .int _, d, _, _, hd, _, hx => by
    obtain ⟨n, rfl, -⟩ := Datum.hasType_int_iff.1 hd
    exact ⟨.integer (.ofInt n), hx.2 ▸ rfl, hx.2 ▸ rfl⟩
  | .bool, d, _, _, hd, _, hx => by
    obtain ⟨b, rfl⟩ := Datum.hasType_bool_iff.1 hd
    exact ⟨.boolean b, hx ▸ rfl, hx ▸ rfl⟩
  | .str, d, _, _, hd, _, hx => by
    obtain ⟨s, rfl⟩ := Datum.hasType_str_iff.1 hd
    exact ⟨.text s.toUTF8, hx ▸ rfl, hx ▸ rfl⟩
  | .nil, d, _, _, hd, ha, _ => by
    obtain rfl := Datum.hasType_nil_iff.1 hd
    cases ha
  | .opt t, d, ht, ho, hd, ha, hx => by
    rcases Datum.hasType_opt_iff.1 hd with rfl | ⟨e, rfl, he⟩
    · cases ha
    · exact exists_key (t := t) ht ho he ha hx
  | .vec _, d, _, _, hd, _, hx => by
    obtain ⟨ds, rfl, -⟩ := Datum.hasType_vec_iff.1 hd
    obtain ⟨id, -, rfl, -⟩ := hx
    exact ⟨.table id, rfl, rfl⟩
  | .map _ _, d, _, _, hd, _, hx => by
    obtain ⟨es, rfl, -⟩ := Datum.hasType_map_iff.1 hd
    obtain ⟨id, -, rfl, -⟩ := hx
    exact ⟨.table id, rfl, rfl⟩

/-- A value that is no table stands for one key of each type. -/
theorem eq_of_represents (hx : ∀ id, x ≠ .table id) : ∀ {t : Ty} {d d' : Datum}, t.isPushable → t.isOrdered →
    d.hasType t → d'.hasType t → d.isAbsent = false → d'.isAbsent = false → Represents lo h d x →
    Represents lo' h d' x → d = d'
  | .int _, d, d', _, _, hd, hd', _, _, hr, hr' => by
    obtain ⟨n, rfl, -⟩ := Datum.hasType_int_iff.1 hd
    obtain ⟨n', rfl, -⟩ := Datum.hasType_int_iff.1 hd'
    have := congrArg Int64.toInt (Value.integer.inj (hr.2.symm.trans hr'.2))
    rw [Int64.toInt_ofInt_of_le hr.1.1 hr.1.2, Int64.toInt_ofInt_of_le hr'.1.1 hr'.1.2] at this
    rw [this]
  | .bool, d, d', _, _, hd, hd', _, _, hr, hr' => by
    obtain ⟨b, rfl⟩ := Datum.hasType_bool_iff.1 hd
    obtain ⟨b', rfl⟩ := Datum.hasType_bool_iff.1 hd'
    rw [Value.boolean.inj (hr.symm.trans hr')]
  | .str, d, d', _, _, hd, hd', _, _, hr, hr' => by
    obtain ⟨s, rfl⟩ := Datum.hasType_str_iff.1 hd
    obtain ⟨s', rfl⟩ := Datum.hasType_str_iff.1 hd'
    rw [String.toByteArray_inj.1 (Value.text.inj (hr.symm.trans hr'))]
  | .nil, d, _, _, _, hd, _, ha, _, _, _ => by
    obtain rfl := Datum.hasType_nil_iff.1 hd
    cases ha
  | .opt t, d, d', ht, ho, hd, hd', ha, ha', hr, hr' => by
    rcases Datum.hasType_opt_iff.1 hd with rfl | ⟨e, rfl, he⟩
    · cases ha
    · rcases Datum.hasType_opt_iff.1 hd' with rfl | ⟨e', rfl, he'⟩
      · cases ha'
      · rw [eq_of_represents hx (t := t) ht ho he he' ha ha' hr hr']
  | .vec _, d, _, _, _, hd, _, _, _, hr, _ => by
    obtain ⟨ds, rfl, -⟩ := Datum.hasType_vec_iff.1 hd
    obtain ⟨id, -, hid, -⟩ := hr
    exact absurd hid (hx id)
  | .map _ _, d, _, _, _, hd, _, _, _, hr, _ => by
    obtain ⟨es, rfl, -⟩ := Datum.hasType_map_iff.1 hd
    obtain ⟨id, -, hid, -⟩ := hr
    exact absurd hid (hx id)

theorem exists_of_mem_entries {es : List (Datum × Datum)} {ps : List (Key × Value)} {p : Key × Value}
    (hr : RepresentsEntries lo h es ps) (hp : p ∈ ps) :
    ∃ e ∈ es, ∃ x, Key.ofValue? x = some p.1 ∧ Represents lo h e.1 x := by
  induction es generalizing ps lo with
  | nil =>
    rw [RepresentsEntries] at hr
    rw [hr] at hp
    cases hp
  | cons e es ih =>
    obtain ⟨x, v, ps, rfl, hx, -, hps⟩ := hr
    rcases List.mem_append.1 hp with hp | hp
    · obtain ⟨k, hk, rfl⟩ := List.mem_map.1 hp
      exact ⟨_, List.mem_cons_self, x, Option.mem_toList.1 hk, hx⟩
    · obtain ⟨e, he, y, hy, hry⟩ := ih hps hp
      exact ⟨e, List.mem_cons_of_mem _ he, y, hy, hry.mono (Value.le_bound lo x) (.refl _ _)⟩

/-- Distinct keys are distinct in the table: as scalars by their values, as tables because each is a new one. -/
theorem nodup_of_representsEntries {t : Ty} (hp : t.isPushable) (ho : t.isOrdered) {es : List (Datum × Datum)}
    {ps : List (Key × Value)} (ht : ∀ e ∈ es, e.1.hasType t) (ha : ∀ e ∈ es, e.1.isAbsent = false)
    (hn : (es.map Prod.fst).Nodup) (hr : RepresentsEntries lo h es ps) : (ps.map Prod.fst).Nodup := by
  induction es generalizing ps lo with
  | nil =>
    rw [RepresentsEntries] at hr
    rw [hr]
    exact List.nodup_nil
  | cons e es ih =>
    obtain ⟨x, v, ps, rfl, hx, -, hps⟩ := hr
    rw [List.forall_mem_cons] at ht ha
    rw [List.map_cons, List.nodup_cons, List.mem_map] at hn
    obtain ⟨k, hk, hkx⟩ := exists_key hp ho ht.1 ha.1 hx
    rw [entryOf, hk]
    refine List.nodup_cons.2 ⟨?_, ih ht.2 ha.2 hn.2 hps⟩
    intro hmem
    obtain ⟨q, hq, hqk⟩ := List.mem_map.1 hmem
    obtain ⟨e, he, y, hy, hry⟩ := exists_of_mem_entries hps hq
    obtain ⟨k', hk', hky⟩ := exists_key hp ho (ht.2 e he) (ha.2 e he) hry
    have hxy : y = x := by
      rw [← hkx, ← hky, Option.some.inj (hk'.symm.trans hy), hqk]
    subst hxy
    by_cases htable : ∃ id, y = .table id
    · obtain ⟨id, rfl⟩ := htable
      have := hry.table_lt.1
      simp only [Value.bound] at this
      omega
    · have heq := eq_of_represents (fun id hid => htable ⟨id, hid⟩) hp ho ht.1 (ht.2 e he) ha.1 (ha.2 e he) hx hry
      exact hn.1 ⟨e, he, heq.symm⟩

end Keys

/-! ## Reading what stands for a datum -/

section Lists

variable {α β γ : Type} {r : α → β → Prop} {p : α → Bool} {q : β → Bool} {as : List α} {bs : List β}

theorem forall₂_dropWhile (hpq : ∀ a b, r a b → p a = q b) (h : List.Forall₂ r as bs) :
    List.Forall₂ r (as.dropWhile p) (bs.dropWhile q) := by
  induction h with
  | nil => exact .nil
  | @cons a b as bs hab has ih =>
    rw [List.dropWhile_cons, List.dropWhile_cons, hpq a b hab]
    split
    · exact ih
    · exact .cons hab has

theorem forall₂_rdropWhile (hpq : ∀ a b, r a b → p a = q b) (h : List.Forall₂ r as bs) :
    List.Forall₂ r (as.rdropWhile p) (bs.rdropWhile q) :=
  List.rel_reverse (forall₂_dropWhile hpq (List.rel_reverse h))

theorem all_eq_of_forall₂ (hpq : ∀ a b, r a b → p a = q b) (h : List.Forall₂ r as bs) : as.all p = bs.all q := by
  induction h with
  | nil => rfl
  | @cons a b as bs hab _ ih => rw [List.all_cons, List.all_cons, hpq a b hab, ih]

theorem forall₂_imp_of_mem {r' : α → β → Prop} (h : List.Forall₂ r as bs) (hr : ∀ a, ∀ b ∈ bs, r a b → r' a b) :
    List.Forall₂ r' as bs := by
  induction h with
  | nil => exact .nil
  | cons hab _ ih =>
    exact .cons (hr _ _ List.mem_cons_self hab) (ih fun a b hb => hr a b (List.mem_cons_of_mem _ hb))

/-- Reading one after the other fails if one fails. -/
theorem mapM_of_forall₂ {f : α → Option γ} {g : β → γ}
    (h : List.Forall₂ (fun a b => f a = if q b then some (g b) else none) as bs) :
    as.mapM f = if bs.all q then some (bs.map g) else none := by
  induction h with
  | nil => rfl
  | @cons a b as bs hab _ ih =>
    rw [List.mapM_cons, hab, ih, List.all_cons]
    cases q b <;> cases bs.all q <;> rfl

end Lists

section Reading

variable {h : Heap} {o : Traversal} {t u : Ty} {lo : Nat}

/-- Whether what stands for data of a type reads as what tables keep of them if no part of that is absent, and otherwise
as nothing. -/
def ReadsKept (h : Heap) (t : Ty) (f : Value → Option Datum) : Prop :=
  ∀ ⦃lo : Nat⦄ ⦃d : Datum⦄ ⦃x : Value⦄, d.hasType t → d.IsValue → d.keysPresent → d.kept.IsValue →
    Represents lo h d x → f x = if d.kept.isDense then some d.kept.sorted else none

theorem forall₂_of_representsItems {ds : List Datum} {xs : List Value} (hr : RepresentsItems lo h ds xs) :
    List.Forall₂ (fun x d => Represents lo h d x) xs ds := by
  induction ds generalizing xs with
  | nil =>
    rw [RepresentsItems] at hr
    rw [hr]
    exact .nil
  | cons d ds ih =>
    obtain ⟨x, xs, rfl, hx, hxs⟩ := hr
    exact .cons hx (ih hxs)

/-- Each entry of a map whose keys are there has its own entry in the table. -/
theorem forall₂_of_representsEntries (hp : t.isPushable) (ho : t.isOrdered) {es : List (Datum × Datum)}
    {ps : List (Key × Value)} (ht : ∀ e ∈ es, e.1.hasType t) (ha : ∀ e ∈ es, e.1.isAbsent = false)
    (hr : RepresentsEntries lo h es ps) :
    List.Forall₂ (fun p e => ∃ lo, Represents lo h e.1 p.1.toValue ∧ Represents lo h e.2 p.2) ps es := by
  induction es generalizing ps lo with
  | nil =>
    rw [RepresentsEntries] at hr
    rw [hr]
    exact .nil
  | cons e es ih =>
    obtain ⟨x, v, ps, rfl, hx, hv, hps⟩ := hr
    rw [List.forall_mem_cons] at ht ha
    obtain ⟨k, hk, hkx⟩ := exists_key hp ho ht.1 ha.1 hx
    rw [entryOf, hk]
    exact .cons ⟨lo, hkx.symm ▸ hx, hv⟩ (ih ht.2 ha.2 hps)

theorem isNil_of_represents {d : Datum} {x : Value} (hr : Represents lo h d x) : x.isNil = d.isAbsent := by
  rw [Bool.eq_iff_iff, Value.isNil_iff]
  exact hr.eq_nil_iff

/-- A table that was filled with items reads as their sequence. -/
theorem vec_readsKept (hf : ReadsKept h t (Vm.valueAs h o t)) : ReadsKept h (.vec t) (Vm.valueAs h o (.vec t)) := by
  intro lo d x hd hv hk hv' hr
  obtain ⟨ds, rfl, hds⟩ := Datum.hasType_vec_iff.1 hd
  obtain ⟨id, xs, rfl, -, -, hxs, hget⟩ := hr
  rw [Datum.kept_list] at hv'
  have hvalues := Datum.areValues_iff.1 hv.2
  have hkeys := Datum.areKeysPresent_iff.1 hk
  have hkept := Datum.areValues_iff.1 hv'.2
  have hlen : xs.length < 2 ^ 63 := (length_of_representsItems hxs).symm ▸ hv.1
  have hitems := forall₂_rdropWhile (p := Value.isNil) (q := Datum.isAbsent) (fun _ _ => isNil_of_represents)
    (forall₂_of_representsItems hxs)
  have hread : List.Forall₂ (fun x d => Vm.valueAs h o t x = if d.kept.isDense then some d.kept.sorted else none)
      (xs.rdropWhile Value.isNil) (ds.rdropWhile Datum.isAbsent) := by
    refine forall₂_imp_of_mem hitems fun x d hmem hr => ?_
    have hmem' : d ∈ ds := (List.rdropWhile_prefix _ _).subset hmem
    exact hf (hds d hmem') (hvalues d hmem') (hkeys d hmem') (hkept _ (List.mem_map_of_mem hmem)) hr
  have hall := all_eq_of_forall₂ (p := fun x => !x.isNil) (q := fun d => !d.isAbsent)
    (fun _ _ hr => congrArg _ (isNil_of_represents hr)) hitems
  rw [valueAs_vec hlen hget, hall, mapM_of_forall₂ hread, Datum.isDense_kept_list, Datum.sorted_kept_list]
  cases (ds.rdropWhile Datum.isAbsent).all (!·.isAbsent)
  · rfl
  · rw [if_pos rfl, Bool.true_and]
    split <;> rfl

/-- A table that was filled with entries reads as their map. -/
theorem map_readsKept (hp : t.isPushable) (ho : t.isOrdered) (hfk : ReadsKept h t (Vm.valueAs h o t))
    (hfv : ReadsKept h u (Vm.valueAs h o u)) : ReadsKept h (.map t u) (Vm.valueAs h o (.map t u)) := by
  intro lo d x hd hv hk hv' hr
  obtain ⟨es, rfl, hes⟩ := Datum.hasType_map_iff.1 hd
  obtain ⟨id, ps, rfl, -, -, hps, hget⟩ := hr
  rw [Datum.kept_map] at hv'
  have hvalues := Datum.hasValues_iff.1 hv.2
  have hkeys := Datum.haveKeysPresent_iff.1 hk
  have hkept := Datum.hasValues_iff.1 hv'.2
  have htypes : ∀ e ∈ es, e.1.hasType t := fun e he => (hes e he).1
  have hpresent : ∀ e ∈ es, e.1.isAbsent = false := fun e he => (hkeys e he).1
  have hperm := toEntries_perm_of_lastOf
    (nodup_of_representsEntries hp ho htypes hpresent (Datum.nodup_keys_of_isValue hv) hps) hget
  have hentries := List.rel_filter (p := fun p => !p.2.isNil) (q := fun e => !e.2.isAbsent)
    (fun {_ _} hr => by
      obtain ⟨_, -, hr⟩ := hr
      show (!Value.isNil _) = true ↔ _
      rw [isNil_of_represents hr]) (forall₂_of_representsEntries hp ho htypes hpresent hps)
  have hmem : ∀ e ∈ es.filter fun e => !e.2.isAbsent, e ∈ es := fun _ he => List.mem_of_mem_filter he
  have hread := mapM_of_forall₂ (q := fun e => e.1.kept.isDense && e.2.kept.isDense)
    (g := fun e => (e.1.kept.sorted, e.2.kept.sorted))
    (f := fun p => do return (← Vm.valueAs h o t p.1.toValue, ← Vm.valueAs h o u p.2))
    (forall₂_imp_of_mem hentries fun p e he ⟨_, hrk, hrv⟩ => by
      have he' := hmem e he
      have hkept := hkept _ (List.mem_map_of_mem he)
      rw [hfk (hes e he').1 (hvalues e he').1 (hkeys e he').2.1 hkept.1 hrk,
        hfv (hes e he').2 (hvalues e he').2 (hkeys e he').2.2 hkept.2 hrv]
      cases e.1.kept.isDense <;> cases e.2.kept.isDense <;> rfl)
  refine (pairsAs_map_of_perm (Datum.compare_orders ho) ((o.perm h id).trans hperm) fun pairs hpairs => ?_).trans ?_
  · obtain ⟨-, hpairs⟩ := Option.ite_none_right_eq_some.1 (hread.symm.trans hpairs)
    cases hpairs
    have hnodup := hv'.1
    rw [Datum.sortedParts_eq, List.map_map] at hnodup
    refine ⟨fun p hmem' => ?_, by rw [List.map_map]; rwa [List.map_map] at hnodup⟩
    obtain ⟨e, he, rfl⟩ := List.mem_map.1 hmem'
    exact Datum.hasType_sorted (Datum.hasType_kept hp (htypes e (hmem e he)))
  · rw [Datum.isDense_kept_map, Datum.sorted_kept_map, Vm.pairsAs, hread]
    split <;> rfl

/-- What stands for a datum reads as what tables keep of it, however tables are traversed, if no part of that is absent,
and otherwise as nothing. -/
theorem valueAs_readsKept : ∀ {t : Ty}, t.isPushable → ReadsKept h t (Vm.valueAs h o t)
  | .int t, _ => by
    intro lo d x hd _ _ _ hr
    obtain ⟨n, rfl, hn⟩ := Datum.hasType_int_iff.1 hd
    obtain ⟨hbounds, rfl⟩ := hr
    refine (scalar?_int t _).trans ?_
    rw [integerOf?, Int64.toInt_ofInt_of_le hbounds.1 hbounds.2, Option.bind_some, if_pos (IntTy.holds_iff.1 hn)]
    rfl
  | .f32, _ => by
    intro lo d x hd _ _ _ hr
    obtain ⟨y, rfl⟩ := Datum.hasType_f32_iff.1 hd
    obtain rfl : x = _ := hr
    show some (Datum.f32 (Single.ofDouble (Single.toDouble y))) = _
    rw [Single.ofDouble_toDouble]
    rfl
  | .f64, _ => by
    intro lo d x hd _ _ _ hr
    obtain ⟨y, rfl⟩ := Datum.hasType_f64_iff.1 hd
    obtain rfl : x = _ := hr
    rfl
  | .bool, _ => by
    intro lo d x hd _ _ _ hr
    obtain ⟨b, rfl⟩ := Datum.hasType_bool_iff.1 hd
    obtain rfl : x = _ := hr
    rfl
  | .str, _ => by
    intro lo d x hd _ _ _ hr
    obtain ⟨s, rfl⟩ := Datum.hasType_str_iff.1 hd
    obtain rfl : x = _ := hr
    exact congrArg (Option.map Datum.str) (Text.ofBytes?_toUTF8 s)
  | .nil, _ => by
    intro lo d x hd _ _ _ hr
    obtain rfl := Datum.hasType_nil_iff.1 hd
    obtain rfl : x = _ := hr
    rfl
  | .opt t, ht => by
    intro lo d x hd hv hk hv' hr
    rcases Datum.hasType_opt_iff.1 hd with rfl | ⟨e, rfl, he⟩
    · obtain rfl : x = _ := hr
      rfl
    · have hnil : x.isNil = e.isAbsent := isNil_of_represents hr
      cases ha : e.isAbsent
      · rw [Datum.kept_some ha] at hv' ⊢
        rw [ha, Value.isNil_eq_false_iff] at hnil
        rw [Vm.valueAs, valueAs_readsKept (t := t) ht he hv hk hv' hr, Datum.isDense, Datum.isAbsent_kept, ha]
        · cases e.kept.isDense <;> rfl
        · exact hnil
      · obtain rfl := Value.isNil_iff.1 (hnil.trans ha)
        rw [Datum.kept_some_of_isAbsent ha]
        rfl
  | .vec t, ht => vec_readsKept (valueAs_readsKept (t := t) ht)
  | .map k v, ht => by
    simp only [Ty.isPushable, Bool.and_eq_true] at ht
    exact map_readsKept ht.1.1 ht.1.2 (valueAs_readsKept ht.1.1) (valueAs_readsKept ht.2)

end Reading

/-! ## Reading what was pushed -/

theorem eq_pushValue_of_grows {p : Nat → Prop} {vm vm₁ : Vm} {x : Value} (hg : Vm.Grows p vm vm₁ [x])
    (hr : vm₁.refusals = vm.refusals) : vm₁ = { vm with heap := vm₁.heap }.pushValue x := by
  obtain ⟨heap, stack, refusals, traversal, missing, strays⟩ := vm₁
  obtain ⟨-, hs, ht, hm, hi⟩ := hg
  simp only at hs ht hm hi hr
  subst hr ht hm hi
  simp [Vm.pushValue, hs]

/-- What is pushed reads as what tables keep of it, or as nothing: without a refusal the first exactly if no part of
what is kept is absent. A sequence that ends in absent items and a map with absent values therefore come back shorter,
and of all else with an absent part nothing comes back. -/
theorem read_push (vm after : Vm) (d : Datum) (t : Ty) (ht : t.isPushable) (hd : d.hasType t) (hv : d.IsValue)
    (hk : d.keysPresent) (hv' : d.kept.IsValue) (hp : vm.push d = (.ok (), after)) :
    ((after.read t).1 = none ∨ (after.read t).1 = some d.kept.sorted) ∧
      ((after.read t).2.refusals = after.refusals → ((after.read t).1 = some d.kept.sorted ↔ d.kept.isDense)) := by
  obtain ⟨⟨x, hg, hx⟩, hrefusals⟩ := Vm.push_ok hp
  have htop : after.topValue? = some x := by
    rw [eq_pushValue_of_grows hg hrefusals]
    exact Vm.topValue?_pushValue _ x 0
  have hread : (after.read t).2.refusals = after.refusals →
      (after.read t).1 = if d.kept.isDense then some d.kept.sorted else none := fun hr =>
    (congrArg Prod.fst (Vm.read_eq_valueAs htop t hr)).trans (valueAs_readsKept ht hd hv hk hv' hx)
  refine ⟨?_, fun hr => ?_⟩
  · rcases Vm.readTop_givesUp t after with hr | hnone
    · rw [hread hr]
      split
      · exact .inr rfl
      · exact .inl rfl
    · exact .inl hnone
  · rw [hread hr]
    split
    · next hdense => exact iff_of_true rfl hdense
    · next hdense => exact iff_of_false nofun hdense

/-- A map of sequences with absent items, one of them between others. -/
def sampleGaps : Datum :=
  .map [(.str "end", .list [.some (.int 1), .none]), (.str "gap", .list [.none, .some (.int 2)])]

/-- A map with a gap in one of its sequences does not come back. -/
theorem read_push_sampleGaps : ((({} : Vm).push sampleGaps).2.read (.map .str (.vec (.opt (.int .i64))))).1 = none := by
  have hv : sampleGaps.IsValue := by
    simp [sampleGaps, Datum.IsValue, Datum.AreValues, Datum.HasValues, Datum.sortedParts, Datum.sorted]
  have hv' : sampleGaps.kept.IsValue := by
    have hkept : sampleGaps.kept =
        .map [(.str "end", .list [.some (.int 1)]), (.str "gap", .list [.none, .some (.int 2)])] := rfl
    simp [hkept, Datum.IsValue, Datum.AreValues, Datum.HasValues, Datum.sortedParts, Datum.sorted]
  obtain ⟨hread | hread, hdense⟩ := read_push {} (({} : Vm).push sampleGaps).2 sampleGaps
    (.map .str (.vec (.opt (.int .i64)))) rfl rfl hv rfl hv' (Prod.ext rfl rfl)
  · exact hread
  · exact absurd ((hdense (by decide)).1 hread) (by decide)

/-- A sequence that ends in an absent item comes back without it. -/
theorem read_push_shorter : ((({} : Vm).push (.list [.some (.int 1), .none])).2.read (.vec (.opt (.int .i64)))).1 =
    some (.list [.some (.int 1)]) := by
  rfl

end PluginHost.Lua
