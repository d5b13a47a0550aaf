import PluginHost.Proofs.Python.RoundTrip

/-!
# Sequences in keys

A key of a dictionary has to be hashable, which a list is not. A sequence that is a key becomes a tuple, and so do its
items (`Draft.asKey`), but the items of a tuple are left as they are: a sequence among them stays a list, and the map has
no dictionary (`not_isHashable`, `ofDatum?_eq_none`). All other maps have one, whose keys are tuples where the keys of the
map are sequences, and which reads as the collapsed map (`encode_keys`).
-/

namespace PluginHost.Python

/-! ## Objects that are no keys -/

theorem exists_mem_of_traverse {α β : Type} {f : α → Option β} {xs : List α} {ys : List β} {x : α}
    (h : Draft.traverse f xs = some ys) (hx : x ∈ xs) : ∃ y ∈ ys, f x = some y := by
  rw [traverse_eq_some_iff] at h
  induction h with
  | nil => cases hx
  | @cons x' y xs ys hy _ ih =>
    rcases List.mem_cons.1 hx with rfl | hx
    · exact ⟨y, List.mem_cons_self, hy⟩
    · obtain ⟨z, hz, hxz⟩ := ih hx
      exact ⟨z, List.mem_cons_of_mem _ hz, hxz⟩

theorem traverse_eq_none {α β : Type} {f : α → Option β} {xs : List α} {x : α} (hx : x ∈ xs) (h : f x = none) :
    Draft.traverse f xs = none := by
  rw [Option.eq_none_iff_forall_ne_some]
  intro ys hys
  obtain ⟨y, -, hy⟩ := exists_mem_of_traverse hys hx
  cases h.symm.trans hy

theorem asKeys_eq (xs : List Draft) : Draft.asKeys xs = xs.map Draft.asKey := by
  induction xs with
  | nil => rfl
  | cons x xs ih => rw [Draft.asKeys, ih, List.map_cons]

theorem allHashable_eq (xs : List Draft) : Draft.allHashable xs = xs.all Draft.isHashable := by
  induction xs with
  | nil => rfl
  | cons x xs ih => rw [Draft.allHashable, ih, List.all_cons]

mutual

/-- A datum that cannot be a key becomes an object that is none, be it rewritten or, in a tuple, as it is. -/
theorem not_isHashable {b : Bool} : ∀ {t : Ty} {d : Datum} {x : Draft}, t.isKeyLike → d.hasType t →
    d.isUsableKey b t = false → Draft.ofDatum? t d = some x → (bif b then x else x.asKey).isHashable = false
  | .int _, d, x, _, hd, hu, hx => by
    obtain ⟨n, rfl, -⟩ := Datum.hasType_int_iff.1 hd
    cases hu
  | .bool, d, x, _, hd, hu, hx => by
    obtain ⟨b, rfl⟩ := Datum.hasType_bool_iff.1 hd
    cases hu
  | .str, d, x, _, hd, hu, hx => by
    obtain ⟨s, rfl⟩ := Datum.hasType_str_iff.1 hd
    cases hu
  | .opt t, d, x, ht, hd, hu, hx => by
    rcases Datum.hasType_opt_iff.1 hd with rfl | ⟨e, rfl, he⟩
    · cases hu
    · exact not_isHashable (t := t) ht he hu hx
  | .vec t, d, x, ht, hd, hu, hx => by
    obtain ⟨ds, rfl, hds⟩ := Datum.hasType_vec_iff.1 hd
    obtain ⟨xs, hxs, rfl⟩ := Option.map_eq_some_iff.1 hx
    cases b with
    | true => rfl
    | false =>
      obtain ⟨e, he, hunusable⟩ := List.all_eq_false.1 hu
      obtain ⟨y, hy, hey⟩ := exists_mem_of_traverse hxs he
      have hitem := not_isHashable (t := t) ht (hds e he) (Bool.eq_false_iff.2 hunusable) hey
      show Draft.allHashable (Draft.asKeys xs) = false
      rw [asKeys_eq, allHashable_eq, List.all_map, List.all_eq_false]
      exact ⟨y, hy, Bool.eq_false_iff.1 hitem⟩
  | .tuple ts, d, x, ht, hd, hu, hx => by
    obtain ⟨ds, rfl, hds⟩ := Datum.hasType_tuple_iff.1 hd
    obtain ⟨xs, hxs, rfl⟩ := Option.map_eq_some_iff.1 hx
    have hall := not_allHashable ht hds hu hxs
    cases b <;> exact hall

theorem not_allHashable : ∀ {ts : List Ty} {ds : List Datum} {xs : List Draft}, Ty.areKeyLike ts →
    Datum.haveTypes ds ts → Datum.areUsableKeys ts ds = false → Draft.ofEach? ts ds = some xs →
    Draft.allHashable xs = false
  | [], [], _, _, _, hu, _ => by cases hu
  | t :: ts, d :: ds, xs, ht, hd, hu, hx => by
    simp only [Ty.areKeyLike, Datum.haveTypes, Bool.and_eq_true] at ht hd
    rw [Datum.areUsableKeys, Bool.and_eq_false_iff] at hu
    rw [Draft.ofEach?] at hx
    split at hx
    · next y ys hy hys =>
      cases hx
      rw [Draft.allHashable, Bool.and_eq_false_iff]
      exact hu.imp (fun hu => not_isHashable (b := true) ht.1 hd.1 hu hy) fun hu => not_allHashable ht.2 hd.2 hu hys
    · cases hx

end

/-! ## Maps without a dictionary -/

theorem entry?_eq_none {k v : Ty} {e : Datum × Datum} (hk : k.isKeyLike) (ht : e.1.hasType k)
    (hu : e.1.isUsableKey false k = false) : Draft.entry? (Draft.ofDatum? k e.1) (Draft.ofDatum? v e.2) = none := by
  cases hx : Draft.ofDatum? k e.1 with
  | none => rfl
  | some x =>
    have hkey : x.asKey.isHashable = false := not_isHashable (b := false) hk ht hu hx
    cases Draft.ofDatum? v e.2 with
    | none => rfl
    | some y => rw [Draft.entry?, hkey, if_neg Bool.false_ne_true]

mutual

/-- A datum in which a key of a map cannot be one does not become an object. -/
theorem ofDatum?_eq_none : ∀ {t : Ty} {d : Datum}, t.isConvertible → d.hasType t → d.hasUsableKeys t = false →
    Draft.ofDatum? t d = none
  | .int _, d, _, hd, hu => by
    obtain ⟨n, rfl, -⟩ := Datum.hasType_int_iff.1 hd
    cases hu
  | .f32, d, _, hd, hu => by
    obtain ⟨x, rfl⟩ := Datum.hasType_f32_iff.1 hd
    cases hu
  | .f64, d, _, hd, hu => by
    obtain ⟨x, rfl⟩ := Datum.hasType_f64_iff.1 hd
    cases hu
  | .bool, d, _, hd, hu => by
    obtain ⟨b, rfl⟩ := Datum.hasType_bool_iff.1 hd
    cases hu
  | .str, d, _, hd, hu => by
    obtain ⟨s, rfl⟩ := Datum.hasType_str_iff.1 hd
    cases hu
  | .opt t, d, ht, hd, hu => by
    rcases Datum.hasType_opt_iff.1 hd with rfl | ⟨e, rfl, he⟩
    · cases hu
    · exact ofDatum?_eq_none (t := t) ht he hu
  | .vec t, d, ht, hd, hu => by
    obtain ⟨ds, rfl, hds⟩ := Datum.hasType_vec_iff.1 hd
    obtain ⟨e, he, hunusable⟩ := List.all_eq_false.1 hu
    have hitem := ofDatum?_eq_none (t := t) ht (hds e he) (Bool.eq_false_iff.2 hunusable)
    exact congrArg (Option.map Draft.list) (traverse_eq_none he hitem)
  | .tuple ts, d, ht, hd, hu => by
    obtain ⟨ds, rfl, hds⟩ := Datum.hasType_tuple_iff.1 hd
    exact congrArg (Option.map Draft.tuple) (ofEach?_eq_none ht hds hu)
  | .map k v, d, ht, hd, hu => by
    simp only [Ty.isConvertible, Bool.and_eq_true] at ht
    obtain ⟨es, rfl, hes⟩ := Datum.hasType_map_iff.1 hd
    obtain ⟨e, he, hunusable⟩ := List.all_eq_false.1 hu
    have hentry : Draft.entry? (Draft.ofDatum? k e.1) (Draft.ofDatum? v e.2) = none := by
      rcases Bool.and_eq_false_iff.1 (Bool.eq_false_iff.2 hunusable) with hkey | hvalue
      · exact entry?_eq_none ht.1 (hes e he).1 hkey
      · rw [ofDatum?_eq_none ht.2 (hes e he).2 hvalue]
        cases Draft.ofDatum? k e.1 <;> rfl
    exact congrArg (Option.map Draft.dict) (traverse_eq_none he hentry)

theorem ofEach?_eq_none : ∀ {ts : List Ty} {ds : List Datum}, Ty.areConvertible ts → Datum.haveTypes ds ts →
    Datum.haveUsableKeys ts ds = false → Draft.ofEach? ts ds = none
  | [], [], _, _, hu => by cases hu
  | t :: ts, d :: ds, ht, hd, hu => by
    simp only [Ty.areConvertible, Datum.haveTypes, Bool.and_eq_true] at ht hd
    rw [Datum.haveUsableKeys, Bool.and_eq_false_iff] at hu
    rw [Draft.ofEach?]
    rcases hu with hu | hu
    · rw [ofDatum?_eq_none ht.1 hd.1 hu]
    · rw [ofEach?_eq_none ht.2 hd.2 hu]
      cases Draft.ofDatum? t d <;> rfl

end

/-- What the keys of maps decide. If no sequence in a key is inside of a tuple, a datum becomes an object that mirrors it,
with a tuple for each sequence in a key, and reads back as it, with its maps sorted. Only what is there and absent at
once is just absent then, and of keys that so become one the last value counts. But if there is a sequence inside of a
tuple in some key, nothing becomes of the datum. -/
theorem encode_keys (t : Ty) (d : Datum) (h : Heap) (ht : t.isConvertible) (hd : d.hasType t) (hv : d.IsValue) :
    if d.hasUsableKeys t then ∃ v h', encode t d h = some (v, h') ∧ Mirrors h' d.collapsed v ∧
      decode h' t v = some d.collapsed.sorted ∧ (d.isFlat → d.collapsed = d)
    else encode t d h = none := by
  split
  · next hu =>
    obtain ⟨x, hx, hcarries⟩ := exists_collapsed ht hd hu
    obtain ⟨hread, hmirrors⟩ := (hcarries h).2 _ (.refl _)
    exact ⟨_, _, congrArg (Option.map (Draft.place · h)) hx, hmirrors, hread, Datum.collapsed_of_isFlat ht hd hv⟩
  · next hu => exact congrArg (Option.map (Draft.place · h)) (ofDatum?_eq_none ht hd (Bool.eq_false_iff.2 hu))

/-- A map whose keys are sequences of pairs, in which a sequence is absent, to maps two of whose keys become one. -/
def sampleKeys : Datum :=
  .map [(.list [.list [.int 1, .none], .list [.int 2, .none]], .map [(.list [.some .none], .int 3), (.list [.none], .int 4)])]

def sampleKeysTy : Ty :=
  .map (.vec (.tuple [.int .i64, .opt (.vec .str)])) (.map (.vec (.opt (.opt (.int .i64)))) (.int .i64))

theorem encode_keys_sampleKeys :
    sampleKeysTy.isConvertible ∧ sampleKeys.hasType sampleKeysTy ∧ sampleKeys.IsValue ∧
    ∃ v h', encode sampleKeysTy sampleKeys #[] = some (v, h') ∧ Mirrors h' sampleKeys.collapsed v ∧
      decode h' sampleKeysTy v = some
        (.map [(.list [.list [.int 1, .none], .list [.int 2, .none]], .map [(.list [.none], .int 4)])]) := by
  have ht : sampleKeysTy.isConvertible := by decide
  have hd : sampleKeys.hasType sampleKeysTy := by decide
  have hv : sampleKeys.IsValue := by
    simp [sampleKeys, Datum.IsValue, Datum.AreValues, Datum.HasValues, Datum.sortedParts, Datum.sorted,
      Datum.sortedItems]
  have hencode := encode_keys sampleKeysTy sampleKeys #[] ht hd hv
  rw [if_pos (by decide)] at hencode
  obtain ⟨v, h', hencode, hmirrors, hread, -⟩ := hencode
  exact ⟨ht, hd, hv, v, h', hencode, hmirrors, hread⟩

/-- A map from pairs of a number and a sequence. -/
def pairKeys : Datum := .map [(.list [.int 1, .list [.int 2]], .int 3)]

/-- A sequence inside of a tuple that is a key stays a list, so that nothing becomes of the map. -/
theorem encode_pairKeys :
    let t : Ty := .map (.tuple [.int .i64, .vec (.int .i64)]) (.int .i64)
    t.isConvertible ∧ pairKeys.hasType t ∧ pairKeys.IsValue ∧ pairKeys.isFlat ∧ encode t pairKeys #[] = none := by
  have hv : pairKeys.IsValue := by
    simp [pairKeys, Datum.IsValue, Datum.AreValues, Datum.HasValues, Datum.sortedParts, Datum.sorted, Datum.sortedItems]
  exact ⟨by decide, by decide, hv, by decide, by rfl⟩

end PluginHost.Python
