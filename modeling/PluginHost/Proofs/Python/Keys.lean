import PluginHost.Proofs.Data.Collapsing
import PluginHost.Script.PythonExchange

/-!
# Data as keys of dictionaries

A key is a value that needs no heap: `keyValue` computes it from the datum alone. It reads back as the collapsed datum
(`decode_keyValue`), and what collapses to different data of one type is different as a key (`collapsed_of_sameKey`),
although numbers and truth values may be the same key and sequences and tuples are both tuples. But not every datum
becomes its key: a sequence inside of a tuple stays a list (`Datum.isUsableKey`, `exists_key`, `not_isHashable`).
-/

namespace PluginHost

/-- Whether a type has an absent value of its own. -/
def Ty.isOption : Ty → Bool
  | .opt _ => true
  | _ => false

mutual

/-- The types of keys. They have no floating point numbers and no maps in them, no sequences inside of tuples, and no
absent value inside of an absent value. -/
def Ty.isKey (isInTuple : Bool) : Ty → Bool
  | .int _ | .bool | .str => true
  | .opt t => !t.isOption && t.isKey isInTuple
  | .vec t => !isInTuple && t.isKey isInTuple
  | .tuple ts => areKeys ts
  | _ => false
termination_by structural x => x

/-- The types of the items of a tuple that is a key. -/
def Ty.areKeys : List Ty → Bool
  | [] => true
  | t :: ts => t.isKey true && areKeys ts
termination_by structural x => x

end

mutual

/-- Whether a datum of a type can be a key: no sequence in it is inside of a tuple. -/
def Datum.isUsableKey (isInTuple : Bool) : Ty → Datum → Bool
  | .opt t, .some d => isUsableKey isInTuple t d
  | .vec t, .list ds => !isInTuple && ds.all (isUsableKey isInTuple t)
  | .tuple ts, .list ds => areUsableKeys ts ds
  | _, _ => true
termination_by structural t => t

/-- Whether data of a type each can be keys inside of a tuple. -/
def Datum.areUsableKeys : List Ty → List Datum → Bool
  | t :: ts, d :: ds => isUsableKey true t d && areUsableKeys ts ds
  | _, _ => true
termination_by structural ts => ts

end

mutual

/-- What has the type of a key can be one. -/
theorem Ty.isKeyLike_of_isKey {b : Bool} : ∀ {t : Ty}, t.isKey b → t.isKeyLike
  | .int _, _ | .bool, _ | .str, _ => rfl
  | .opt t, ht => by
    simp only [isKey, Bool.and_eq_true] at ht
    exact Ty.isKeyLike_of_isKey (t := t) ht.2
  | .vec t, ht => by
    simp only [isKey, Bool.and_eq_true] at ht
    exact Ty.isKeyLike_of_isKey (t := t) ht.2
  | .tuple ts, ht => @Ty.areKeyLike_of_areKeys ts ht

theorem Ty.areKeyLike_of_areKeys : ∀ {ts : List Ty}, areKeys ts → areKeyLike ts
  | [], _ => rfl
  | t :: ts, ht => by
    simp only [areKeys, areKeyLike, Bool.and_eq_true] at ht ⊢
    exact ⟨Ty.isKeyLike_of_isKey ht.1, Ty.areKeyLike_of_areKeys ht.2⟩

end

/-- What is not optional is not absent. -/
theorem Datum.isAbsent_eq_false {t : Ty} {d : Datum} (ht : t.isConvertible) (ho : !t.isOption) (hd : d.hasType t) :
    d.isAbsent = false := by
  cases t <;> cases d <;> simp_all [Ty.isConvertible, Ty.isOption, Datum.hasType, Datum.isAbsent]

mutual

/-- The data of a type of keys can be keys, and nothing in them is there and absent at once. -/
theorem Datum.isUsableKey_of_isKey {b : Bool} : ∀ {t : Ty} {d : Datum}, t.isKey b → d.hasType t →
    d.isUsableKey b t ∧ d.isFlat
  | .int t, d, _, hd => by
    obtain ⟨n, rfl, -⟩ := hasType_int_iff.1 hd
    exact ⟨rfl, rfl⟩
  | .bool, d, _, hd => by
    obtain ⟨b, rfl⟩ := hasType_bool_iff.1 hd
    exact ⟨rfl, rfl⟩
  | .str, d, _, hd => by
    obtain ⟨s, rfl⟩ := hasType_str_iff.1 hd
    exact ⟨rfl, rfl⟩
  | .opt t, d, ht, hd => by
    simp only [Ty.isKey, Bool.and_eq_true] at ht
    rcases hasType_opt_iff.1 hd with rfl | ⟨e, rfl, he⟩
    · exact ⟨rfl, rfl⟩
    · obtain ⟨husable, hflat⟩ := isUsableKey_of_isKey ht.2 he
      have ha := isAbsent_eq_false (Ty.isConvertible_of_isKeyLike (Ty.isKeyLike_of_isKey ht.2)) ht.1 he
      exact ⟨husable, by rw [isFlat, ha, hflat]; rfl⟩
  | .vec t, d, ht, hd => by
    simp only [Ty.isKey, Bool.and_eq_true] at ht
    obtain ⟨ds, rfl, hds⟩ := hasType_vec_iff.1 hd
    have hitems := fun d hmem => isUsableKey_of_isKey ht.2 (hds d hmem)
    refine ⟨?_, areFlat_iff.2 fun d hmem => (hitems d hmem).2⟩
    rw [isUsableKey, ht.1, List.all_eq_true.2 fun d hmem => (hitems d hmem).1]
    rfl
  | .tuple ts, d, ht, hd => by
    obtain ⟨ds, rfl, hds⟩ := hasType_tuple_iff.1 hd
    exact @areUsableKeys_of_areKeys ts ds ht hds

theorem Datum.areUsableKeys_of_areKeys : ∀ {ts : List Ty} {ds : List Datum}, Ty.areKeys ts → haveTypes ds ts →
    areUsableKeys ts ds ∧ areFlat ds
  | [], [], _, _ => ⟨rfl, rfl⟩
  | t :: ts, d :: ds, ht, hd => by
    simp only [Ty.areKeys, haveTypes, Bool.and_eq_true] at ht hd
    obtain ⟨husable, hflat⟩ := isUsableKey_of_isKey ht.1 hd.1
    obtain ⟨husable', hflat'⟩ := areUsableKeys_of_areKeys ht.2 hd.2
    exact ⟨by rw [areUsableKeys, husable, husable']; rfl, by rw [areFlat, hflat, hflat']; rfl⟩

end

namespace Python

mutual

/-- What a datum is as a key: a sequence is a tuple. -/
def keyValue : Datum → Value
  | .int n => .int n
  | .bool b => .bool b
  | .str s => .str (Text.ofString s)
  | .some d => keyValue d
  | .list ds => .tuple (keyValues ds)
  | _ => .none
termination_by structural x => x

def keyValues : List Datum → List Value
  | [] => []
  | d :: ds => keyValue d :: keyValues ds
termination_by structural x => x

end

theorem keyValues_eq (ds : List Datum) : keyValues ds = ds.map keyValue := by
  induction ds with
  | nil => rfl
  | cons d ds ih => rw [keyValues, ih, List.map_cons]

mutual

/-- A key counts as itself, whatever is in the heap. -/
theorem keyOf_keyValue (h : Heap) : ∀ d : Datum, keyOf h (keyValue d) = keyValue d
  | .int _ | .f32 _ | .f64 _ | .bool _ | .str _ | .unit | .none | .map _ => by simp [keyValue, keyOf]
  | .some d => keyOf_keyValue h d
  | .list ds => by rw [keyValue, keyOf, keysOf_keyValues h ds]

theorem keysOf_keyValues (h : Heap) : ∀ ds : List Datum, keyOf.keysOf h (keyValues ds) = keyValues ds
  | [] => rfl
  | d :: ds => by rw [keyValues, keyOf.keysOf, keyOf_keyValue h d, keysOf_keyValues h ds]

end

theorem keyValue_of_isAbsent : ∀ {d : Datum}, d.isAbsent → keyValue d = .none
  | .none, _ | .unit, _ => rfl
  | .some d, ha => keyValue_of_isAbsent (d := d) ha

mutual

/-- A key does not say what is there and absent at once. -/
theorem keyValue_collapsed : ∀ d : Datum, keyValue d.collapsed = keyValue d
  | .int _ | .f32 _ | .f64 _ | .bool _ | .str _ | .unit | .none | .map _ => rfl
  | .some d => by
    rw [Datum.collapsed]
    split
    · next ha => exact (keyValue_of_isAbsent ha).symm
    · exact keyValue_collapsed d
  | .list ds => congrArg Value.tuple (keyValues_collapsed ds)

theorem keyValues_collapsed : ∀ ds : List Datum, keyValues (Datum.collapsedItems ds) = keyValues ds
  | [] => rfl
  | d :: ds => by rw [Datum.collapsedItems, keyValues, keyValues, keyValue_collapsed d, keyValues_collapsed ds]

end

/-! ## Texts -/

theorem string?_ofString (s : String) : (Text.ofString s).string? = some s := by
  have hvalid : ∀ c : Char, c.toNat.isValidChar := fun c => c.valid
  have hmap : (s.toList.map Char.toNat).map (fun n => if n.isValidChar then Char.ofNat n else '\uFFFD') = s.toList := by
    rw [List.map_map]
    exact List.map_id'' (fun c => by simp [hvalid]) _
  rw [Text.string?, if_pos, Text.string, Text.ofString, hmap, String.ofList_toList]
  simp [Text.ofString, hvalid]

theorem ofString_injective {s s' : String} (h : Text.ofString s = Text.ofString s') : s = s' :=
  Option.some.inj ((string?_ofString s).symm.trans ((congrArg Text.string? h).trans (string?_ofString s')))

/-! ## Different keys -/

theorem eq_none_of_sameKey {v : Value} (h : Value.none.sameKey v) : v = .none := by
  cases v with
  | float x => cases hx : Decimal.toInt? x <;> simp [Value.sameKey, Value.integral?, Value.same, hx] at h
  | _ => simp_all [Value.sameKey, Value.integral?, Value.same]

theorem eq_none_of_sameKey_none {v : Value} (h : v.sameKey .none) : v = .none := by
  cases v with
  | float x => cases hx : Decimal.toInt? x <;> simp [Value.sameKey, Value.integral?, Value.same, hx] at h
  | _ => simp_all [Value.sameKey, Value.integral?, Value.same]

/-- Only what is absent is nothing as a key. -/
theorem isAbsent_of_keyValue : ∀ {t : Ty} {d : Datum}, t.isKeyLike → d.hasType t → keyValue d = .none → d.isAbsent
  | .opt _, .none, _, _, _ => rfl
  | .opt t, .some d, ht, hd, h => isAbsent_of_keyValue (t := t) (d := d) ht hd h
  | .int _, .int _, _, _, h | .bool, .bool _, _, _, h | .str, .str _, _, _, h => nomatch h
  | .vec _, .list _, _, _, h | .tuple _, .list _, _, _, h => nomatch h

theorem collapsed_of_allSame : ∀ {ds ds' : List Datum},
    (∀ d ∈ ds, ∀ d' ∈ ds', (keyValue d).sameKey (keyValue d') → d.collapsed = d'.collapsed) →
      Value.sameKey.allSame (keyValues ds) (keyValues ds') → Datum.collapsedItems ds = Datum.collapsedItems ds'
  | [], [], _, _ => rfl
  | [], _ :: _, _, h | _ :: _, [], _, h => by simp [keyValues, Value.sameKey.allSame] at h
  | d :: ds, d' :: ds', ih, h => by
    simp only [keyValues, Value.sameKey.allSame, Bool.and_eq_true] at h
    rw [Datum.collapsedItems, Datum.collapsedItems, ih d List.mem_cons_self d' List.mem_cons_self h.1,
      collapsed_of_allSame (fun e he e' he' => ih e (List.mem_cons_of_mem _ he) e' (List.mem_cons_of_mem _ he')) h.2]

mutual

/-- Data of a type that collapse to different data are different keys. -/
theorem collapsed_of_sameKey : ∀ {t : Ty} {d d' : Datum}, t.isKeyLike → d.hasType t → d'.hasType t →
    (keyValue d).sameKey (keyValue d') → d.collapsed = d'.collapsed
  | .int _, d, d', _, hd, hd', h => by
    obtain ⟨m, rfl, -⟩ := Datum.hasType_int_iff.1 hd
    obtain ⟨n, rfl, -⟩ := Datum.hasType_int_iff.1 hd'
    simpa [keyValue, Value.sameKey, Value.integral?, Datum.collapsed] using h
  | .bool, d, d', _, hd, hd', h => by
    obtain ⟨b, rfl⟩ := Datum.hasType_bool_iff.1 hd
    obtain ⟨b', rfl⟩ := Datum.hasType_bool_iff.1 hd'
    cases b <;> cases b' <;> simp_all [keyValue, Value.sameKey, Value.integral?]
  | .str, d, d', _, hd, hd', h => by
    obtain ⟨s, rfl⟩ := Datum.hasType_str_iff.1 hd
    obtain ⟨s', rfl⟩ := Datum.hasType_str_iff.1 hd'
    have h : Text.ofString s = Text.ofString s' := by
      simpa [keyValue, Value.sameKey, Value.integral?, Value.same] using h
    rw [ofString_injective h]
  | .opt t, d, d', ht, hd, hd', h => by
    have hsame : d.isAbsent ↔ d'.isAbsent := by
      constructor <;> intro ha
      · rw [keyValue_of_isAbsent ha] at h
        exact isAbsent_of_keyValue (t := .opt t) ht hd' (eq_none_of_sameKey h)
      · rw [keyValue_of_isAbsent ha] at h
        exact isAbsent_of_keyValue (t := .opt t) ht hd (eq_none_of_sameKey_none h)
    by_cases ha : d.isAbsent
    · have hnone : ∀ {d : Datum}, d.hasType (.opt t) → d.isAbsent → d.collapsed = .none := by
        intro d hd ha
        rcases Datum.hasType_opt_iff.1 hd with rfl | ⟨e, rfl, he⟩
        · rfl
        · exact Datum.collapsed_some_of_isAbsent ha
      rw [hnone hd ha, hnone hd' (hsame.1 ha)]
    · rcases Datum.hasType_opt_iff.1 hd with rfl | ⟨e, rfl, he⟩
      · exact absurd rfl ha
      rcases Datum.hasType_opt_iff.1 hd' with rfl | ⟨e', rfl, he'⟩
      · exact absurd (hsame.2 rfl) ha
      rw [Datum.collapsed_some (d := e) (Bool.eq_false_iff.2 ha),
        Datum.collapsed_some (d := e') (Bool.eq_false_iff.2 (ha ∘ hsame.2)),
        collapsed_of_sameKey (t := t) ht he he' h]
  | .vec t, d, d', ht, hd, hd', h => by
    obtain ⟨ds, rfl, hds⟩ := Datum.hasType_vec_iff.1 hd
    obtain ⟨ds', rfl, hds'⟩ := Datum.hasType_vec_iff.1 hd'
    rw [keyValue, keyValue, Value.sameKey] at h
    exact congrArg Datum.list
      (collapsed_of_allSame (fun e he e' he' => collapsed_of_sameKey (t := t) ht (hds e he) (hds' e' he')) h)
  | .tuple ts, d, d', ht, hd, hd', h => by
    obtain ⟨ds, rfl, hds⟩ := Datum.hasType_tuple_iff.1 hd
    obtain ⟨ds', rfl, hds'⟩ := Datum.hasType_tuple_iff.1 hd'
    rw [keyValue, keyValue, Value.sameKey] at h
    exact congrArg Datum.list (collapsedItems_of_allSame ht hds hds' h)

theorem collapsedItems_of_allSame : ∀ {ts : List Ty} {ds ds' : List Datum}, Ty.areKeyLike ts → Datum.haveTypes ds ts →
    Datum.haveTypes ds' ts → Value.sameKey.allSame (keyValues ds) (keyValues ds') →
    Datum.collapsedItems ds = Datum.collapsedItems ds'
  | [], [], [], _, _, _, _ => rfl
  | t :: ts, d :: ds, d' :: ds', ht, hd, hd', h => by
    simp only [Ty.areKeyLike, Datum.haveTypes, keyValues, Value.sameKey.allSame, Bool.and_eq_true] at ht hd hd' h
    rw [Datum.collapsedItems, Datum.collapsedItems, collapsed_of_sameKey ht.1 hd.1 hd'.1 h.1,
      collapsedItems_of_allSame ht.2 hd.2 hd'.2 h.2]

end

/-- Keys that are the same come from data that collapse to the same. -/
theorem eq_of_sameKey {t : Ty} {d d' : Datum} (ht : t.isKeyLike) (hd : d.IsCollapsed t) (hd' : d'.IsCollapsed t)
    (h : (keyValue d).sameKey (keyValue d')) : d = d' := by
  obtain ⟨e, he, rfl⟩ := hd
  obtain ⟨e', he', rfl⟩ := hd'
  rw [keyValue_collapsed, keyValue_collapsed] at h
  exact collapsed_of_sameKey ht he he' h

mutual

theorem sameKey_keyValue : ∀ d : Datum, (keyValue d).sameKey (keyValue d)
  | .int _ | .f32 _ | .f64 _ | .bool _ | .str _ | .unit | .none | .map _ => by
    simp [keyValue, Value.sameKey, Value.integral?, Value.same]
  | .some d => sameKey_keyValue d
  | .list ds => by
    rw [keyValue, Value.sameKey]
    exact allSame_keyValues ds

theorem allSame_keyValues : ∀ ds : List Datum, Value.sameKey.allSame (keyValues ds) (keyValues ds)
  | [] => rfl
  | d :: ds => by
    rw [keyValues, Value.sameKey.allSame, sameKey_keyValue d, allSame_keyValues ds]
    rfl

end

/-! ## Reading keys -/

theorem traverse_eq_some_iff {α β : Type} {f : α → Option β} {xs : List α} {ys : List β} :
    Draft.traverse f xs = some ys ↔ List.Forall₂ (fun x y => f x = some y) xs ys := by
  induction xs generalizing ys with
  | nil => cases ys <;> simp [Draft.traverse]
  | cons x xs ih =>
    rw [Draft.traverse]
    cases ys with
    | nil => cases f x <;> cases Draft.traverse f xs <;> simp
    | cons y ys =>
      rw [List.forall₂_cons, ← ih]
      cases f x <;> cases Draft.traverse f xs <;> simp

mutual

/-- A key reads as the datum that it is made from, collapsed. -/
theorem decode_keyValue (h : Heap) : ∀ {t : Ty} {d : Datum}, t.isKeyLike → d.hasType t →
    decode h t (keyValue d) = some d.collapsed.sorted
  | .int t, d, _, hd => by
    obtain ⟨n, rfl, hn⟩ := Datum.hasType_int_iff.1 hd
    exact if_pos hn
  | .bool, d, _, hd => by
    obtain ⟨b, rfl⟩ := Datum.hasType_bool_iff.1 hd
    rfl
  | .str, d, _, hd => by
    obtain ⟨s, rfl⟩ := Datum.hasType_str_iff.1 hd
    exact congrArg (Option.map Datum.str) (string?_ofString s)
  | .opt t, d, ht, hd => by
    rcases Datum.hasType_opt_iff.1 hd with rfl | ⟨e, rfl, he⟩
    · rfl
    · by_cases ha : e.isAbsent
      · rw [keyValue, keyValue_of_isAbsent ha, Datum.collapsed_some_of_isAbsent ha]
        rfl
      · rw [keyValue, decode, decode_keyValue (t := t) h ht he, Datum.collapsed_some (Bool.eq_false_iff.2 ha)]
        · rfl
        · exact fun hnone => ha (isAbsent_of_keyValue (t := t) ht he hnone)
  | .vec t, d, ht, hd => by
    obtain ⟨ds, rfl, hds⟩ := Datum.hasType_vec_iff.1 hd
    have hread : Draft.traverse (decode h t) (keyValues ds) = some (Datum.sortedItems (Datum.collapsedItems ds)) := by
      rw [traverse_eq_some_iff, keyValues_eq, Datum.collapsedItems_eq, Datum.sortedItems_eq, List.map_map,
        List.forall₂_map_left_iff, List.forall₂_map_right_iff, List.forall₂_same]
      exact fun d hd => decode_keyValue (t := t) h ht (hds d hd)
    exact congrArg (Option.map Datum.list) hread
  | .tuple ts, d, ht, hd => by
    obtain ⟨ds, rfl, hds⟩ := Datum.hasType_tuple_iff.1 hd
    exact congrArg (Option.map Datum.list) (decodeEach_keyValues h ht hds)

theorem decodeEach_keyValues (h : Heap) : ∀ {ts : List Ty} {ds : List Datum}, Ty.areKeyLike ts →
    Datum.haveTypes ds ts → decodeEach h ts (keyValues ds) = some (Datum.sortedItems (Datum.collapsedItems ds))
  | [], [], _, _ => rfl
  | t :: ts, d :: ds, ht, hd => by
    simp only [Ty.areKeyLike, Datum.haveTypes, Bool.and_eq_true] at ht hd
    rw [keyValues, decodeEach, decode_keyValue h ht.1 hd.1, decodeEach_keyValues h ht.2 hd.2]
    rfl

end

/-! ## Making keys -/

/-- Whether an object is the key that a datum is. -/
structure IsKeyFor (d : Datum) (x : Draft) : Prop where
  isHashable : x.isHashable
  place (h : Heap) : x.place h = (keyValue d, h)

/-- Whether objects are the keys that data are. -/
structure AreKeysFor (ds : List Datum) (xs : List Draft) : Prop where
  allHashable : Draft.allHashable xs
  place (h : Heap) : Draft.placeAll xs h = (keyValues ds, h)

theorem AreKeysFor.nil : AreKeysFor [] [] := ⟨rfl, fun _ => rfl⟩

theorem AreKeysFor.cons {d : Datum} {x : Draft} {ds : List Datum} {xs : List Draft} (hx : IsKeyFor d x)
    (hxs : AreKeysFor ds xs) : AreKeysFor (d :: ds) (x :: xs) := by
  refine ⟨?_, fun h => ?_⟩
  · rw [Draft.allHashable, hx.isHashable, hxs.allHashable]
    rfl
  · rw [Draft.placeAll, hx.place]
    dsimp only
    rw [hxs.place]
    rfl

theorem AreKeysFor.tuple {ds : List Datum} {xs : List Draft} (hxs : AreKeysFor ds xs) :
    IsKeyFor (.list ds) (.tuple xs) := by
  refine ⟨hxs.allHashable, fun h => ?_⟩
  rw [Draft.place, hxs.place]
  rfl

theorem exists_keys {f : Datum → Option Draft} {ds : List Datum}
    (hf : ∀ d ∈ ds, ∃ x, f d = some x ∧ IsKeyFor d x.asKey) :
    ∃ xs, Draft.traverse f ds = some xs ∧ AreKeysFor ds (Draft.asKeys xs) := by
  induction ds with
  | nil => exact ⟨[], rfl, .nil⟩
  | cons d ds ih =>
    rw [List.forall_mem_cons] at hf
    obtain ⟨⟨x, hx, hkey⟩, hf⟩ := hf
    obtain ⟨xs, hxs, hkeys⟩ := ih hf
    exact ⟨x :: xs, by rw [Draft.traverse, hx, hxs], .cons hkey hkeys⟩

mutual

/-- A datum that can be a key becomes an object that is one. In a tuple it is one already. -/
theorem exists_key {b : Bool} : ∀ {t : Ty} {d : Datum}, t.isKeyLike → d.hasType t → d.isUsableKey b t →
    ∃ x, Draft.ofDatum? t d = some x ∧ IsKeyFor d x.asKey ∧ (b → x.asKey = x)
  | .int t, d, _, hd, _ => by
    obtain ⟨n, rfl, -⟩ := Datum.hasType_int_iff.1 hd
    exact ⟨_, rfl, ⟨rfl, fun _ => rfl⟩, fun _ => rfl⟩
  | .bool, d, _, hd, _ => by
    obtain ⟨b, rfl⟩ := Datum.hasType_bool_iff.1 hd
    exact ⟨_, rfl, ⟨rfl, fun _ => rfl⟩, fun _ => rfl⟩
  | .str, d, _, hd, _ => by
    obtain ⟨s, rfl⟩ := Datum.hasType_str_iff.1 hd
    exact ⟨_, rfl, ⟨rfl, fun _ => rfl⟩, fun _ => rfl⟩
  | .opt t, d, ht, hd, hu => by
    rcases Datum.hasType_opt_iff.1 hd with rfl | ⟨e, rfl, he⟩
    · exact ⟨_, rfl, ⟨rfl, fun _ => rfl⟩, fun _ => rfl⟩
    · obtain ⟨x, hx, hkey, htuple⟩ := exists_key (t := t) ht he hu
      exact ⟨x, hx, ⟨hkey.isHashable, hkey.place⟩, htuple⟩
  | .vec t, d, ht, hd, hu => by
    obtain ⟨ds, rfl, hds⟩ := Datum.hasType_vec_iff.1 hd
    rw [Datum.isUsableKey, Bool.and_eq_true, List.all_eq_true] at hu
    obtain ⟨xs, hxs, hkeys⟩ := exists_keys (f := Draft.ofDatum? t) fun d hd => by
      obtain ⟨x, hx, hkey, -⟩ := exists_key (t := t) ht (hds d hd) (hu.2 d hd)
      exact ⟨x, hx, hkey⟩
    exact ⟨.list xs, congrArg (Option.map Draft.list) hxs, hkeys.tuple, fun hb => by simp [hb] at hu⟩
  | .tuple ts, d, ht, hd, hu => by
    obtain ⟨ds, rfl, hds⟩ := Datum.hasType_tuple_iff.1 hd
    obtain ⟨xs, hxs, hkeys⟩ := exists_tupleKeys ht hds hu
    exact ⟨.tuple xs, congrArg (Option.map Draft.tuple) hxs, hkeys.tuple, fun _ => rfl⟩

theorem exists_tupleKeys : ∀ {ts : List Ty} {ds : List Datum}, Ty.areKeyLike ts → Datum.haveTypes ds ts →
    Datum.areUsableKeys ts ds → ∃ xs, Draft.ofEach? ts ds = some xs ∧ AreKeysFor ds xs
  | [], [], _, _, _ => ⟨[], rfl, .nil⟩
  | t :: ts, d :: ds, ht, hd, hu => by
    simp only [Ty.areKeyLike, Datum.haveTypes, Datum.areUsableKeys, Bool.and_eq_true] at ht hd hu
    obtain ⟨x, hx, hkey, htuple⟩ := exists_key ht.1 hd.1 hu.1
    obtain ⟨xs, hxs, hkeys⟩ := exists_tupleKeys ht.2 hd.2 hu.2
    exact ⟨x :: xs, by rw [Draft.ofEach?, hx, hxs], .cons (htuple rfl ▸ hkey) hkeys⟩

end

end Python

end PluginHost
