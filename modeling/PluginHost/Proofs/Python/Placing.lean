import PluginHost.Proofs.Python.RoundTrip

/-!
# Placing data in changing heaps

Where a datum is placed, and as what, depends on the heap only through what keys count as (`place_append`), and for
that only objects that stand for plain values matter. Any other object may change, before or after a datum is placed:
the datum reads back all the same (`encode_alike`).
-/

namespace PluginHost.Python

/-! ## Objects in changed heaps -/

variable {h : Heap}

theorem lt_of_data_ne {id : Nat} (hd : (h.getD id default).data ≠ .plain) : id < h.size := by
  by_contra hid
  exact hd (by rw [Array.getD, dif_neg hid]; rfl)

theorem getD_append_left {id : Nat} (hid : id < h.size) (objects : Heap) :
    (h ++ objects).getD id default = h.getD id default := by
  simp only [Array.getD_eq_getD_getElem?, Array.getElem?_append_left hid]

theorem getD_append_right {id : Nat} (hid : h.size ≤ id) (objects : Heap) :
    (h ++ objects).getD id default = objects.getD (id - h.size) default := by
  simp only [Array.getD_eq_getD_getElem?, Array.getElem?_append_right hid]

theorem getD_modify_self {id : Nat} (hid : id < h.size) (f : Object → Object) :
    (h.modify id f).getD id default = f (h.getD id default) := by
  simp only [Array.getD_eq_getD_getElem?, Array.getElem?_modify, if_true, Array.getElem?_eq_getElem hid]
  rfl

theorem getD_modify_of_ne {id id' : Nat} (hne : id' ≠ id) (f : Object → Object) :
    (h.modify id f).getD id' default = h.getD id' default := by
  simp only [Array.getD_eq_getD_getElem?, Array.getElem?_modify, if_neg hne.symm]

theorem modify_append {id : Nat} (hid : id < h.size) (f : Object → Object) (objects : Heap) :
    (h ++ objects).modify id f = h.modify id f ++ objects := by
  refine Array.ext_getElem? fun i => ?_
  simp only [Array.getElem?_modify, Array.getElem?_append, Array.size_modify]
  split
  · split
    · rfl
    · omega
  · rfl

/-! ## Heaps with the same keys -/

/-- Whether keys count as the same in two heaps. -/
def KeysAlike (h h' : Heap) : Prop := ∀ id, plainOf h' (.ref id) = plainOf h (.ref id)

namespace KeysAlike

variable {h h' h'' : Heap}

theorem refl (h : Heap) : KeysAlike h h := fun _ => rfl

theorem trans (hk : KeysAlike h h') (hk' : KeysAlike h' h'') : KeysAlike h h'' := fun id => (hk' id).trans (hk id)

mutual

theorem keyOf (hk : KeysAlike h h') : ∀ v, keyOf h' v = keyOf h v
  | .ref id => hk id
  | .tuple vs => by rw [Python.keyOf, Python.keyOf, hk.keysOf vs]
  | .none | .ellipsis | .notImplemented | .bool _ | .int _ | .float _ | .complex _ _ | .str _ | .bytes _ | .range _ _ _
  | .slice _ _ _ | .native _ | .nativeOf _ _ => rfl

theorem keysOf (hk : KeysAlike h h') : ∀ vs, keyOf.keysOf h' vs = keyOf.keysOf h vs
  | [] => rfl
  | v :: vs => by rw [keyOf.keysOf, keyOf.keysOf, hk.keyOf v, hk.keysOf vs]

end

theorem insert (hk : KeysAlike h h') : Dict.insert h' = Dict.insert h := by
  have hkey : Python.keyOf h' = Python.keyOf h := funext hk.keyOf
  have hput : ∀ key v k es, Dict.insert.put h' key v k es = Dict.insert.put h key v k es := by
    intro key v k es
    induction es with
    | nil => rfl
    | cons e es ih => rw [Dict.insert.put, Dict.insert.put, ih, hkey]
  funext es key v
  rw [Dict.insert, Dict.insert, hput, hkey]

theorem find? (hk : KeysAlike h h') : Dict.find? h' = Dict.find? h := by
  have hkey : Python.keyOf h' = Python.keyOf h := funext hk.keyOf
  unfold Dict.find?
  rw [hkey]

/-- A new object that stands for no plain value. -/
theorem push (h : Heap) {o : Object} (ho : ∀ v, o.data ≠ .payload v) : KeysAlike h (h.push o) := by
  intro id
  unfold plainOf
  dsimp only
  by_cases hid : id < h.size
  · rw [Array.push_eq_append, getD_append_left hid]
  · have hold : h.getD id default = default := by rw [Array.getD, dif_neg hid]
    have hnew : (h.push o).getD id default = o ∨ (h.push o).getD id default = default := by
      rw [Array.push_eq_append, getD_append_right (Nat.le_of_not_lt hid), Array.getD]
      split
      · exact .inl (by simp)
      · exact .inr rfl
    rw [hold]
    rcases hnew with hnew | hnew <;> rw [hnew]
    cases hdata : o.data with
    | payload v => exact absurd hdata (ho v)
    | _ => rfl

mutual

/-- Placing leaves the keys alone: neither a list nor a dictionary stands for a plain value. -/
theorem place : ∀ (x : Draft) (h : Heap), KeysAlike h (x.place h).2
  | .plain _, h => .refl h
  | .list items, h => (placeAll items h).trans (.push _ nofun)
  | .tuple items, h => placeAll items h
  | .dict entries, h => (placeEntries entries h).trans (.push _ nofun)

theorem placeAll : ∀ (items : List Draft) (h : Heap), KeysAlike h (Draft.placeAll items h).2
  | [], h => .refl h
  | x :: items, h => (place x h).trans (placeAll items _)

theorem placeEntries : ∀ (entries : List (Draft × Draft)) (h : Heap), KeysAlike h (Draft.placeEntries entries h).2
  | [], h => .refl h
  | (k, x) :: entries, h => ((place k h).trans (place x _)).trans (placeEntries entries _)

end

end KeysAlike

/-- Whether two heaps have objects in the same places and keys count as the same in them. -/
structure Alike (h h' : Heap) : Prop where
  size : h'.size = h.size
  keys : KeysAlike h h'

theorem Alike.refl (h : Heap) : Alike h h := ⟨rfl, .refl h⟩

theorem Alike.append {h h' : Heap} (ha : Alike h h') (objects : Heap) : Alike (h ++ objects) (h' ++ objects) := by
  refine ⟨by simp [ha.size], fun id => ?_⟩
  unfold plainOf
  dsimp only
  by_cases hid : id < h.size
  · rw [getD_append_left hid, getD_append_left (ha.size.symm ▸ hid)]
    exact ha.keys id
  · rw [getD_append_right (Nat.le_of_not_lt hid), getD_append_right (ha.size ▸ Nat.le_of_not_lt hid), ha.size]

/-! ## Placing -/

section Place

variable {h h' : Heap}

mutual

/-- What an object is placed as depends on the heap only through the keys in it. -/
theorem place_append (ha : Alike h h') : ∀ (x : Draft) (xs : Heap), ∃ v ys,
    x.place (h ++ xs) = (v, h ++ ys) ∧ x.place (h' ++ xs) = (v, h' ++ ys)
  | .plain v, xs => ⟨v, xs, rfl, rfl⟩
  | .list items, xs => by
    obtain ⟨vs, ys, hp, hp'⟩ := placeAll_append ha items xs
    refine ⟨.ref (h ++ ys).size, ys.push { cls := BaseType.list.id, data := .list vs.toArray }, ?_, ?_⟩
    · rw [Draft.place, hp, ← Array.push_append]
    · rw [Draft.place, hp', ← Array.push_append, ← (ha.append ys).size]
  | .tuple items, xs => by
    obtain ⟨vs, ys, hp, hp'⟩ := placeAll_append ha items xs
    exact ⟨.tuple vs, ys, by rw [Draft.place, hp], by rw [Draft.place, hp']⟩
  | .dict entries, xs => by
    obtain ⟨es, ys, hp, hp'⟩ := placeEntries_append ha entries xs
    refine ⟨.ref (h ++ ys).size, ys.push { cls := BaseType.dict.id, data := .dict (es.foldl
      (fun d e => Dict.insert (h ++ ys) d e.1 e.2) []) }, ?_, ?_⟩
    · rw [Draft.place, hp, ← Array.push_append]
    · rw [Draft.place, hp', ← Array.push_append, ← (ha.append ys).size, ← (ha.append ys).keys.insert]

theorem placeAll_append (ha : Alike h h') : ∀ (items : List Draft) (xs : Heap), ∃ vs ys,
    Draft.placeAll items (h ++ xs) = (vs, h ++ ys) ∧ Draft.placeAll items (h' ++ xs) = (vs, h' ++ ys)
  | [], xs => ⟨[], xs, rfl, rfl⟩
  | x :: items, xs => by
    obtain ⟨v, ys, hp, hp'⟩ := place_append ha x xs
    obtain ⟨vs, zs, hps, hps'⟩ := placeAll_append ha items ys
    refine ⟨v :: vs, zs, ?_, ?_⟩
    · rw [Draft.placeAll, hp]
      dsimp only
      rw [hps]
    · rw [Draft.placeAll, hp']
      dsimp only
      rw [hps']

theorem placeEntries_append (ha : Alike h h') : ∀ (entries : List (Draft × Draft)) (xs : Heap), ∃ es ys,
    Draft.placeEntries entries (h ++ xs) = (es, h ++ ys) ∧ Draft.placeEntries entries (h' ++ xs) = (es, h' ++ ys)
  | [], xs => ⟨[], xs, rfl, rfl⟩
  | (k, x) :: entries, xs => by
    obtain ⟨key, ys, hk, hk'⟩ := place_append ha k xs
    obtain ⟨v, zs, hp, hp'⟩ := place_append ha x ys
    obtain ⟨es, us, hps, hps'⟩ := placeEntries_append ha entries zs
    refine ⟨(key, v) :: es, us, ?_, ?_⟩
    · rw [Draft.placeEntries, hk]
      dsimp only
      rw [hp]
      dsimp only
      rw [hps]
    · rw [Draft.placeEntries, hk']
      dsimp only
      rw [hp']
      dsimp only
      rw [hps']

end

end Place

/-- What becomes of a datum does not depend on the heap, as long as keys count as the same in it. -/
theorem encode_alike {t : Ty} {d : Datum} (ht : t.isPortable) (hd : d.hasType t) (hv : d.IsValue) (h : Heap) :
    ∃ v objects, encode t d h = some (v, h ++ objects) ∧ KeysAlike h (h ++ objects) ∧
      ∀ h', Alike h h' → decode (h' ++ objects) t v = some d.sorted := by
  obtain ⟨x, hx, hcarries⟩ := exists_draft ht hd hv
  obtain ⟨v, objects, hp, -⟩ := place_append (.refl h) x #[]
  rw [Array.append_empty] at hp
  refine ⟨v, objects, ?_, ?_, fun h' ha => ?_⟩
  · rw [encode, hx, Option.map_some, hp]
  · have hkeys := KeysAlike.place x h
    rwa [hp] at hkeys
  · obtain ⟨v', objects', hp', hplace⟩ := place_append ha x #[]
    rw [Array.append_empty] at hp' hplace
    rw [hp] at hp'
    obtain ⟨rfl, heap⟩ := Prod.mk.inj hp'
    obtain rfl := (Array.append_right_inj h).1 heap
    have hread := ((hcarries h').2 _ (.refl _)).1
    rwa [hplace] at hread

/-! ## Classes -/

section Classes

variable {id : Nat} {c : ClassInfo}

theorem plainOf_of_class (hc : (h.getD id default).data = .cls c) : plainOf h (.ref id) = .ref id := by
  unfold plainOf
  dsimp only
  rw [hc]

/-- A class reads as nothing. -/
theorem decode_of_class (hc : (h.getD id default).data = .cls c) : ∀ t, decode h t (.ref id) = none
  | .int _ | .f32 | .f64 | .str => by rw [decode, plainOf_of_class hc]
  | .bool | .nil | .unit => rfl
  | .opt t => by
    rw [decode, decode_of_class hc t]
    · rfl
    · nofun
  | .vec t => by
    have hseq : sequence? h (.ref id) = none := by
      unfold sequence?
      rw [plainOf_of_class hc]
      dsimp only
      rw [hc]
    rw [decode, hseq]
  | .map k v => by
    have hmap : mapping? h (.ref id) = none := by
      unfold mapping?
      dsimp only
      rw [hc]
    rw [decode, hmap]
  | .tuple ts => by
    have htuple : tuple? h (.ref id) = none := by
      unfold tuple?
      rw [plainOf_of_class hc]
    rw [decode, htuple]

end Classes

end PluginHost.Python
