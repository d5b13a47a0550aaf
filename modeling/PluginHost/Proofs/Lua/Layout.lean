import PluginHost.Script.LuaLayout

/-!
# Tables as maps

However a table is laid out, it is a map from keys to values. `get_set` says what a key has after one of them was set,
`mem_entries_iff` that a traversal meets exactly the keys with values and `nodup_keys` that it meets each of them once.
All operations keep `Layout.IsProper`; setting a key of a full table needs most care, as all keys move (`get_resize`).
-/

namespace PluginHost.Lua

namespace Key

/-! ## Places of keys -/

theorem position?_atPosition {i : Nat} (h : i + 1 < 2 ^ 63) : (atPosition i).position? = some i := by
  have hi : (Int64.ofNat (i + 1)).toInt = (i + 1 : Nat) := Int64.toInt_ofNat_of_lt h
  simp only [atPosition, position?, hi]
  rw [if_pos (by omega)]
  simp

theorem eq_atPosition {k : Key} {i : Nat} (h : k.position? = some i) : k = atPosition i := by
  cases k with
  | integer n =>
    simp only [position?] at h
    split at h
    · simp only [Option.some.injEq] at h
      have hn : n.toInt = (i + 1 : Nat) := by omega
      have : Int64.ofNat (i + 1) = n := by
        rw [← Int64.ofInt_eq_ofNat, ← hn, Int64.ofInt_toInt]
      simp only [atPosition, this]
    · cases h
  | _ => cases h

theorem position?_lt {k : Key} {i : Nat} (h : k.position? = some i) : i + 1 < 2 ^ 63 := by
  cases k with
  | integer n =>
    simp only [position?] at h
    have := n.toInt_lt
    split at h
    · simp only [Option.some.injEq] at h
      omega
    · cases h
  | _ => cases h

end Key

namespace Layout

variable {t : Layout} {k k' : Key} {v v' : Value}

/-! ## Looking keys up in lists -/

theorem lookup_cons_ite {es : List (Key × Value)} :
    ((k', v') :: es).lookup k = if k = k' then some v' else es.lookup k := by
  by_cases h : k = k'
  · simp [h]
  · rw [List.lookup_cons, beq_eq_false_iff_ne.2 h, if_neg h]

theorem lookup_replaceIn {es : List (Key × Value)} (h : (es.lookup k).isSome) :
    (replaceIn k v es).lookup k' = if k' = k then some v else es.lookup k' := by
  induction es with
  | nil => simp at h
  | cons e es ih =>
    obtain ⟨j, w⟩ := e
    by_cases hj : j = k
    · subst hj
      simp only [replaceIn, if_true, lookup_cons_ite]
      split <;> rfl
    · rw [lookup_cons_ite, if_neg (Ne.symm hj)] at h
      simp only [replaceIn, hj, if_false, lookup_cons_ite, ih h]
      by_cases hj' : k' = j
      · simp [hj', hj]
      · simp [hj']

theorem keys_replaceIn (k : Key) (v : Value) (es : List (Key × Value)) :
    (replaceIn k v es).map Prod.fst = es.map Prod.fst := by
  induction es with
  | nil => rfl
  | cons e es ih =>
    obtain ⟨j, w⟩ := e
    by_cases hj : j = k
    · simp [replaceIn, hj]
    · simp [replaceIn, hj, ih]

theorem lookup_eq_none_iff_keys {es : List (Key × Value)} : es.lookup k = none ↔ k ∉ es.map Prod.fst := by
  rw [List.lookup_eq_none_iff, List.mem_map]
  constructor
  · rintro h ⟨e, he, rfl⟩
    simpa using h e he
  · intro h e he
    simpa using fun hk => h ⟨e, he, hk.symm⟩

/-- In a list without repeated keys a look-up finds what the list has. -/
theorem lookup_eq_some_of_mem {es : List (Key × Value)} (hn : (es.map Prod.fst).Nodup) (h : (k, v) ∈ es) :
    es.lookup k = some v := by
  induction es with
  | nil => cases h
  | cons e es ih =>
    obtain ⟨j, w⟩ := e
    simp only [List.map_cons, List.nodup_cons] at hn
    rcases List.mem_cons.1 h with h | h
    · cases h
      simp
    · have hne : k ≠ j := fun e => hn.1 (e ▸ List.mem_map.2 ⟨(k, v), h, rfl⟩)
      rw [lookup_cons_ite, if_neg hne]
      exact ih hn.2 h

theorem mem_of_lookup_eq_some {es : List (Key × Value)} (h : es.lookup k = some v) : (k, v) ∈ es := by
  obtain ⟨l₁, l₂, rfl, _⟩ := List.lookup_eq_some_iff.1 h
  simp

/-! ## Values -/

theorem get_of_lt {i : Nat} (hk : k.position? = some i) (h : i < t.array.size) : t.get k = t.array[i] := by
  simp only [get, hk, h, dif_pos]

theorem get_of_entries (h : ∀ i, k.position? = some i → t.array.size ≤ i) :
    t.get k = (t.entries.lookup k).getD .nil := by
  unfold get
  split
  · next i hk => rw [dif_neg (Nat.not_lt.2 (h i hk))]
  · rfl

/-- A key belongs to the array or to the list. -/
theorem position_cases (t : Layout) (k : Key) :
    (∃ i, k.position? = some i ∧ i < t.array.size) ∨ ∀ i, k.position? = some i → t.array.size ≤ i := by
  cases hk : k.position? with
  | none => exact .inr fun i h => by cases h
  | some i =>
    by_cases h : i < t.array.size
    · exact .inl ⟨i, rfl, h⟩
    · exact .inr fun j hj => by cases hj; omega

theorem get_congr {t' : Layout} (ha : t'.array = t.array) (he : t'.entries = t.entries) : t'.get k = t.get k := by
  cases t
  cases t'
  cases ha
  cases he
  rfl

theorem IsProper.congr {t' : Layout} (h : t.IsProper) (ha : t'.array = t.array) (he : t'.entries = t.entries) :
    t'.IsProper :=
  ⟨he ▸ h.distinct, by rw [he, ha]; exact h.apart, ha ▸ h.small⟩

/-- A list of entries in which one key has a new value makes a table in which it has. -/
theorem get_of_lookup {es : List (Key × Value)} (hk : ∀ i, k.position? = some i → t.array.size ≤ i)
    (hes : ∀ k', es.lookup k' = if k' = k then some v else t.entries.lookup k') (k' : Key) :
    ({ t with entries := es } : Layout).get k' = if k' = k then v else t.get k' := by
  rcases position_cases t k' with ⟨j, hk', hj⟩ | hk'
  · have hne : k' ≠ k := fun e => absurd hj (Nat.not_lt.2 (hk j (e ▸ hk')))
    rw [if_neg hne, get_of_lt hk' hj, get_of_lt (t := { t with entries := es }) hk' hj]
  · rw [get_of_entries hk', get_of_entries (t := { t with entries := es }) hk', hes]
    split <;> rfl

/-! ## Placing a new key -/

theorem place_of_lt {i : Nat} (hk : k.position? = some i) (hi : i < t.array.size) :
    t.place k v = { t with array := t.array.setIfInBounds i v } := by
  simp [place, hk, hi]

theorem place_of_entries (hk : ∀ i, k.position? = some i → t.array.size ≤ i) :
    t.place k v = { t with entries := t.entries ++ [(k, v)] } := by
  unfold place
  split
  · next i hi => rw [if_neg (Nat.not_lt.2 (hk i hi))]
  · rfl

theorem get_place (h : (t.entries.lookup k) = none) : (t.place k v).get k' = if k' = k then v else t.get k' := by
  rcases position_cases t k with ⟨i, hk, hi⟩ | hk
  · rw [place_of_lt hk hi]
    by_cases hkk : k' = k
    · subst hkk
      rw [if_pos rfl, get_of_lt hk (by simpa using hi)]
      simp
    · rw [if_neg hkk]
      rcases position_cases t k' with ⟨j, hk', hj⟩ | hk'
      · have hij : i ≠ j := fun e => hkk (by rw [Key.eq_atPosition hk', Key.eq_atPosition hk, e])
        rw [get_of_lt hk' hj, get_of_lt hk' (by simpa using hj), Array.getElem_setIfInBounds_ne hj hij]
      · rw [get_of_entries hk', get_of_entries (by simpa using hk')]
  · rw [place_of_entries hk]
    refine get_of_lookup hk (fun k' => ?_) k'
    rw [List.lookup_append, lookup_cons_ite]
    by_cases hkk : k' = k
    · simp [hkk, h]
    · simp [hkk]

theorem entries_place (t : Layout) (k : Key) (v : Value) :
    (t.place k v).entries = t.entries ∨
      (t.place k v).entries = t.entries ++ [(k, v)] ∧ ∀ i, k.position? = some i → t.array.size ≤ i := by
  rcases position_cases t k with ⟨i, hk, hi⟩ | hk
  · rw [place_of_lt hk hi]
    exact .inl rfl
  · rw [place_of_entries hk]
    exact .inr ⟨rfl, hk⟩

theorem size_place (t : Layout) (k : Key) (v : Value) : (t.place k v).array.size = t.array.size := by
  rcases position_cases t k with ⟨i, hk, hi⟩ | hk
  · rw [place_of_lt hk hi]
    exact Array.size_setIfInBounds
  · rw [place_of_entries hk]

theorem IsProper.place (ht : t.IsProper) (h : t.entries.lookup k = none) : (t.place k v).IsProper := by
  have hk := lookup_eq_none_iff_keys.1 h
  refine ⟨?_, ?_, by rw [size_place]; exact ht.small⟩
  · rcases entries_place t k v with he | ⟨he, -⟩
    · exact he ▸ ht.distinct
    · rw [he, List.map_append, List.nodup_append]
      refine ⟨ht.distinct, by simp, ?_⟩
      rintro a ha b hb rfl
      simp only [List.map_cons, List.map_nil, List.mem_singleton] at hb
      exact hk (hb ▸ ha)
  · rw [size_place]
    rcases entries_place t k v with he | ⟨he, hi⟩
    · rw [he]
      exact ht.apart
    · rw [he]
      intro e hmem
      rcases List.mem_append.1 hmem with hmem | hmem
      · exact ht.apart e hmem
      · cases List.mem_singleton.1 hmem
        exact hi

/-! ## Traversals -/

theorem mem_arrayEntries_iff (ht : t.IsProper) :
    (k, v) ∈ t.arrayEntries ↔ ∃ i, k.position? = some i ∧ t.array[i]? = some v ∧ v ≠ .nil := by
  have hs := ht.small
  simp only [arrayEntries, List.mem_filter, List.mem_map, Bool.not_eq_true', Value.isNil_eq_false_iff, Prod.exists]
  constructor
  · rintro ⟨⟨w, i, hw, he⟩, hv⟩
    cases he
    obtain ⟨-, hi, hw⟩ := List.mem_zipIdx hw
    simp only [Array.length_toList, Nat.zero_add, Nat.sub_zero, Array.getElem_toList] at hi hw
    refine ⟨i, Key.position?_atPosition (by omega), ?_, hv⟩
    rw [Array.getElem?_eq_getElem hi, hw]
  · rintro ⟨i, hk, hi, hv⟩
    refine ⟨⟨v, i, ?_, by rw [Key.eq_atPosition hk]⟩, hv⟩
    rw [List.mk_mem_zipIdx_iff_getElem?]
    simpa using hi

theorem mem_liveEntries_iff (ht : t.IsProper) : (k, v) ∈ t.liveEntries ↔ t.entries.lookup k = some v ∧ v ≠ .nil := by
  simp only [liveEntries, List.mem_filter, Bool.not_eq_true', Value.isNil_eq_false_iff]
  constructor
  · rintro ⟨h, hv⟩
    exact ⟨lookup_eq_some_of_mem ht.distinct h, hv⟩
  · rintro ⟨h, hv⟩
    exact ⟨mem_of_lookup_eq_some h, hv⟩

/-- A traversal meets the keys that have values. -/
theorem mem_entries_iff (ht : t.IsProper) : (k, v) ∈ t.toEntries ↔ t.get k = v ∧ v ≠ .nil := by
  rw [toEntries, List.mem_append, mem_arrayEntries_iff ht, mem_liveEntries_iff ht]
  rcases position_cases t k with ⟨i, hk, hi⟩ | hk
  · rw [get_of_lt hk hi]
    have hn : t.entries.lookup k ≠ some v := fun h =>
      absurd hi (Nat.not_lt.2 (ht.apart _ (mem_of_lookup_eq_some h) i hk))
    simp [hk, hn, hi]
  · rw [get_of_entries hk]
    constructor
    · rintro (⟨i, hi, hv, -⟩ | ⟨h, hv⟩)
      · have := hk i hi
        rw [Array.getElem?_eq_none this] at hv
        cases hv
      · exact ⟨by rw [h]; rfl, hv⟩
    · rintro ⟨h, hv⟩
      refine .inr ⟨?_, hv⟩
      cases hl : t.entries.lookup k with
      | none =>
        rw [hl] at h
        exact absurd h.symm hv
      | some w =>
        rw [hl] at h
        exact congrArg some h

theorem nodup_arrayEntries (ht : t.IsProper) : (t.arrayEntries.map Prod.fst).Nodup := by
  have hs := ht.small
  refine List.Nodup.sublist (List.filter_sublist.map _) ?_
  rw [List.map_map]
  change (t.array.toList.zipIdx.map (Key.atPosition ∘ Prod.snd)).Nodup
  rw [← List.map_map, List.zipIdx_map_snd]
  refine List.pairwise_map.2 (List.Pairwise.imp_of_mem (fun {i j} hi hj hne h => hne ?_) (List.nodup_range' 1))
  simp only [List.mem_range', Array.length_toList] at hi hj
  have := congrArg Key.position? h
  rw [Key.position?_atPosition (by omega), Key.position?_atPosition (by omega)] at this
  exact Option.some.inj this

/-- A traversal meets each key once. -/
theorem nodup_keys (ht : t.IsProper) : (t.toEntries.map Prod.fst).Nodup := by
  rw [toEntries, List.map_append, List.nodup_append]
  refine ⟨nodup_arrayEntries ht, ht.distinct.sublist (List.filter_sublist.map _), ?_⟩
  intro k hk k' hk' he
  obtain ⟨⟨_, v⟩, ha, rfl⟩ := List.mem_map.1 hk
  obtain ⟨⟨_, w⟩, hb, rfl⟩ := List.mem_map.1 hk'
  cases he
  obtain ⟨i, hk, hi, -⟩ := (mem_arrayEntries_iff ht).1 ha
  have hle := ht.apart _ (mem_of_lookup_eq_some ((mem_liveEntries_iff ht).1 hb).1) i hk
  rw [Array.getElem?_eq_none hle] at hi
  cases hi

/-! ## Moving all keys -/

/-- Placing keys that are new and distinct one by one gives each its value and leaves all others as they were. -/
theorem place_all {es : List (Key × Value)} (ht : t.IsProper) (hn : (es.map Prod.fst).Nodup)
    (ha : ∀ e ∈ es, t.entries.lookup e.1 = none) :
    let t' := es.foldl (fun t (k, v) => t.place k v) t
    t'.IsProper ∧ t'.array.size = t.array.size ∧ (∀ k, t'.get k = (es.lookup k).getD (t.get k)) ∧
      ∀ e ∈ t'.entries, e ∈ t.entries ∨ e ∈ es := by
  induction es generalizing t with
  | nil => exact ⟨ht, rfl, fun _ => rfl, fun _ => .inl⟩
  | cons e es ih =>
    obtain ⟨j, w⟩ := e
    simp only [List.map_cons, List.nodup_cons] at hn
    have hj := ha _ List.mem_cons_self
    have hsub : ∀ e ∈ (t.place j w).entries, e ∈ t.entries ∨ e = (j, w) := by
      intro e he
      rcases entries_place t j w with h | ⟨h, -⟩
      · exact .inl (h ▸ he)
      · simpa [h] using he
    have hrest : ∀ e ∈ es, (t.place j w).entries.lookup e.1 = none := by
      intro e he
      rw [lookup_eq_none_iff_keys, List.mem_map]
      rintro ⟨e', he', hk⟩
      rcases hsub e' he' with h | rfl
      · exact lookup_eq_none_iff_keys.1 (ha e (List.mem_cons_of_mem _ he)) (hk ▸ List.mem_map.2 ⟨e', h, rfl⟩)
      · exact hn.1 (List.mem_map.2 ⟨e, he, hk.symm⟩)
    obtain ⟨hp, hs, hg, hm⟩ := ih (ht.place hj) hn.2 hrest
    refine ⟨hp, hs.trans (size_place t j w), fun k => (hg k).trans ?_, fun e he => ?_⟩
    · rw [get_place hj, lookup_cons_ite]
      by_cases hk : k = j
      · subst hk
        simp [lookup_eq_none_iff_keys.2 hn.1]
      · simp [hk]
    · rcases hm e he with h | h
      · rcases hsub e h with h | rfl
        · exact .inl h
        · exact .inr List.mem_cons_self
      · exact .inr (List.mem_cons_of_mem _ h)

theorem mem_vanished_iff (ht : t.IsProper) {values : Nat} :
    (k, v) ∈ t.vanished values ↔ ∃ i, k.position? = some i ∧ t.array[i]? = some v ∧ v ≠ .nil ∧ values ≤ i := by
  rw [vanished, List.mem_filter, mem_arrayEntries_iff ht]
  constructor
  · rintro ⟨⟨i, hk, h, hv⟩, hi⟩
    exact ⟨i, hk, h, hv, by simpa [hk] using hi⟩
  · rintro ⟨i, hk, h, hv, hi⟩
    exact ⟨⟨i, hk, h, hv⟩, by simpa [hk] using hi⟩

theorem size_fresh (t : Layout) (values keys : Nat) : (t.fresh values keys).array.size = values := by
  simp only [fresh, List.size_toArray, List.length_append, List.length_take, List.length_replicate]
  omega

theorem getElem?_fresh (t : Layout) (values keys i : Nat) :
    ((t.fresh values keys).array[i]?).getD .nil = if i < values then (t.array[i]?).getD .nil else .nil := by
  simp only [fresh, List.getElem?_toArray, List.getElem?_append, List.length_take, List.getElem?_take,
    List.getElem?_replicate, Array.getElem?_toList, Array.length_toList]
  by_cases h : i < values
  · by_cases hv : i < t.array.size
    · rw [if_pos (by omega), if_pos h, if_pos h]
    · rw [if_neg (by omega), if_pos h, Array.getElem?_eq_none (by omega)]
      split <;> rfl
  · rw [if_neg (by omega), if_neg h, if_neg (by omega)]
    rfl

/-- A place of the new array has the value that it had in the old one; all else has none. -/
theorem get_fresh (t : Layout) (values keys : Nat) (k : Key) :
    (t.fresh values keys).get k = match k.position? with
      | some i => if i < values then (t.array[i]?).getD .nil else .nil
      | none => .nil := by
  rcases position_cases (t.fresh values keys) k with ⟨i, hk, hi⟩ | hk
  · have h := getElem?_fresh t values keys i
    rw [Array.getElem?_eq_getElem hi, Option.getD_some] at h
    simp only [get_of_lt hk hi, hk, h]
  · rw [get_of_entries hk]
    rw [size_fresh] at hk
    cases hp : k.position? with
    | none => rfl
    | some i => simp [Nat.not_lt.2 (hk i hp), fresh]

/-- Laying a table out anew keeps the values of all keys, and no key without a value stays in the list. -/
theorem get_resize (ht : t.IsProper) {values keys : Nat} (hv : values < 2 ^ 31) :
    (t.resize values keys).IsProper ∧ (∀ k, (t.resize values keys).get k = t.get k) ∧
      ∀ e ∈ (t.resize values keys).entries, e ∈ t.toEntries := by
  have hsub : (t.vanished values ++ t.liveEntries).Sublist t.toEntries :=
    List.filter_sublist.append (List.Sublist.refl _)
  have hnodup := (nodup_keys ht).sublist (hsub.map Prod.fst)
  have hfresh : (t.fresh values keys).IsProper :=
    ⟨List.nodup_nil, fun e he => absurd he List.not_mem_nil, by rw [size_fresh]; exact hv⟩
  obtain ⟨hp, -, hg, hm⟩ := place_all hfresh hnodup fun e _ => rfl
  refine ⟨hp, fun k => (hg k).trans ?_, fun e he => ?_⟩
  · cases hl : (t.vanished values ++ t.liveEntries).lookup k with
    | some v => exact ((mem_entries_iff ht).1 (hsub.subset (mem_of_lookup_eq_some hl))).1.symm
    | none =>
      have hmem : ∀ v, (k, v) ∉ t.vanished values ++ t.liveEntries := fun v h =>
        lookup_eq_none_iff_keys.1 hl (List.mem_map.2 ⟨_, h, rfl⟩)
      simp only [List.mem_append, not_or] at hmem
      rw [Option.getD_none, get_fresh]
      rcases position_cases t k with ⟨i, hk, hi⟩ | hk
      · -- a value of the array that has not vanished stays where it was
        simp only [hk, get_of_lt hk hi, Array.getElem?_eq_getElem hi, Option.getD_some]
        split
        · rfl
        · next hn =>
          refine Classical.byContradiction fun hv => ?_
          have hgone : (k, t.array[i]) ∈ t.vanished values :=
            (mem_vanished_iff ht).2 ⟨i, hk, Array.getElem?_eq_getElem hi, Ne.symm hv, by omega⟩
          exact (hmem t.array[i]).1 hgone
      · have hnil : t.get k = .nil := by
          refine Classical.byContradiction fun hv => ?_
          rw [get_of_entries hk] at hv
          cases hl : t.entries.lookup k with
          | none => simp [hl] at hv
          | some v => exact (hmem v).2 ((mem_liveEntries_iff ht).2 ⟨hl, by simpa [hl] using hv⟩)
        rw [hnil]
        split
        · next i hi => rw [Array.getElem?_eq_none (hk i hi)]; split <;> rfl
        · rfl
  · rcases hm e he with h | h
    · cases h
    · exact hsub.subset h

/-! ## Setting a key -/

theorem arraySizeFor_lt (keys : List Nat) : (arraySizeFor keys).1 < 2 ^ 31 := by
  refine List.foldlRecOn (motive := fun (best : Nat × Nat) => best.1 < 2 ^ 31) _ _ (by decide) fun best hb i hi => ?_
  simp only []
  split
  · exact Nat.pow_lt_pow_right (by decide) (List.mem_range.1 hi)
  · exact hb

theorem get_rehash (ht : t.IsProper) (k : Key) :
    (t.rehash k).IsProper ∧ (∀ k', (t.rehash k).get k' = t.get k') ∧ ∀ e ∈ (t.rehash k).entries, e ∈ t.toEntries :=
  get_resize ht (arraySizeFor_lt _)

@[simp] theorem array_touch (t : Layout) (k : Key) : (t.touch k).array = t.array := by
  unfold touch
  split
  · split <;> rfl
  · rfl

@[simp] theorem entries_touch (t : Layout) (k : Key) : (t.touch k).entries = t.entries := by
  unfold touch
  split
  · split <;> rfl
  · rfl

theorem IsProper.touch (ht : t.IsProper) (k : Key) : (t.touch k).IsProper :=
  ht.congr (array_touch t k) (entries_touch t k)

theorem IsProper.lookup_eq_none (ht : t.IsProper) {i : Nat} (hk : k.position? = some i) (hi : i < t.array.size) :
    t.entries.lookup k = none := by
  cases hl : t.entries.lookup k with
  | none => rfl
  | some v => exact absurd hi (Nat.not_lt.2 (ht.apart _ (mem_of_lookup_eq_some hl) i hk))

/-- Setting a key of the list. -/
theorem get_setEntry (ht : t.IsProper) (hk : ∀ i, k.position? = some i → t.array.size ≤ i) :
    (set.setEntry t k v).IsProper ∧ ∀ k', (set.setEntry t k v).get k' = if k' = k then v else t.get k' := by
  by_cases hl : (t.entries.lookup k).isSome
  · rw [set.setEntry, if_pos hl]
    refine ⟨⟨?_, ?_, ht.small⟩, fun k' => ?_⟩
    · rw [keys_replaceIn]
      exact ht.distinct
    · intro e he
      obtain ⟨e', he', hk'⟩ := List.mem_map.1 (keys_replaceIn k v t.entries ▸ List.mem_map_of_mem (f := Prod.fst) he)
      exact hk' ▸ ht.apart e' he'
    · exact get_of_lookup hk (fun k' => lookup_replaceIn hl) k'
  · have hnone : t.entries.lookup k = none := Option.not_isSome_iff_eq_none.1 hl
    have hget : t.get k = .nil := by rw [get_of_entries hk, hnone]; rfl
    rw [set.setEntry, if_neg hl]
    split
    · next hv =>
      refine ⟨ht, fun k' => ?_⟩
      rw [Value.isNil_iff.1 hv]
      split
      · next h => rw [h, hget]
      · rfl
    · split
      · exact ⟨ht.place hnone, fun k' => get_place hnone⟩
      · obtain ⟨hp, hg, hm⟩ := get_rehash ht k
        have hfree : (t.rehash k).entries.lookup k = none := by
          rw [lookup_eq_none_iff_keys, List.mem_map]
          rintro ⟨⟨_, w⟩, he, rfl⟩
          obtain ⟨hw, hv⟩ := (mem_entries_iff ht).1 (hm _ he)
          exact hv (hw.symm.trans hget)
        exact ⟨hp.place hfree, fun k' => by rw [get_place hfree, hg]⟩

/-- What the keys have after one of them was set. -/
theorem get_set (ht : t.IsProper) (k : Key) (v : Value) :
    (t.set k v).IsProper ∧ ∀ k', (t.set k v).get k' = if k' = k then v else t.get k' := by
  rcases position_cases t k with ⟨i, hk, hi⟩ | hk
  · have hl := ht.lookup_eq_none hk hi
    have hset : t.set k v = (t.touch k).place k v := by simp [set, hk, hi]
    rw [hset]
    refine ⟨(ht.touch k).place (by rwa [entries_touch]), fun k' => ?_⟩
    rw [get_place (by rwa [entries_touch]), get_congr (array_touch t k) (entries_touch t k)]
  · have hset : t.set k v = set.setEntry t k v := by
      unfold set
      split
      · next i hi => rw [if_neg (Nat.not_lt.2 (hk i hi))]
      · rfl
    rw [hset]
    exact get_setEntry ht hk

/-! ## The other operations -/

theorem isProper_default : ({} : Layout).IsProper := ⟨List.nodup_nil, fun _ h => absurd h List.not_mem_nil, by decide⟩

theorem isProper_withRoom (values keys : Nat) : (withRoom values keys).IsProper := by
  refine ⟨List.nodup_nil, fun _ h => absurd h List.not_mem_nil, ?_⟩
  simp only [withRoom, Array.size_replicate, maxRoom]
  omega

theorem get_withRoom (values keys : Nat) (k : Key) : (withRoom values keys).get k = .nil := by
  unfold get
  split
  · split
    · simp [withRoom]
    · rfl
  · rfl

theorem IsProper.remember (ht : t.IsProper) (border : Nat) : (t.remember border).IsProper := by
  unfold Layout.remember
  split
  · exact ht.congr rfl rfl
  · exact ht

/-- The search for the length changes nothing but where the next one starts. -/
theorem IsProper.length (ht : t.IsProper) : t.length.2.IsProper := by
  unfold Layout.length
  simp only []
  split
  · split
    · exact ht.remember _
    · exact ht.remember _
  · split
    · exact ht
    · split
      · exact ht.congr rfl rfl
      · split
        · exact ht
        · exact ht

end Layout

end PluginHost.Lua
