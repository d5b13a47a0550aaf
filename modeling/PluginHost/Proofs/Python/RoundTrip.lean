import PluginHost.Proofs.Python.Keys
import PluginHost.Proofs.Single

/-!
# Data survive in Python

`decode_encode`: what becomes an object reads back from it, whatever else is in the heap. An object is placed behind
what it holds, so what was placed stays as it is while the heap grows (`Extends`). A map, at any depth, becomes a
dictionary that keeps every entry (`Mirrors`), because different keys are different there. In general an object stands
for the collapsed datum, of which a dictionary has the entries (`exists_collapsed`).
-/

namespace PluginHost

mutual

/-- The types whose data come back from Python. -/
def Ty.isPortable : Ty → Bool
  | .int _ | .f32 | .f64 | .bool | .str => true
  | .opt t => !t.isOption && t.isPortable
  | .vec t => t.isPortable
  | .map k v => k.isKey false && v.isPortable
  | .tuple ts => arePortable ts
  | _ => false
termination_by structural x => x

/-- Whether data of all types come back. -/
def Ty.arePortable : List Ty → Bool
  | [] => true
  | t :: ts => t.isPortable && arePortable ts
termination_by structural x => x

end

mutual

/-- Whether the keys of all maps in a datum of a type can be keys. -/
def Datum.hasUsableKeys : Ty → Datum → Bool
  | .opt t, .some d => hasUsableKeys t d
  | .vec t, .list ds => ds.all (hasUsableKeys t)
  | .map k v, .map es => es.all fun e => e.1.isUsableKey false k && hasUsableKeys v e.2
  | .tuple ts, .list ds => haveUsableKeys ts ds
  | _, _ => true
termination_by structural t => t

/-- Whether the keys of all maps in data of a type each can be keys. -/
def Datum.haveUsableKeys : List Ty → List Datum → Bool
  | t :: ts, d :: ds => hasUsableKeys t d && haveUsableKeys ts ds
  | _, _ => true
termination_by structural ts => ts

end

mutual

theorem Ty.isConvertible_of_isPortable : ∀ {t : Ty}, t.isPortable → t.isConvertible
  | .int _, _ | .f32, _ | .f64, _ | .bool, _ | .str, _ => rfl
  | .opt t, ht => by
    simp only [isPortable, Bool.and_eq_true] at ht
    exact Ty.isConvertible_of_isPortable (t := t) ht.2
  | .vec t, ht => Ty.isConvertible_of_isPortable (t := t) ht
  | .map k v, ht => by
    simp only [isPortable, isConvertible, Bool.and_eq_true] at ht ⊢
    exact ⟨Ty.isKeyLike_of_isKey ht.1, Ty.isConvertible_of_isPortable ht.2⟩
  | .tuple ts, ht => @Ty.areConvertible_of_arePortable ts ht

theorem Ty.areConvertible_of_arePortable : ∀ {ts : List Ty}, arePortable ts → areConvertible ts
  | [], _ => rfl
  | t :: ts, ht => by
    simp only [arePortable, areConvertible, Bool.and_eq_true] at ht ⊢
    exact ⟨Ty.isConvertible_of_isPortable ht.1, Ty.areConvertible_of_arePortable ht.2⟩

end

mutual

/-- The keys in data of a portable type can be keys, and nothing in the data is there and absent at once. -/
theorem Datum.hasUsableKeys_of_isPortable : ∀ {t : Ty} {d : Datum}, t.isPortable → d.hasType t →
    d.hasUsableKeys t ∧ d.isFlat
  | .int t, d, _, hd => by
    obtain ⟨n, rfl, -⟩ := hasType_int_iff.1 hd
    exact ⟨rfl, rfl⟩
  | .f32, d, _, hd => by
    obtain ⟨x, rfl⟩ := hasType_f32_iff.1 hd
    exact ⟨rfl, rfl⟩
  | .f64, d, _, hd => by
    obtain ⟨x, rfl⟩ := hasType_f64_iff.1 hd
    exact ⟨rfl, rfl⟩
  | .bool, d, _, hd => by
    obtain ⟨b, rfl⟩ := hasType_bool_iff.1 hd
    exact ⟨rfl, rfl⟩
  | .str, d, _, hd => by
    obtain ⟨s, rfl⟩ := hasType_str_iff.1 hd
    exact ⟨rfl, rfl⟩
  | .opt t, d, ht, hd => by
    simp only [Ty.isPortable, Bool.and_eq_true] at ht
    rcases hasType_opt_iff.1 hd with rfl | ⟨e, rfl, he⟩
    · exact ⟨rfl, rfl⟩
    · obtain ⟨husable, hflat⟩ := hasUsableKeys_of_isPortable ht.2 he
      have ha := isAbsent_eq_false (Ty.isConvertible_of_isPortable ht.2) ht.1 he
      exact ⟨husable, by rw [isFlat, ha, hflat]; rfl⟩
  | .vec t, d, ht, hd => by
    obtain ⟨ds, rfl, hds⟩ := hasType_vec_iff.1 hd
    have hitems := fun d hmem => hasUsableKeys_of_isPortable (t := t) ht (hds d hmem)
    exact ⟨List.all_eq_true.2 fun d hmem => (hitems d hmem).1, areFlat_iff.2 fun d hmem => (hitems d hmem).2⟩
  | .tuple ts, d, ht, hd => by
    obtain ⟨ds, rfl, hds⟩ := hasType_tuple_iff.1 hd
    exact @haveUsableKeys_of_arePortable ts ds ht hds
  | .map k v, d, ht, hd => by
    simp only [Ty.isPortable, Bool.and_eq_true] at ht
    obtain ⟨es, rfl, hes⟩ := hasType_map_iff.1 hd
    have hkeys := fun e hmem => isUsableKey_of_isKey ht.1 (hes e hmem).1
    have hvalues := fun e hmem => hasUsableKeys_of_isPortable ht.2 (hes e hmem).2
    refine ⟨List.all_eq_true.2 fun e hmem => ?_, haveFlat_iff.2 fun e hmem => ⟨(hkeys e hmem).2, (hvalues e hmem).2⟩⟩
    rw [(hkeys e hmem).1, (hvalues e hmem).1]
    rfl

theorem Datum.haveUsableKeys_of_arePortable : ∀ {ts : List Ty} {ds : List Datum}, Ty.arePortable ts → haveTypes ds ts →
    haveUsableKeys ts ds ∧ areFlat ds
  | [], [], _, _ => ⟨rfl, rfl⟩
  | t :: ts, d :: ds, ht, hd => by
    simp only [Ty.arePortable, haveTypes, Bool.and_eq_true] at ht hd
    obtain ⟨husable, hflat⟩ := hasUsableKeys_of_isPortable ht.1 hd.1
    obtain ⟨husable', hflat'⟩ := haveUsableKeys_of_arePortable ht.2 hd.2
    exact ⟨by rw [haveUsableKeys, husable, husable']; rfl, by rw [areFlat, hflat, hflat']; rfl⟩

end

namespace Python

/-! ## Growing heaps -/

/-- Whether a heap has what another one has, and perhaps more. -/
def Extends (h h' : Heap) : Prop := ∃ objects, h' = h ++ objects

variable {h h' h'' : Heap}

theorem Extends.refl (h : Heap) : Extends h h := ⟨#[], Array.append_empty.symm⟩

theorem Extends.trans (h₁ : Extends h h') (h₂ : Extends h' h'') : Extends h h'' := by
  obtain ⟨xs, rfl⟩ := h₁
  obtain ⟨ys, rfl⟩ := h₂
  exact ⟨xs ++ ys, Array.append_assoc⟩

theorem Extends.push (h : Heap) (o : Object) : Extends h (h.push o) := ⟨#[o], Array.push_eq_append⟩

/-- What was placed last stays where it is. -/
theorem Extends.getD_push {o : Object} (hx : Extends (h.push o) h') : h'.getD h.size default = o := by
  obtain ⟨xs, rfl⟩ := hx
  have hlt : h.size < (h.push o ++ xs).size := by
    rw [Array.size_append, Array.size_push]
    omega
  rw [Array.getD, dif_pos hlt]
  simp

/-! ## Objects that stand for data -/

/-- Whether the keys of entries are different in a heap. -/
def Apart (h : Heap) (es : List (Value × Value)) : Prop :=
  es.Pairwise fun a b => ¬(keyOf h a.1).sameKey (keyOf h b.1)

mutual

/-- Whether all maps in a datum are dictionaries in the value that stands for it. A dictionary has an entry for each
entry of its map, and no two of its keys are the same. -/
def Mirrors (h : Heap) : Datum → Value → Prop
  | .some d, v => Mirrors h d v
  | .list ds, v => ∃ vs, sequence? h v = some vs ∧ MirrorsItems h ds vs
  | .map es, v => ∃ vs, mapping? h v = some vs ∧ Apart h vs ∧ MirrorsEntries h es vs
  | _, _ => True
termination_by structural d => d

def MirrorsItems (h : Heap) : List Datum → List Value → Prop
  | [], vs => vs = []
  | d :: ds, vs => ∃ v ws, vs = v :: ws ∧ Mirrors h d v ∧ MirrorsItems h ds ws
termination_by structural ds => ds

/-- Whether the entries of a dictionary are those of a map, each under the key that its datum is. -/
def MirrorsEntries (h : Heap) : List (Datum × Datum) → List (Value × Value) → Prop
  | [], vs => vs = []
  | (k, d) :: es, vs => ∃ v ws, vs = (keyValue k, v) :: ws ∧ Mirrors h d v ∧ MirrorsEntries h es ws
termination_by structural es => es

end

/-- Whether an object that is placed in a heap reads as a datum and mirrors it. -/
def Carries (t : Ty) (d : Datum) (x : Draft) : Prop :=
  ∀ h, Extends h (x.place h).2 ∧ ∀ h', Extends (x.place h).2 h' →
    decode h' t (x.place h).1 = some d.sorted ∧ Mirrors h' d (x.place h).1

/-- Whether objects that are placed in a heap are read as data and mirror them. -/
def CarriesAll (read : Heap → List Value → Option (List Datum)) (ds : List Datum) (xs : List Draft) : Prop :=
  ∀ h, Extends h (Draft.placeAll xs h).2 ∧ ∀ h', Extends (Draft.placeAll xs h).2 h' →
    read h' (Draft.placeAll xs h).1 = some (Datum.sortedItems ds) ∧ MirrorsItems h' ds (Draft.placeAll xs h).1

/-- Whether an entry of a dictionary stands for one of a map: its key and its value are read as those of the map. -/
structure Stands (h : Heap) (k v : Ty) (p : Value × Value) (e : Datum × Datum) : Prop where
  key : p.1 = keyValue e.1
  readKey : decode h k p.1 = some e.1.sorted
  readValue : decode h v p.2 = some e.2.sorted
  mirrors : Mirrors h e.2 p.2

/-- Whether objects that are placed in a heap stand for entries. -/
def CarriesEntries (k v : Ty) (es : List (Datum × Datum)) (xs : List (Draft × Draft)) : Prop :=
  ∀ h, Extends h (Draft.placeEntries xs h).2 ∧ ∀ h', Extends (Draft.placeEntries xs h).2 h' →
    List.Forall₂ (Stands h' k v) (Draft.placeEntries xs h).1 es

/-- Only what is nothing reads from nothing. -/
theorem decode_none {t : Ty} {d : Datum} (hd : decode h t .none = some d) : d = .none := by
  cases t with
  | opt t => exact (Option.some.inj hd).symm
  | _ => cases hd

theorem Carries.of_plain {t : Ty} {d : Datum} {v : Value} (hd : ∀ h, decode h t v = some d.sorted)
    (hm : ∀ h, Mirrors h d v) : Carries t d (.plain v) :=
  fun h => ⟨.refl h, fun h' _ => ⟨hd h', hm h'⟩⟩

theorem CarriesAll.nil {read : Heap → List Value → Option (List Datum)} (hread : ∀ h, read h [] = some []) :
    CarriesAll read [] [] :=
  fun h => ⟨.refl h, fun h' _ => ⟨hread h', rfl⟩⟩

theorem CarriesAll.cons {t : Ty} {g read : Heap → List Value → Option (List Datum)} {d : Datum} {ds : List Datum}
    {x : Draft} {xs : List Draft}
    (hread : ∀ h v vs a as, decode h t v = some a → g h vs = some as → read h (v :: vs) = some (a :: as))
    (hx : Carries t d x) (hxs : CarriesAll g ds xs) : CarriesAll read (d :: ds) (x :: xs) := by
  intro h
  obtain ⟨he, hd⟩ := hx h
  obtain ⟨he', hds⟩ := hxs (x.place h).2
  refine ⟨he.trans he', fun h' hh' => ?_⟩
  obtain ⟨hd, hm⟩ := hd h' (he'.trans hh')
  obtain ⟨hds, hms⟩ := hds h' hh'
  exact ⟨hread _ _ _ _ _ hd hds, _, _, rfl, hm, hms⟩

theorem exists_items {t : Ty} {ds : List Datum}
    (hd : ∀ d ∈ ds, ∃ x, Draft.ofDatum? t d = some x ∧ Carries t d.collapsed x) :
    ∃ xs, Draft.traverse (Draft.ofDatum? t) ds = some xs ∧
      CarriesAll (fun h => Draft.traverse (decode h t)) (Datum.collapsedItems ds) xs := by
  induction ds with
  | nil => exact ⟨[], rfl, .nil fun _ => rfl⟩
  | cons d ds ih =>
    rw [List.forall_mem_cons] at hd
    obtain ⟨⟨x, hx, hcarries⟩, hd⟩ := hd
    obtain ⟨xs, hxs, hall⟩ := ih hd
    refine ⟨x :: xs, by rw [Draft.traverse, hx, hxs], .cons (fun h v vs a as ha has => ?_) hcarries hall⟩
    rw [Draft.traverse, ha, has]

theorem exists_entries {k v : Ty} (hk : k.isKeyLike) {es : List (Datum × Datum)} (ht : ∀ e ∈ es, e.1.hasType k)
    (hu : ∀ e ∈ es, e.1.isUsableKey false k)
    (hv : ∀ e ∈ es, ∃ x, Draft.ofDatum? v e.2 = some x ∧ Carries v e.2.collapsed x) :
    ∃ xs, Draft.traverse (fun e => Draft.entry? (Draft.ofDatum? k e.1) (Draft.ofDatum? v e.2)) es = some xs ∧
      CarriesEntries k v (Datum.collapsedParts es) xs := by
  induction es with
  | nil => exact ⟨[], rfl, fun h => ⟨.refl h, fun _ _ => .nil⟩⟩
  | cons e es ih =>
    obtain ⟨dk, dv⟩ := e
    rw [List.forall_mem_cons] at ht hu hv
    obtain ⟨x, hx, hkey, -⟩ := exists_key hk ht.1 hu.1
    obtain ⟨⟨y, hy, hcarries⟩, hv⟩ := hv
    obtain ⟨xs, hxs, hall⟩ := ih ht.2 hu.2 hv
    refine ⟨(x.asKey, y) :: xs, ?_, fun h => ?_⟩
    · rw [Draft.traverse, hx, hy, hxs, Draft.entry?, if_pos hkey.isHashable]
    · obtain ⟨he, hd⟩ := hcarries h
      obtain ⟨he', hds⟩ := hall (y.place h).2
      rw [Draft.placeEntries, hkey.place]
      refine ⟨he.trans he', fun h' hh' => ?_⟩
      obtain ⟨hd, hm⟩ := hd h' (he'.trans hh')
      exact .cons ⟨(keyValue_collapsed dk).symm, decode_keyValue h' hk ht.1, hd, hm⟩ (hds h' hh')

/-! ## Filling dictionaries -/

section Filling

variable {k v : Ty} {ps : List (Value × Value)} {es : List (Datum × Datum)}

theorem traverse_of_stands (hps : List.Forall₂ (Stands h k v) ps es) :
    Draft.traverse (fun e => match decode h k e.1, decode h v e.2 with
      | some a, some b => some (a, b)
      | _, _ => none) ps = some (Datum.sortedParts es) := by
  rw [traverse_eq_some_iff, Datum.sortedParts_eq, List.forall₂_map_right_iff]
  refine hps.imp fun p e hp => ?_
  rw [hp.readKey, hp.readValue]

theorem mirrorsEntries_of_stands (hps : List.Forall₂ (Stands h k v) ps es) : MirrorsEntries h es ps := by
  induction hps with
  | nil => rfl
  | @cons p e ps es hp _ ih => exact ⟨p.2, ps, congrArg (·, p.2) hp.key ▸ rfl, hp.mirrors, ih⟩

variable (hk : k.isKeyLike)
include hk

/-- Keys that are data of a type are the same in a dictionary if they are the same in a map. -/
theorem sameKey_iff {d d' : Datum} (hd : d.IsCollapsed k) (hd' : d'.IsCollapsed k) :
    (keyValue d).sameKey (keyValue d') ↔ d.compare d' = .eq := by
  rw [(Datum.compare_orders (Ty.isOrdered_of_isKeyLike hk)).eq_iff hd.hasType hd'.hasType]
  refine ⟨eq_of_sameKey hk hd hd', ?_⟩
  rintro rfl
  exact sameKey_keyValue d

/-- A dictionary takes an entry as the map does that it stands for. -/
theorem stands_insert {p : Value × Value} {e : Datum × Datum} (hp : Stands h k v p e) (he : e.1.IsCollapsed k)
    (hes : ∀ a ∈ es, a.1.IsCollapsed k) (hps : List.Forall₂ (Stands h k v) ps es) :
    List.Forall₂ (Stands h k v) (Dict.insert h' ps p.1 p.2) (Datum.putEntry e.1 e.2 es) := by
  unfold Dict.insert
  induction hps with
  | nil => exact .cons hp .nil
  | @cons q a ps es hq hps ih =>
    rw [List.forall_mem_cons] at hes
    have hsame : (keyOf h' q.1).sameKey (keyOf h' p.1) ↔ a.1.compare e.1 = .eq := by
      rw [hq.key, hp.key, keyOf_keyValue, keyOf_keyValue, sameKey_iff hk hes.1 he]
    rw [Dict.insert.put, Datum.putEntry]
    by_cases heq : a.1.compare e.1 = .eq
    · rw [if_pos heq, if_pos (hsame.2 heq)]
      exact .cons ⟨hq.key, hq.readKey, hp.readValue, hp.mirrors⟩ hps
    · rw [if_neg heq, if_neg (heq ∘ hsame.1)]
      exact .cons hq (ih hes.2)

/-- A dictionary that is filled with entries stands for the map of them. -/
theorem stands_mergeEntries (hes : ∀ e ∈ es, e.1.IsCollapsed k) (hps : List.Forall₂ (Stands h k v) ps es) :
    List.Forall₂ (Stands h k v) (ps.foldl (fun d p => Dict.insert h' d p.1 p.2) []) (Datum.mergeEntries es) := by
  suffices hfill : ∀ {qs m}, (∀ a ∈ m, a.1.IsCollapsed k) → List.Forall₂ (Stands h k v) qs m →
      List.Forall₂ (Stands h k v) (ps.foldl (fun d p => Dict.insert h' d p.1 p.2) qs)
        (es.foldl (fun m e => Datum.putEntry e.1 e.2 m) m) from hfill nofun .nil
  induction hps with
  | nil => exact fun _ hqs => hqs
  | @cons p e ps es hp _ ih =>
    rw [List.forall_mem_cons] at hes
    intro qs m hm hqs
    refine ih hes.2 (fun a ha => ?_) (stands_insert hk hp hes.1 hm hqs)
    exact (Datum.forall_mem_putEntry (Q := fun _ => True) hes.1 trivial (fun a ha => ⟨hm a ha, trivial⟩) a ha).1

/-- Different data are different keys of a dictionary. -/
theorem apart_of_stands (hes : ∀ e ∈ es, e.1.IsCollapsed k) (hn : (es.map Prod.fst).Nodup)
    (hps : List.Forall₂ (Stands h k v) ps es) : Apart h' ps := by
  have hkeys : ps.map Prod.fst = es.map fun e => keyValue e.1 := by
    rw [← List.forall₂_eq_eq_eq, List.forall₂_map_left_iff, List.forall₂_map_right_iff]
    exact hps.imp fun _ _ hp => hp.key
  have hapart : (ps.map Prod.fst).Pairwise fun a b => ¬(keyOf h' a).sameKey (keyOf h' b) := by
    rw [hkeys, List.pairwise_map]
    refine (List.pairwise_map.1 hn).imp_of_mem fun {a b} ha hb hne hsame => ?_
    rw [keyOf_keyValue, keyOf_keyValue] at hsame
    exact hne (eq_of_sameKey hk (hes a ha) (hes b hb) hsame)
  exact List.pairwise_map.1 hapart

/-- A map becomes a dictionary. -/
theorem carries_dict (hes : ∀ e ∈ es, e.1.IsCollapsed k) {xs : List (Draft × Draft)} (hxs : CarriesEntries k v es xs) :
    Carries (.map k v) (.map (Datum.mergeEntries es)) (.dict xs) := by
  intro h
  obtain ⟨he, hstands⟩ := hxs h
  refine ⟨he.trans (.push _ _), fun h' hh' => ?_⟩
  have hplaced := hstands h' ((Extends.push _ _).trans hh')
  have hfilled := @stands_mergeEntries h' (Draft.placeEntries xs h).2 _ _ _ _ hk hes hplaced
  have hkeys : ∀ e ∈ Datum.mergeEntries es, e.1.IsCollapsed k := fun e hmem =>
    (Datum.forall_mem_mergeEntries (P := Datum.IsCollapsed k) (Q := fun _ => True) (fun e he => ⟨hes e he, trivial⟩) e
      hmem).1
  have horders := Datum.compare_orders (Ty.isOrdered_of_isKeyLike hk)
  have hn := Datum.nodup_mergeEntries horders fun e hmem => (hes e hmem).hasType
  have hmapping : mapping? h' ((Draft.dict xs).place h).1 =
      some ((Draft.placeEntries xs h).1.foldl (fun d e => Dict.insert (Draft.placeEntries xs h).2 d e.1 e.2) []) := by
    rw [Draft.place, mapping?, hh'.getD_push]
  refine ⟨?_, _, hmapping, apart_of_stands hk hkeys hn hfilled, mirrorsEntries_of_stands hfilled⟩
  have hsorted : ∀ e ∈ Datum.mergeEntries es, e.1.sorted = e.1 := fun e hmem =>
    Datum.sorted_of_isKeyLike hk (hkeys e hmem).hasType
  rw [decode, hmapping]
  refine (congrArg (Option.map Datum.mapOfEntries) (traverse_of_stands hfilled)).trans (congrArg some ?_)
  refine Datum.mapOfEntries_eq horders ?_ ?_ <;> rw [Datum.sortedParts_eq]
  · refine List.forall_mem_map.2 fun e hmem => ?_
    rw [hsorted e hmem]
    exact (hkeys e hmem).hasType
  · rw [List.map_map]
    exact (List.map_congr_left hsorted).symm ▸ hn

end Filling

/-- A sequence becomes a list. -/
theorem carries_list {t : Ty} {ds : List Datum} {xs : List Draft}
    (hxs : CarriesAll (fun h => Draft.traverse (decode h t)) ds xs) : Carries (.vec t) (.list ds) (.list xs) := by
  intro h
  obtain ⟨he, hread⟩ := hxs h
  refine ⟨he.trans (.push _ _), fun h' hh' => ?_⟩
  have hsequence : sequence? h' (.ref (Draft.placeAll xs h).2.size) = some (Draft.placeAll xs h).1 := by
    have hobject : h'.getD (Draft.placeAll xs h).2.size default = _ := hh'.getD_push
    simp [sequence?, plainOf, hobject]
  obtain ⟨hread, hmirrors⟩ := hread h' ((Extends.push _ _).trans hh')
  refine ⟨?_, _, hsequence, hmirrors⟩
  show decode h' (.vec t) (.ref _) = _
  rw [decode, hsequence]
  exact congrArg (Option.map Datum.list) hread

theorem isCollapsed_of_hasType {k : Ty} {es : List (Datum × Datum)} (hes : ∀ e ∈ es, e.1.hasType k) :
    ∀ e ∈ Datum.collapsedParts es, e.1.IsCollapsed k := by
  rw [Datum.collapsedParts_eq]
  exact List.forall_mem_map.2 fun e hmem => ⟨e.1, hes e hmem, rfl⟩

/-- What is absent becomes nothing. -/
theorem ofDatum?_of_isAbsent : ∀ {d : Datum} {t : Ty}, d.hasType t → d.isAbsent → Draft.ofDatum? t d = some (.plain .none)
  | .none, .opt _, _, _ | .unit, .nil, _, _ | .unit, .unit, _, _ => rfl
  | .some d, .opt t, hd, ha => ofDatum?_of_isAbsent (d := d) (t := t) hd ha

/-- An optional value becomes what is there, or nothing. -/
theorem carries_some {t : Ty} {d : Datum} {x : Draft} (hd : d.hasType t) (hx : Draft.ofDatum? t d = some x)
    (hcarries : Carries t d.collapsed x) : Carries (.opt t) (Datum.some d).collapsed x := by
  by_cases ha : d.isAbsent
  · rw [ofDatum?_of_isAbsent hd ha] at hx
    obtain rfl := Option.some.inj hx
    rw [Datum.collapsed_some_of_isAbsent ha]
    exact .of_plain (fun _ => rfl) fun _ => trivial
  · rw [Datum.collapsed_some (Bool.eq_false_iff.2 ha)]
    refine fun h => ⟨(hcarries h).1, fun h' hh' => ?_⟩
    obtain ⟨hread, hmirrors⟩ := (hcarries h).2 h' hh'
    refine ⟨?_, hmirrors⟩
    rw [decode, hread]
    · rfl
    · intro hnone
      rw [hnone] at hread
      exact ha (Datum.isAbsent_of_sorted_collapsed (decode_none hread))

mutual

/-- A datum whose keys can be keys becomes an object that reads as the collapsed datum and mirrors it. -/
theorem exists_collapsed : ∀ {t : Ty} {d : Datum}, t.isConvertible → d.hasType t → d.hasUsableKeys t →
    ∃ x, Draft.ofDatum? t d = some x ∧ Carries t d.collapsed x
  | .int t, d, _, hd, _ => by
    obtain ⟨n, rfl, hn⟩ := Datum.hasType_int_iff.1 hd
    exact ⟨_, rfl, .of_plain (fun h => decode_keyValue h rfl hd) fun _ => trivial⟩
  | .bool, d, _, hd, _ => by
    obtain ⟨b, rfl⟩ := Datum.hasType_bool_iff.1 hd
    exact ⟨_, rfl, .of_plain (fun h => rfl) fun _ => trivial⟩
  | .str, d, _, hd, _ => by
    obtain ⟨s, rfl⟩ := Datum.hasType_str_iff.1 hd
    exact ⟨_, rfl, .of_plain (fun h => decode_keyValue h rfl hd) fun _ => trivial⟩
  | .f32, d, _, hd, _ => by
    obtain ⟨y, rfl⟩ := Datum.hasType_f32_iff.1 hd
    have hread : ∀ h, decode h .f32 (.float (Single.toDouble y)) = some (.f32 y) := fun h =>
      congrArg (some <| Datum.f32 ·) (Single.ofDouble_toDouble y)
    exact ⟨_, rfl, .of_plain hread fun _ => trivial⟩
  | .f64, d, _, hd, _ => by
    obtain ⟨y, rfl⟩ := Datum.hasType_f64_iff.1 hd
    exact ⟨_, rfl, .of_plain (fun h => rfl) fun _ => trivial⟩
  | .opt t, d, ht, hd, hu => by
    rcases Datum.hasType_opt_iff.1 hd with rfl | ⟨e, rfl, he⟩
    · exact ⟨_, rfl, .of_plain (fun h => rfl) fun _ => trivial⟩
    · obtain ⟨x, hx, hcarries⟩ := exists_collapsed (t := t) ht he hu
      exact ⟨x, hx, carries_some he hx hcarries⟩
  | .vec t, d, ht, hd, hu => by
    obtain ⟨ds, rfl, hds⟩ := Datum.hasType_vec_iff.1 hd
    obtain ⟨xs, hxs, hall⟩ := exists_items (t := t) fun d hmem =>
      exists_collapsed ht (hds d hmem) (List.all_eq_true.1 hu d hmem)
    exact ⟨.list xs, congrArg (Option.map Draft.list) hxs, carries_list hall⟩
  | .tuple ts, d, ht, hd, hu => by
    obtain ⟨ds, rfl, hds⟩ := Datum.hasType_tuple_iff.1 hd
    obtain ⟨xs, hxs, hall⟩ := exists_collapsedItems ht hds hu
    refine ⟨.tuple xs, congrArg (Option.map Draft.tuple) hxs, fun h => ⟨(hall h).1, fun h' hh' => ?_⟩⟩
    obtain ⟨hread, hmirrors⟩ := (hall h).2 h' hh'
    exact ⟨congrArg (Option.map Datum.list) hread, _, rfl, hmirrors⟩
  | .map k v, d, ht, hd, hu => by
    simp only [Ty.isConvertible, Bool.and_eq_true] at ht
    obtain ⟨es, rfl, hes⟩ := Datum.hasType_map_iff.1 hd
    have hu : ∀ e ∈ es, e.1.isUsableKey false k ∧ e.2.hasUsableKeys v := fun e hmem =>
      Bool.and_eq_true_iff.1 (List.all_eq_true.1 hu e hmem)
    have hkeys : ∀ e ∈ es, e.1.hasType k := fun e hmem => (hes e hmem).1
    obtain ⟨xs, hxs, hall⟩ := exists_entries (v := v) ht.1 hkeys (fun e hmem => (hu e hmem).1) fun e hmem =>
      exists_collapsed ht.2 (hes e hmem).2 (hu e hmem).2
    exact ⟨.dict xs, congrArg (Option.map Draft.dict) hxs, carries_dict ht.1 (isCollapsed_of_hasType hkeys) hall⟩

theorem exists_collapsedItems : ∀ {ts : List Ty} {ds : List Datum},
    Ty.areConvertible ts → Datum.haveTypes ds ts → Datum.haveUsableKeys ts ds →
    ∃ xs, Draft.ofEach? ts ds = some xs ∧ CarriesAll (fun h => decodeEach h ts) (Datum.collapsedItems ds) xs
  | [], [], _, _, _ => ⟨[], rfl, .nil fun _ => rfl⟩
  | t :: ts, d :: ds, ht, hd, hu => by
    simp only [Ty.areConvertible, Datum.haveTypes, Datum.haveUsableKeys, Bool.and_eq_true] at ht hd hu
    obtain ⟨x, hx, hcarries⟩ := exists_collapsed ht.1 hd.1 hu.1
    obtain ⟨xs, hxs, hall⟩ := exists_collapsedItems ht.2 hd.2 hu.2
    refine ⟨x :: xs, by rw [Draft.ofEach?, hx, hxs], .cons (fun h v vs a as ha has => ?_) hcarries hall⟩
    rw [decodeEach, ha, has]

end

/-- A datum of a portable type becomes an object that reads as the datum and mirrors it. -/
theorem exists_draft {t : Ty} {d : Datum} (ht : t.isPortable) (hd : d.hasType t) (hv : d.IsValue) :
    ∃ x, Draft.ofDatum? t d = some x ∧ Carries t d x := by
  obtain ⟨husable, hflat⟩ := Datum.hasUsableKeys_of_isPortable ht hd
  have hconvertible := Ty.isConvertible_of_isPortable ht
  obtain ⟨x, hx, hcarries⟩ := exists_collapsed hconvertible hd husable
  rw [Datum.collapsed_of_isFlat hconvertible hd hv hflat] at hcarries
  exact ⟨x, hx, hcarries⟩

/-- What becomes an object reads back, with its maps sorted, and all its maps are dictionaries with the same entries, no
two of whose keys are the same. -/
theorem decode_encode (t : Ty) (d : Datum) (h : Heap) (ht : t.isPortable) (hd : d.hasType t) (hv : d.IsValue) :
    ∃ v h', encode t d h = some (v, h') ∧ decode h' t v = some d.sorted ∧ Mirrors h' d v := by
  obtain ⟨x, hx, hcarries⟩ := exists_draft ht hd hv
  exact ⟨_, _, congrArg (Option.map (Draft.place · h)) hx, (hcarries h).2 _ (.refl _)⟩

/-- A map from sequences to tuples, its entries not in order. -/
def sampleMap : Datum :=
  .map [(.list [.some (.int 1), .none], .list [.str "one", .bool true]),
    (.list [.none], .list [.str "none", .bool false])]

/-- A map whose keys are sequences comes back from a dictionary whose keys are tuples. -/
theorem decode_encode_sampleMap :
    ∃ v h', encode (.map (.vec (.opt (.int .i8))) (.tuple [.str, .bool])) sampleMap #[] = some (v, h') ∧
      decode h' (.map (.vec (.opt (.int .i8))) (.tuple [.str, .bool])) v =
        some (.map [(.list [.none], .list [.str "none", .bool false]),
          (.list [.some (.int 1), .none], .list [.str "one", .bool true])]) ∧
      Mirrors h' sampleMap v := by
  have hv : sampleMap.IsValue := by
    simp [sampleMap, Datum.IsValue, Datum.AreValues, Datum.HasValues, Datum.sortedParts, Datum.sorted,
      Datum.sortedItems]
  exact decode_encode (.map (.vec (.opt (.int .i8))) (.tuple [.str, .bool])) sampleMap #[] (by decide) (by decide) hv

end Python

end PluginHost
