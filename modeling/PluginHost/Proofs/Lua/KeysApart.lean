import PluginHost.Proofs.Data.Absent
import PluginHost.Proofs.Data.Overwriting
import PluginHost.Proofs.Lua.Readable

/-!
# Keys that meet

Lua tells the keys of a table apart by what they are, a map by what they read as: two tables with equal contents are two
keys of a table and one key of a map. `read_map` says what comes of a table in general: a map with one entry for each key,
the last one on the way, so that the order of the walk decides. Where no keys meet (`KeepsApart`), which they never do if
they are scalars (`keepsApart_of_hasSimpleKeys`), nothing is lost and the order makes no difference.
-/

namespace PluginHost.Lua

variable {h : Heap} {o : Traversal} {x : Value}

/-- Whether distinct keys of tables mean distinct data wherever reading a value comes. -/
def KeepsApart (h : Heap) : Ty → Value → Prop
  | .opt t, x => KeepsApart h t x
  | .vec t, x => ∀ id, x = .table id → ∀ e ∈ (h.table id).toEntries, KeepsApart h t e.2
  | .map k v, x => ∀ id, x = .table id →
      (∀ e ∈ (h.table id).toEntries, KeepsApart h k e.1.toValue ∧ KeepsApart h v e.2) ∧
      ∀ e ∈ (h.table id).toEntries, ∀ e' ∈ (h.table id).toEntries, ∀ d,
        decode h k e.1.toValue = some d → decode h k e'.1.toValue = some d → e.1 = e'.1
  | _, _ => True

/-- Scalars that are distinct as keys are distinct as data. -/
theorem keepsApart_of_hasSimpleKeys : ∀ {t : Ty} {x : Value}, hasSimpleKeys t → KeepsApart h t x
  | .int _, _, _ | .f32, _, _ | .f64, _, _ | .bool, _, _ | .str, _, _ | .nil, _, _ => trivial
  | .unit, _, _ | .tuple _, _, _ => trivial
  | .opt t, _, ht => keepsApart_of_hasSimpleKeys (t := t) ht
  | .vec t, _, ht => fun _ _ _ _ => keepsApart_of_hasSimpleKeys (t := t) ht
  | .map k v, _, ht => by
    rw [hasSimpleKeys, Bool.and_eq_true] at ht
    refine fun id _ => ⟨fun e _ => ⟨?_, ?_⟩, fun e _ e' _ d => decode_toValue_injective ht.1⟩
    · exact keepsApart_of_hasSimpleKeys (hasSimpleKeys_of_isSimpleKey ht.1)
    · exact keepsApart_of_hasSimpleKeys ht.2

/-! ## The types of what is read -/

theorem scalar?_hasType {t : Ty} {d : Datum} (hd : Vm.scalar? t x = some d) : d.hasType t := by
  cases t with
  | int t =>
    rw [scalar?_int, Option.bind_eq_some_iff] at hd
    obtain ⟨n, -, hn⟩ := hd
    obtain ⟨hrange, hd⟩ := Option.ite_none_right_eq_some.1 hn
    cases hd
    exact IntTy.holds_iff.2 hrange
  | f32 | f64 =>
    obtain ⟨n, -, rfl⟩ := Option.map_eq_some_iff.1 hd
    rfl
  | str =>
    cases x with
    | text s =>
      obtain ⟨s, -, rfl⟩ := Option.map_eq_some_iff.1 hd
      rfl
    | _ => cases hd
  | bool | nil =>
    cases x <;> cases hd
    rfl
  | _ => cases hd

/-- What a value reads as has the type that was asked for. -/
theorem valueAs_hasType : ∀ {t : Ty} {x : Value} {d : Datum}, t.isPushable → Vm.valueAs h o t x = some d → d.hasType t
  | .int t, x, d, _, hd => scalar?_hasType (t := .int t) hd
  | .f32, x, d, _, hd => scalar?_hasType (t := .f32) hd
  | .f64, x, d, _, hd => scalar?_hasType (t := .f64) hd
  | .bool, x, d, _, hd => scalar?_hasType (t := .bool) hd
  | .str, x, d, _, hd => scalar?_hasType (t := .str) hd
  | .nil, x, d, _, hd => scalar?_hasType (t := .nil) hd
  | .opt t, x, d, ht, hd => by
    cases x with
    | nil =>
      cases hd
      rfl
    | _ =>
      obtain ⟨e, he, rfl⟩ := Option.map_eq_some_iff.1 hd
      exact valueAs_hasType (t := t) ht he
  | .vec t, x, d, ht, hd => by
    cases x with
    | table id =>
      have hn : ((o.entries h id).map Prod.fst).Nodup := ((o.perm h id).map _).nodup_iff.2 (h.table id).nodup_keys
      obtain ⟨ds, rfl, es, -, -, hes⟩ := (bind_itemsOf?_eq_some_iff hn).1 hd
      refine Datum.hasType_vec_iff.2 ⟨ds, rfl, fun e he => ?_⟩
      obtain ⟨p, -, hp⟩ := exists_of_mem_right hes he
      exact valueAs_hasType (t := t) ht hp
    | _ => cases hd
  | .map k v, x, d, ht, hd => by
    simp only [Ty.isPushable, Bool.and_eq_true] at ht
    cases x with
    | table id =>
      obtain ⟨ps, hps, rfl⟩ := Option.map_eq_some_iff.1 hd
      have htypes : ∀ p ∈ ps, p.1.hasType k ∧ p.2.hasType v := by
        intro p hp
        obtain ⟨e, -, hkey, hvalue⟩ := exists_of_mem_right (pairsAs_eq_some_iff.1 hps) hp
        exact ⟨valueAs_hasType ht.1.1 hkey, valueAs_hasType ht.2 hvalue⟩
      refine Datum.hasType_map_iff.2 ⟨_, rfl, fun e he => ?_⟩
      have horders := Datum.compare_orders ht.1.2
      obtain ⟨before, after, rfl, -⟩ := (Datum.mem_overwritten_iff horders fun p hp => (htypes p hp).1).1 he
      exact htypes e (by simp)
    | _ => cases hd

/-! ## Where no keys meet -/

theorem pairsAs_congr {key key' value value' : Value → Option Datum} {es : List (Key × Value)}
    (h : ∀ e ∈ es, key e.1.toValue = key' e.1.toValue ∧ value e.2 = value' e.2) :
    Vm.pairsAs key value es = Vm.pairsAs key' value' es := by
  induction es with
  | nil => rfl
  | cons e es ih =>
    rw [List.forall_mem_cons] at h
    rw [Vm.pairsAs_cons, Vm.pairsAs_cons, h.1.1, h.1.2, ih h.2]

/-- Where no keys meet, a value reads as what it means, however tables are walked. -/
theorem valueAs_of_keepsApart : ∀ {t : Ty} {x : Value}, t.isPushable → KeepsApart h t x →
    Vm.valueAs h o t x = decode h t x
  | .int t, x, _, _ => scalar?_int t x
  | .f32, x, _, _ | .f64, x, _, _ | .bool, x, _, _ | .str, x, _, _ | .nil, x, _, _ => by cases x <;> rfl
  | .opt t, x, ht, hx => by
    have ih := valueAs_of_keepsApart (t := t) ht hx
    cases x <;> first | rfl | exact congrArg (Option.map _) ih
  | .vec t, x, ht, hx => by
    cases x with
    | table id =>
      have hitems : ∀ e ∈ o.entries h id, Vm.valueAs h o t e.2 = decode h t e.2 := fun e he =>
        valueAs_of_keepsApart (t := t) ht (hx id rfl e ((o.perm h id).mem_iff.1 he))
      rw [Vm.valueAs, Vm.entriesAs, pairsAs_congr fun e he => ⟨rfl, hitems e he⟩]
      exact pairsAs_bind_itemsOf? (o.perm h id)
    | _ => rfl
  | .map k v, x, ht, hx => by
    simp only [Ty.isPushable, Bool.and_eq_true] at ht
    cases x with
    | table id =>
      obtain ⟨hparts, hapart⟩ := hx id rfl
      have hes : ∀ e ∈ (h.table id).toEntries, Vm.valueAs h o k e.1.toValue = decode h k e.1.toValue ∧
          Vm.valueAs h o v e.2 = decode h v e.2 := fun e he =>
        ⟨valueAs_of_keepsApart ht.1.1 (hparts e he).1, valueAs_of_keepsApart ht.2 (hparts e he).2⟩
      rw [Vm.valueAs, Vm.entriesAs, pairsAs_map_of_perm (Datum.compare_orders ht.1.2) (o.perm h id), pairsAs_congr hes]
      · rfl
      · intro ps hps
        have hps := pairsAs_eq_some_iff.1 hps
        refine ⟨fun p hp => ?_, nodup_of_entries hps (fun e he e' he' d hd hd' => ?_) (h.table id).nodup_keys⟩
        · obtain ⟨e, -, hkey, -⟩ := exists_of_mem_right hps hp
          exact valueAs_hasType ht.1.1 hkey
        · exact hapart e he e' he' d ((hes e he).1 ▸ hd) ((hes e' he').1 ▸ hd')
    | _ => rfl

/-! ## What a table reads as -/

/-- What comes of the entries of a table that are read one after the other: a sorted map, in which the last of those
entries counts that read as having the same key. It has one entry for each of them iff no two have. -/
structure Merged (key value : Value → Option Datum) (entries : List (Key × Value)) (es : List (Datum × Datum)) :
    Prop where
  sorted : Datum.Ascends es
  mem_iff : ∃ ps, List.Forall₂ (EntryAs key value) entries ps ∧ (∀ e, e ∈ es ↔
    ∃ before after, ps = before ++ e :: after ∧ ∀ p ∈ after, p.1 ≠ e.1)
  length_le : es.length ≤ entries.length
  length_eq_iff : es.length = entries.length ↔ (entries.map fun e => key e.1.toValue).Nodup

theorem merged_overwritten {s : Datum → Prop} (hs : Orders Datum.compare s) {key value : Value → Option Datum}
    {entries : List (Key × Value)} {ps : List (Datum × Datum)} (hps : List.Forall₂ (EntryAs key value) entries ps)
    (ha : ∀ p ∈ ps, s p.1) : Merged key value entries (Datum.overwritten ps) := by
  obtain ⟨hascends, hmem⟩ := Datum.overwritten_spec hs ha
  obtain ⟨hle, heq⟩ := Datum.length_overwritten hs ha
  have hkeys : entries.map (fun e => key e.1.toValue) = (ps.map Prod.fst).map some := by
    clear hascends hmem hle heq ha
    induction hps with
    | nil => rfl
    | cons he _ ih => rw [List.map_cons, List.map_cons, List.map_cons, he.1, ih]
  rw [← hps.length_eq] at hle heq
  refine ⟨hascends, ⟨ps, hps, hmem⟩, hle, heq.trans ?_⟩
  rw [hkeys, List.nodup_map_iff (Option.some_injective Datum)]

/-- What is read is what the value in the slot reads as. -/
theorem valueAs_of_read {vm : Vm} {t : Ty} {d : Datum} (hx : vm.topValue? = some x) (hd : (vm.read t).1 = some d) :
    Vm.valueAs vm.heap vm.traversal t x = some d := by
  have hread : (Vm.readTop t).run vm = (some d, (vm.read t).2) := Prod.ext hd rfl
  have hsame : (vm.read t).2 = vm := Vm.readTop_restores t hread
  have hvalue := Vm.read_eq_valueAs hx t (congrArg Vm.refusals hsame)
  rw [← hd, hvalue]

/-- Whether a value reads does not depend on the way that tables are walked. -/
theorem isSome_read_of_traversal {vm : Vm} {t : Ty} (hx : vm.topValue? = some x) (hd : (vm.read t).1.isSome)
    (o : Traversal) : ({ vm with traversal := o }.read t).1.isSome := by
  have hreadable := (Vm.isSome_readTop_iff t hx).1 hd
  have hx' : { vm with traversal := o }.topValue? = some x := hx
  exact (Vm.isSome_readTop_iff t hx').2 hreadable

/-- No two entries of a table have the same key on the way, if the table keeps its keys apart. -/
theorem nodup_keysAs {k v : Ty} {id : Nat} (ht : k.isPushable) (hapart : KeepsApart h (.map k v) (.table id))
    (hkeys : ∀ e ∈ o.entries h id, (Vm.valueAs h o k e.1.toValue).isSome) :
    ((o.entries h id).map fun e => Vm.valueAs h o k e.1.toValue).Nodup := by
  obtain ⟨hparts, hapart⟩ := hapart id rfl
  have hmem : ∀ {e}, e ∈ o.entries h id → e ∈ (h.table id).toEntries := (o.perm h id).mem_iff.1
  have hdecode : ∀ e ∈ o.entries h id, Vm.valueAs h o k e.1.toValue = decode h k e.1.toValue := fun e he =>
    valueAs_of_keepsApart ht (hparts e (hmem he)).1
  have hn : ((o.entries h id).map Prod.fst).Nodup := ((o.perm h id).map _).nodup_iff.2 (h.table id).nodup_keys
  refine List.Nodup.map_on (fun e he e' he' heq => ?_) hn.of_map
  obtain ⟨d, hd⟩ := Option.isSome_iff_exists.1 (hkeys e he)
  have hsame := hapart e (hmem he) e' (hmem he') d (hdecode e he ▸ hd) (hdecode e' he' ▸ heq ▸ hd)
  exact List.inj_on_of_nodup_map hn he he' hsame

/-- What a table reads as is what its entries were merged to on the way. Whether it reads does not depend on that way.
Where no keys meet, the map has all entries of the table and is the same for every way. -/
theorem read_map (vm : Vm) (id : Nat) (k v : Ty) (d : Datum) (hx : vm.topValue? = some (.table id))
    (ht : (Ty.map k v).isPushable) (hd : (vm.read (.map k v)).1 = some d) :
    (∀ o, ({ vm with traversal := o }.read (.map k v)).1.isSome) ∧
    ∃ es, d = .map es ∧ Merged (Vm.valueAs vm.heap vm.traversal k) (Vm.valueAs vm.heap vm.traversal v)
        (vm.traversal.entries vm.heap id) es ∧
      (KeepsApart vm.heap (.map k v) (.table id) → es.length = (vm.heap.table id).toEntries.length ∧
        ∀ o, ({ vm with traversal := o }.read (.map k v)).1 = some d) := by
  have hreads := isSome_read_of_traversal hx (Option.isSome_iff_exists.2 ⟨d, hd⟩)
  have hvalue := valueAs_of_read hx hd
  obtain ⟨ps, hps, hmap⟩ := Option.map_eq_some_iff.1 hvalue
  have hparts : k.isPushable ∧ k.isOrdered := by
    simp only [Ty.isPushable, Bool.and_eq_true] at ht
    exact ht.1
  have htypes : ∀ p ∈ ps, p.1.hasType k := by
    intro p hp
    obtain ⟨e, -, hkey, -⟩ := exists_of_mem_right (pairsAs_eq_some_iff.1 hps) hp
    exact valueAs_hasType hparts.1 hkey
  have hmerged := merged_overwritten (Datum.compare_orders hparts.2) (pairsAs_eq_some_iff.1 hps) htypes
  refine ⟨hreads, Datum.overwritten ps, hmap.symm, hmerged, fun hapart => ⟨?_, fun o => ?_⟩⟩
  · have hkeys := fun e he => (isSome_pairsAs_iff.1 (Option.isSome_iff_exists.2 ⟨ps, hps⟩) e he).1
    exact (hmerged.length_eq_iff.2 (nodup_keysAs hparts.1 hapart hkeys)).trans
      (vm.traversal.perm vm.heap id).length_eq
  · obtain ⟨d', hd'⟩ := Option.isSome_iff_exists.1 (hreads o)
    have hx' : { vm with traversal := o }.topValue? = some (.table id) := hx
    have hvalue' : Vm.valueAs vm.heap o (.map k v) (.table id) = some d' := valueAs_of_read hx' hd'
    rw [valueAs_of_keepsApart ht hapart] at hvalue hvalue'
    rw [hd', ← hvalue', hvalue]

/-- A table whose keys are integers reads as the same map whichever way it is walked. -/
theorem read_map_sampleTableVm :
    ({ sampleTableVm with traversal := default }.read (.map (.int .i64) (.vec (.int .u8)))).1 =
      some (.map [(.int (-2), .list [.int 5]), (.int 7, .list [.int 3, .int 4])]) := by
  obtain ⟨-, es, -, -, hapart⟩ := read_map sampleTableVm 1 (.int .i64) (.vec (.int .u8))
    (.map [(.int (-2), .list [.int 5]), (.int 7, .list [.int 3, .int 4])]) rfl rfl rfl
  exact (hapart (keepsApart_of_hasSimpleKeys rfl)).2 default

/-- An interpreter with a table on top that has two keys, which are tables with equal contents. -/
def sampleTwins : Vm :=
  let vm := ((({} : Vm).push (.list [.int 1])).2.push (.list [.int 1])).2
  let (id, heap) := vm.heap.addTable (.withRoom 0 2)
  { vm with
    heap := heap.modifyTable id fun t => (t.set (.table 1) (.integer 5)).set (.table 2) (.integer 6)
    stack := #[.table id] }

/-- Of two entries whose keys read as the same one is lost, which one depends on the way that the table is walked. -/
theorem read_sampleTwins : (sampleTwins.heap.table 3).toEntries.length = 2 ∧
    (sampleTwins.read (.map (.vec (.int .i64)) (.int .i64))).1 = some (.map [(.list [.int 1], .int 6)]) ∧
    ({ sampleTwins with traversal := .backwards }.read (.map (.vec (.int .i64)) (.int .i64))).1 =
      some (.map [(.list [.int 1], .int 5)]) := by
  exact ⟨rfl, rfl, rfl⟩

end PluginHost.Lua
