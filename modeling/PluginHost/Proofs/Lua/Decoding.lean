import PluginHost.Proofs.Data.Order
import PluginHost.Proofs.Lua.Reading
import Mathlib.Data.List.Perm.Basic

/-!
# What Lua values mean as data

`decode` says what a Lua value means as a datum of a type, without a stack and without an order in which tables are
traversed: a sequence is a table whose keys are the numbers from one up, and a map has exactly the entries of its table.
`read_eq_decode` says that reading from the stack is this, for maps whose keys are integers, booleans or texts, or
optional ones.
-/

namespace PluginHost.Lua

/-! ## The meaning of values -/

/-- The integer that a number is: an integer, or a double without a fraction in the range of integers. -/
def integerOf? : Value → Option Int
  | .integer n => some n.toInt
  | .number x => (Decimal.toInt? x).bind fun n => if -2 ^ 63 ≤ n ∧ n < 2 ^ 63 then some n else none
  | _ => none

/-- The double that a number is; an integer is rounded. -/
def doubleOf? : Value → Option Float
  | .integer n => some (Number.integer n).toFloat
  | .number x => some x
  | _ => none

/-- Whether the keys of a table are the numbers from one to the number of its entries. -/
def Table.IsSequence (t : Table) : Prop :=
  (t.toEntries.map (·.1.position?)).Perm ((List.range t.toEntries.length).map some)

instance (t : Table) : Decidable t.IsSequence := List.decidablePerm _ _

/-- The datum of a type that a value means. -/
def decode (h : Heap) : Ty → Value → Option Datum
  | .int t, x => (integerOf? x).bind fun n => if t.min ≤ n ∧ n ≤ t.max then some (.int n) else none
  | .f32, x => (doubleOf? x).map fun y => .f32 (Single.ofDouble y)
  | .f64, x => (doubleOf? x).map .f64
  | .bool, .boolean b => some (.bool b)
  | .str, .text s => (Text.ofBytes? s).map .str
  | .nil, .nil => some .unit
  | .opt _, .nil => some .none
  | .opt t, x => (decode h t x).map .some
  | .vec t, .table id =>
    if (h.table id).IsSequence then
      ((List.range (h.table id).toEntries.length).mapM fun i => decode h t ((h.table id).get (.atPosition i))).map .list
    else none
  | .map k v, .table id =>
    (Vm.pairsAs (decode h k) (decode h v) (h.table id).toEntries).map fun pairs => .map (Datum.sortEntries pairs)
  | _, _ => none

/-- The types whose data are keys of maps: integers, booleans and texts, which may be optional. -/
def isSimpleKey : Ty → Bool
  | .int _ | .bool | .str => true
  | .opt t => isSimpleKey t
  | _ => false

/-- Whether all maps of a type have simple keys. -/
def hasSimpleKeys : Ty → Bool
  | .opt t | .vec t => hasSimpleKeys t
  | .map k v => isSimpleKey k && hasSimpleKeys v
  | _ => true

/-! ## Scalars -/

theorem toInteger?_eq (x : Value) : (x.number?.bind Number.toInteger?).map Int64.toInt = integerOf? x := by
  cases x with
  | integer n => rfl
  | number x =>
    simp only [Value.number?, Option.bind_some, Number.toInteger?, floatToInteger?, integerOf?, bind]
    cases Decimal.toInt? x with
    | none => rfl
    | some n =>
      simp only [Option.bind_some]
      split
      · next h => exact congrArg some (Int64.toInt_ofInt_of_le h.1 h.2)
      · rfl
  | _ => rfl

theorem scalar?_int (t : IntTy) (x : Value) :
    Vm.scalar? (.int t) x = (integerOf? x).bind fun n => if t.min ≤ n ∧ n ≤ t.max then some (.int n) else none := by
  rw [← toInteger?_eq]
  simp only [Vm.scalar?, ← IntTy.holds_iff]
  cases x.number?.bind Number.toInteger? <;> rfl

/-! ## Entries -/

section Entries

variable {key value : Value → Option Datum} {es es' : List (Key × Value)} {ps : List (Datum × Datum)}

/-- What an entry reads as. -/
def EntryAs (key value : Value → Option Datum) (e : Key × Value) (p : Datum × Datum) : Prop :=
  key e.1.toValue = some p.1 ∧ value e.2 = some p.2

theorem mapM_eq_some_iff {α β : Type} {f : α → Option β} {as : List α} {bs : List β} :
    as.mapM f = some bs ↔ List.Forall₂ (fun a b => f a = some b) as bs := by
  induction as generalizing bs with
  | nil =>
    rw [List.mapM_nil, List.forall₂_nil_left_iff]
    exact ⟨fun h => (Option.some.inj h).symm, fun h => h ▸ rfl⟩
  | cons a as ih =>
    simp only [List.mapM_cons, bind, pure, Option.bind_eq_some_iff, ih, Option.some.injEq, List.forall₂_cons_left_iff]
    constructor
    · rintro ⟨b, hb, cs, hcs, rfl⟩
      exact ⟨b, cs, hb, hcs, rfl⟩
    · rintro ⟨b, cs, hb, hcs, rfl⟩
      exact ⟨b, hb, cs, hcs, rfl⟩

theorem pairsAs_eq_some_iff : Vm.pairsAs key value es = some ps ↔ List.Forall₂ (EntryAs key value) es ps := by
  have hentry : ∀ (e : Key × Value) (p : Datum × Datum),
      (do return (← key e.1.toValue, ← value e.2)) = some p ↔ EntryAs key value e p := by
    intro e p
    simp only [bind, pure, Option.bind_eq_some_iff, Option.some.injEq, EntryAs]
    constructor
    · rintro ⟨dk, hk, dv, hv, rfl⟩
      exact ⟨hk, hv⟩
    · rintro ⟨hk, hv⟩
      exact ⟨p.1, hk, p.2, hv, rfl⟩
  rw [Vm.pairsAs, mapM_eq_some_iff]
  simp only [hentry]

/-- The order of entries is the order of what they read as. -/
theorem pairsAs_perm (h : es.Perm es') (hps : Vm.pairsAs key value es' = some ps) :
    ∃ qs, Vm.pairsAs key value es = some qs ∧ qs.Perm ps := by
  obtain ⟨qs, hqs, hp⟩ := List.perm_comp_forall₂ h (pairsAs_eq_some_iff.1 hps)
  exact ⟨qs, pairsAs_eq_some_iff.2 hqs, hp⟩

/-- Distinct keys stay distinct, if none of them read as the same. -/
theorem nodup_of_entries (h : List.Forall₂ (EntryAs key value) es ps) (hkey : ∀ e ∈ es, ∀ e' ∈ es, ∀ d,
    key e.1.toValue = some d → key e'.1.toValue = some d → e.1 = e'.1) (hn : (es.map Prod.fst).Nodup) :
    (ps.map Prod.fst).Nodup := by
  induction h with
  | nil => exact List.nodup_nil
  | cons he hes ih =>
    rw [List.map_cons, List.nodup_cons, List.mem_map] at hn ⊢
    refine ⟨?_, ih (fun e hmem e' hmem' => ?_) hn.2⟩
    · rintro ⟨q, hq, hqp⟩
      obtain ⟨e', he', hq'⟩ := exists_of_mem_right hes hq
      have hsame := hkey e' (List.mem_cons_of_mem _ he') _ List.mem_cons_self _ (hqp ▸ hq'.1) he.1
      exact hn.1 ⟨e', he', hsame⟩
    · exact hkey e (List.mem_cons_of_mem _ hmem) e' (List.mem_cons_of_mem _ hmem')

end Entries

/-! ## Keys -/

theorem integerOf?_toValue {k : Key} {n : Int} (h : integerOf? k.toValue = some n) : k = .integer (Int64.ofInt n) := by
  cases k with
  | integer m =>
    simp only [Key.toValue, integerOf?, Option.some.injEq] at h
    rw [← h, Int64.ofInt_toInt]
  | number x hx =>
    rw [← toInteger?_eq] at h
    simp [Key.toValue, Value.number?, Number.toInteger?, hx.1] at h
  | _ => cases h

theorem text_of_ofBytes? {s : ByteArray} {t : String} (h : Text.ofBytes? s = some t) : s = t.toUTF8 := by
  simp only [Text.ofBytes?, String.fromUTF8?] at h
  split at h
  · cases h
    rfl
  · cases h

/-- Distinct keys of tables are distinct as data. -/
theorem decode_toValue_injective {h : Heap} {k k' : Key} : ∀ {t : Ty} {d : Datum}, isSimpleKey t →
    decode h t k.toValue = some d → decode h t k'.toValue = some d → k = k'
  | .int t, d, _, hk, hk' => by
    simp only [decode, Option.bind_eq_some_iff, Option.ite_none_right_eq_some, Option.some.injEq] at hk hk'
    obtain ⟨n, hn, -, rfl⟩ := hk
    obtain ⟨n', hn', -, hd⟩ := hk'
    cases hd
    rw [integerOf?_toValue hn, integerOf?_toValue hn']
  | .bool, d, _, hk, hk' => by
    cases k <;> cases hk
    cases k' <;> cases hk'
    rfl
  | .str, d, _, hk, hk' => by
    cases k <;> try cases hk
    cases k' <;> try cases hk'
    simp only [Key.toValue, decode, Option.map_eq_some_iff] at hk hk'
    obtain ⟨s, hs, rfl⟩ := hk
    obtain ⟨s', hs', hd⟩ := hk'
    cases hd
    rw [text_of_ofBytes? hs, text_of_ofBytes? hs']
  | .opt t, d, ht, hk, hk' => by
    have hopt : ∀ {k : Key}, decode h (.opt t) k.toValue = (decode h t k.toValue).map .some := fun {k} => by
      cases k <;> rfl
    rw [hopt, Option.map_eq_some_iff] at hk hk'
    obtain ⟨e, he, rfl⟩ := hk
    obtain ⟨e', he', hd⟩ := hk'
    cases hd
    exact decode_toValue_injective (t := t) ht he he'

theorem decode_hasType {h : Heap} {x : Value} : ∀ {t : Ty} {d : Datum}, isSimpleKey t → decode h t x = some d →
    d.hasType t
  | .int t, d, _, hd => by
    simp only [decode, Option.bind_eq_some_iff, Option.ite_none_right_eq_some, Option.some.injEq] at hd
    obtain ⟨n, -, hn, rfl⟩ := hd
    exact IntTy.holds_iff.2 hn
  | .bool, d, _, hd => by
    cases x <;> cases hd
    rfl
  | .str, d, _, hd => by
    cases x <;> try cases hd
    simp only [decode, Option.map_eq_some_iff] at hd
    obtain ⟨s, -, rfl⟩ := hd
    rfl
  | .opt t, d, ht, hd => by
    have hopt : x = .nil ∧ d = .none ∨ ∃ e, decode h t x = some e ∧ d = .some e := by
      cases x with
      | nil => exact .inl ⟨rfl, (Option.some.inj hd).symm⟩
      | _ =>
        obtain ⟨e, he, rfl⟩ := Option.map_eq_some_iff.1 hd
        exact .inr ⟨e, he, rfl⟩
    rcases hopt with ⟨-, rfl⟩ | ⟨e, he, rfl⟩
    · rfl
    · exact decode_hasType (t := t) ht he

theorem isOrdered_of_isSimpleKey : ∀ {t : Ty}, isSimpleKey t → t.isOrdered
  | .int _, _ | .bool, _ | .str, _ => rfl
  | .opt t, ht => isOrdered_of_isSimpleKey (t := t) ht

/-! ## Sequences -/

section Sequences

variable {t : Table} {ds : List Datum} {ps : List (Datum × Datum)}

theorem Table.lookup_eq_get {k : Key} {v : Value} (h : (k, v) ∈ t.toEntries) : t.get k = v := (t.mem_toEntries.1 h).1

theorem Table.IsSequence.exists_position (ht : t.IsSequence) {i : Nat} (hi : i < t.toEntries.length) :
    ∃ e ∈ t.toEntries, e.1.position? = some i :=
  List.mem_map.1 (ht.mem_iff.2 (List.mem_map.2 ⟨i, List.mem_range.2 hi, rfl⟩))

theorem Table.IsSequence.position?_atPosition (ht : t.IsSequence) {i : Nat} (hi : i < t.toEntries.length) :
    (Key.atPosition i).position? = some i := by
  obtain ⟨e, -, he⟩ := ht.exists_position hi
  exact Key.position?_atPosition (Key.position?_lt he)

/-- The entries of a sequence are those of its places. -/
theorem Table.IsSequence.perm (ht : t.IsSequence) :
    t.toEntries.Perm ((List.range t.toEntries.length).map fun i => (.atPosition i, t.get (.atPosition i))) := by
  refine (List.perm_ext_iff_of_nodup (List.Nodup.of_map _ t.nodup_keys) ?_).2 ?_
  · refine List.Nodup.map_on (fun i hi j hj h => ?_) List.nodup_range
    have hk := congrArg (fun p => p.1.position?) h
    simp only [ht.position?_atPosition (List.mem_range.1 hi), ht.position?_atPosition (List.mem_range.1 hj)] at hk
    exact Option.some.inj hk
  · rintro ⟨k, v⟩
    rw [List.mem_map]
    constructor
    · intro h
      obtain ⟨i, hi, hk⟩ := List.mem_map.1 (ht.mem_iff.1 (List.mem_map.2 ⟨_, h, rfl⟩))
      refine ⟨i, hi, ?_⟩
      rw [← Key.eq_atPosition hk.symm, Table.lookup_eq_get h]
    · rintro ⟨i, hi, h⟩
      obtain ⟨⟨k', v'⟩, he, hk'⟩ := ht.exists_position (List.mem_range.1 hi)
      rw [← Key.eq_atPosition hk', Table.lookup_eq_get he] at h
      exact h ▸ he

/-- Entries under the numbers from one up, in their order, are what a table has at its places. -/
theorem Table.eq_places {es : List (Key × Value)} {n : Nat} (hp : es.Perm t.toEntries)
    (hpos : es.map (·.1.position?) = (List.range n).map some) :
    es = (List.range n).map fun i => (.atPosition i, t.get (.atPosition i)) := by
  have hlen : es.length = n := by simpa using congrArg List.length hpos
  refine List.ext_getElem (by simpa using hlen) fun i hi _ => ?_
  have hk : es[i].1.position? = some i := by
    have := List.getElem_of_eq hpos (i := i) (by simpa using hi)
    simpa using this
  have hv : t.get es[i].1 = es[i].2 := Table.lookup_eq_get (hp.mem_iff.1 (List.getElem_mem hi))
  rw [List.getElem_map, List.getElem_range, ← Key.eq_atPosition hk, hv]

/-- Data with the numbers from one up. -/
def numbered (ds : List Datum) : List (Datum × Datum) := ds.zipIdx.map fun (d, i) => (.int (i + 1), d)

theorem ascends_numbered (ds : List Datum) : Datum.Ascends (numbered ds) := by
  refine List.pairwise_map.2 (List.pairwise_iff_getElem.2 fun i j hi hj hij => ?_)
  simp only [List.getElem_zipIdx, Nat.zero_add, Datum.compare]
  exact Int.compare_eq_lt.2 (by omega)

theorem map_snd_numbered (ds : List Datum) : (numbered ds).map Prod.snd = ds := by
  rw [numbered, List.map_map]
  exact List.zipIdx_map_fst 0 ds

theorem isInt_of_mem_numbered {p : Datum × Datum} (hp : p ∈ numbered ds) : ∃ n, p.1 = .int n := by
  obtain ⟨_, -, rfl⟩ := List.mem_map.1 hp
  exact ⟨_, rfl⟩

/-- Integers of any size are ordered. -/
theorem orders_int : Orders Datum.compare fun d => ∃ n, d = .int n := by
  refine Orders.of_instances.image (f := Datum.int) (fun h => by injection h) (fun _ _ => rfl) ?_
  rintro _ ⟨n, rfl⟩
  exact ⟨n, trivial, rfl⟩

/-- The check of a sequence: its keys, which are sorted, are the numbers from one up. -/
theorem all_zipIdx_iff (ps : List (Datum × Datum)) (m : Nat) :
    ((ps.zipIdx m).all fun ((k, _), i) => match k with
      | .int n => n = i + 1
      | _ => false) = true ↔ ps = (((ps.map Prod.snd).zipIdx m).map fun (d, i) => (.int (i + 1), d)) := by
  induction ps generalizing m with
  | nil => simp
  | cons p ps ih =>
    obtain ⟨k, d⟩ := p
    simp only [List.zipIdx_cons, List.all_cons, Bool.and_eq_true, ih (m + 1), List.map_cons, List.cons.injEq,
      Prod.mk.injEq, and_true]
    cases k <;> simp

/-- Entries read as a sequence when they are its items under the numbers from one up, in any order. -/
theorem itemsOf?_eq_some_iff (hps : ∀ p ∈ ps, ∃ n, p.1 = .int n) (hn : (ps.map Prod.fst).Nodup) {d : Datum} :
    Vm.itemsOf? ps = some d ↔ ∃ ds, d = .list ds ∧ ps.Perm (numbered ds) := by
  rw [Vm.itemsOf?, Datum.mapOfEntries_eq orders_int hps hn]
  simp only [Option.ite_none_right_eq_some, Option.some.injEq]
  refine Iff.trans (and_congr_left' (all_zipIdx_iff (Datum.sortEntries ps) 0)) ?_
  constructor
  · rintro ⟨hs, rfl⟩
    refine ⟨_, rfl, (Datum.sortEntries_perm ps).symm.trans ?_⟩
    exact List.Perm.of_eq hs
  · rintro ⟨ds, rfl, hp⟩
    have hs : Datum.sortEntries ps = numbered ds :=
      (Datum.Ascends.eq_of_perm orders_int (fun p => isInt_of_mem_numbered) (ascends_numbered ds)
        (Datum.ascends_sortEntries orders_int hps hn) (hp.symm.trans (Datum.sortEntries_perm ps).symm)).symm
    rw [hs, map_snd_numbered]
    exact ⟨rfl, rfl⟩

/-- A key reads as an integer above zero when it means a place. -/
theorem scalar?_place_iff {k : Key} {i : Nat} :
    Vm.scalar? (.int .i64) k.toValue = some (.int (i + 1)) ↔ k.position? = some i := by
  rw [scalar?_int, Option.bind_eq_some_iff]
  simp only [Option.ite_none_right_eq_some, Option.some.injEq, Datum.int.injEq]
  constructor
  · rintro ⟨n, hn, -, rfl⟩
    obtain rfl := integerOf?_toValue hn
    simp only [Key.toValue, integerOf?, Option.some.injEq] at hn
    simp only [Key.position?, hn]
    rw [if_pos (by omega)]
    exact congrArg some (by omega)
  · intro h
    have hi := Key.position?_lt h
    refine ⟨i + 1, ?_, ⟨?_, ?_⟩, rfl⟩
    · rw [Key.eq_atPosition h]
      exact congrArg some (Int64.toInt_ofNat_of_lt hi)
    · simp only [IntTy.min, IntTy.signed, IntTy.bits, if_true]
      omega
    · simp only [IntTy.max, IntTy.signed, IntTy.bits, if_true]
      omega

theorem entryAs_numbered_iff {value : Value → Option Datum} {es : List (Key × Value)} :
    List.Forall₂ (EntryAs (Vm.scalar? (.int .i64)) value) es (numbered ds) ↔
      es.map (·.1.position?) = (List.range ds.length).map some ∧
        List.Forall₂ (fun e d => value e.2 = some d) es ds := by
  simp only [List.forall₂_iff_get, List.ext_getElem_iff, EntryAs, numbered, List.length_map, List.length_zipIdx,
    List.length_range, List.get_eq_getElem, List.getElem_map, List.getElem_zipIdx, List.getElem_range, Nat.zero_add,
    scalar?_place_iff]
  constructor
  · rintro ⟨hl, h⟩
    exact ⟨⟨hl, fun i h₁ h₂ => (h i h₁ h₂).1⟩, hl, fun i h₁ h₂ => (h i h₁ h₂).2⟩
  · rintro ⟨⟨hl, h⟩, -, h'⟩
    exact ⟨hl, fun i h₁ h₂ => ⟨h i h₁ h₂, h' i h₁ h₂⟩⟩

/-- Entries read as a sequence when, in the right order, their keys are the numbers from one up and all values read. -/
theorem bind_itemsOf?_eq_some_iff {value : Value → Option Datum} {es : List (Key × Value)}
    (hn : (es.map Prod.fst).Nodup) {d : Datum} :
    (Vm.pairsAs (Vm.scalar? (.int .i64)) value es).bind Vm.itemsOf? = some d ↔
      ∃ ds, d = .list ds ∧ ∃ es', es.Perm es' ∧ es'.map (·.1.position?) = (List.range ds.length).map some ∧
        List.Forall₂ (fun e d => value e.2 = some d) es' ds := by
  simp only [Option.bind_eq_some_iff, pairsAs_eq_some_iff, ← entryAs_numbered_iff]
  have hkeys : ∀ {ps}, List.Forall₂ (EntryAs (Vm.scalar? (.int .i64)) value) es ps →
      (∀ p ∈ ps, ∃ n, p.1 = .int n) ∧ (ps.map Prod.fst).Nodup := by
    intro ps hps
    refine ⟨fun p hp => ?_, nodup_of_entries hps (fun e _ e' _ d hk hk' => ?_) hn⟩
    · obtain ⟨e, -, he⟩ := exists_of_mem_right hps hp
      rw [EntryAs, scalar?_int] at he
      obtain ⟨n, -, h⟩ := Option.bind_eq_some_iff.1 he.1
      exact ⟨n, (Option.some.inj (Option.ite_none_right_eq_some.1 h).2).symm⟩
    · rw [scalar?_int] at hk hk'
      exact decode_toValue_injective (h := .empty) (t := .int .i64) rfl hk hk'
  constructor
  · rintro ⟨ps, hps, hd⟩
    obtain ⟨ds, rfl, hp⟩ := (itemsOf?_eq_some_iff (hkeys hps).1 (hkeys hps).2).1 hd
    have hcomp := congrFun (congrFun (List.forall₂_comp_perm_eq_perm_comp_forall₂
      (r := EntryAs (Vm.scalar? (.int .i64)) value)) es) (numbered ds)
    exact ⟨ds, rfl, hcomp.mp ⟨ps, hps, hp⟩⟩
  · rintro ⟨ds, rfl, es', hp, hes'⟩
    obtain ⟨ps, hps, hp'⟩ := List.perm_comp_forall₂ hp hes'
    exact ⟨ps, hps, (itemsOf?_eq_some_iff (hkeys hps).1 (hkeys hps).2).2 ⟨ds, rfl, hp'⟩⟩

/-- A table in any order reads as a sequence when its keys are the numbers from one up and all its values read. -/
theorem pairsAs_bind_itemsOf? {value : Value → Option Datum} {es : List (Key × Value)} (hes : es.Perm t.toEntries) :
    (Vm.pairsAs (Vm.scalar? (.int .i64)) value es).bind Vm.itemsOf? =
      if t.IsSequence then
        ((List.range t.toEntries.length).mapM fun i => value (t.get (.atPosition i))).map .list
      else none := by
  ext d
  rw [bind_itemsOf?_eq_some_iff ((hes.map _).nodup_iff.2 t.nodup_keys), Option.ite_none_right_eq_some]
  simp only [Option.map_eq_some_iff, mapM_eq_some_iff]
  constructor
  · rintro ⟨ds, rfl, es', hp, hpos, hes'⟩
    have hperm := hp.symm.trans hes
    have hlen : t.toEntries.length = ds.length := hperm.length_eq.symm.trans hes'.length_eq
    refine ⟨?_, ds, ?_, rfl⟩
    · rw [Table.IsSequence, hlen, ← hpos]
      exact hperm.symm.map _
    · rw [Table.eq_places hperm hpos, List.forall₂_map_left_iff] at hes'
      rw [hlen]
      exact hes'
  · rintro ⟨ht, ds, hds, rfl⟩
    have hlen := hds.length_eq
    rw [List.length_range] at hlen
    refine ⟨ds, rfl, _, hes.trans ht.perm, ?_, ?_⟩
    · rw [List.map_map, ← hlen]
      exact List.map_congr_left fun i hi => ht.position?_atPosition (List.mem_range.1 hi)
    · rw [List.forall₂_map_left_iff]
      exact hds

end Sequences

/-! ## Maps -/

/-- Entries read as the same map in any order, if what they read as has distinct keys. -/
theorem pairsAs_map_of_perm {s : Datum → Prop} (hs : Orders Datum.compare s) {key value : Value → Option Datum}
    {es es' : List (Key × Value)} (hes : es.Perm es')
    (hkeys : ∀ ps, Vm.pairsAs key value es' = some ps → (∀ p ∈ ps, s p.1) ∧ (ps.map Prod.fst).Nodup) :
    (Vm.pairsAs key value es).map Datum.mapOfEntries =
      (Vm.pairsAs key value es').map fun pairs => .map (Datum.sortEntries pairs) := by
  cases hps : Vm.pairsAs key value es' with
  | none =>
    cases hqs : Vm.pairsAs key value es with
    | none => rfl
    | some qs =>
      obtain ⟨ps, hps', -⟩ := pairsAs_perm hes.symm hqs
      rw [hps] at hps'
      cases hps'
  | some ps =>
    obtain ⟨qs, hqs, hperm⟩ := pairsAs_perm hes hps
    obtain ⟨ha, hn⟩ := hkeys ps hps
    have ha : ∀ q ∈ qs, s q.1 := fun q hq => ha q (hperm.subset hq)
    have hn := (hperm.map Prod.fst).nodup_iff.2 hn
    rw [hqs, Option.map_some, Option.map_some, Datum.mapOfEntries_eq hs ha hn, Datum.sortEntries_congr hs ha hn hperm]

/-- A table in any order reads as a map with all its entries. -/
theorem pairsAs_map_mapOfEntries {s : Datum → Prop} (hs : Orders Datum.compare s) {key value : Value → Option Datum}
    (hkey : ∀ {k k' : Key} {d : Datum}, key k.toValue = some d → key k'.toValue = some d → k = k')
    (htype : ∀ {k : Key} {d : Datum}, key k.toValue = some d → s d) {t : Table} {es : List (Key × Value)}
    (hes : es.Perm t.toEntries) :
    (Vm.pairsAs key value es).map Datum.mapOfEntries =
      (Vm.pairsAs key value t.toEntries).map fun pairs => .map (Datum.sortEntries pairs) := by
  refine pairsAs_map_of_perm hs hes fun ps hps => ?_
  have hps := pairsAs_eq_some_iff.1 hps
  refine ⟨fun p hp => ?_, nodup_of_entries hps (fun _ _ _ _ _ hk hk' => hkey hk hk') t.nodup_keys⟩
  obtain ⟨e, -, he⟩ := exists_of_mem_right hps hp
  exact htype he.1

/-! ## Reading is decoding -/

theorem hasSimpleKeys_of_isSimpleKey : ∀ {t : Ty}, isSimpleKey t → hasSimpleKeys t
  | .int _, _ | .bool, _ | .str, _ => rfl
  | .opt t, ht => hasSimpleKeys_of_isSimpleKey (t := t) ht

/-- What a value reads as does not depend on the order of its tables. -/
theorem valueAs_eq_decode (h : Heap) (o : Traversal) : ∀ {t : Ty},
    hasSimpleKeys t → ∀ x, Vm.valueAs h o t x = decode h t x
  | .int t, _, x => scalar?_int t x
  | .f32, _, x | .f64, _, x | .bool, _, x | .str, _, x | .nil, _, x => by cases x <;> rfl
  | .unit, _, _ | .tuple _, _, _ => rfl
  | .opt t, ht, x => by
    have ih := valueAs_eq_decode h o (t := t) ht
    cases x <;> first | rfl | exact congrArg (Option.map _) (ih _)
  | .vec t, ht, x => by
    have ih : Vm.valueAs h o t = decode h t := funext (valueAs_eq_decode h o (t := t) ht)
    cases x with
    | table id =>
      rw [Vm.valueAs, Vm.entriesAs, ih]
      exact pairsAs_bind_itemsOf? (o.perm h id)
    | _ => rfl
  | .map k v, ht, x => by
    rw [hasSimpleKeys, Bool.and_eq_true] at ht
    have ihk : Vm.valueAs h o k = decode h k := funext (valueAs_eq_decode h o (hasSimpleKeys_of_isSimpleKey ht.1))
    have ihv : Vm.valueAs h o v = decode h v := funext (valueAs_eq_decode h o ht.2)
    cases x with
    | table id =>
      rw [Vm.valueAs, Vm.entriesAs, ihk, ihv]
      have horders := Datum.compare_orders (isOrdered_of_isSimpleKey ht.1)
      exact pairsAs_map_mapOfEntries horders (decode_toValue_injective ht.1) (decode_hasType ht.1) (o.perm h id)
    | _ => rfl

/-- Reading from the stack is decoding: as long as no request for room is refused, the topmost slot reads as what its
value means, however its tables are traversed, and the stack stays as it was. -/
theorem read_eq_decode (vm : Vm) (x : Value) (hx : vm.topValue? = some x) (t : Ty) (ht : hasSimpleKeys t)
    (hr : (vm.read t).2.refusals = vm.refusals) : vm.read t = (decode vm.heap t x, vm) := by
  rw [Vm.read_eq_valueAs hx t hr, valueAs_eq_decode vm.heap vm.traversal ht]

/-- The order opposite to the one in which tables are laid out. -/
def Traversal.backwards : Traversal := ⟨fun h id => (h.table id).toEntries.reverse, fun _ _ => List.reverse_perm _⟩

/-- An interpreter that traverses tables backwards, with something on its stack. -/
def sampleVm : Vm := { stack := #[.boolean true], traversal := .backwards }

/-- An interpreter with a table of sequences on top. -/
def sampleTableVm : Vm := (sampleVm.push (.map [(.int 7, .list [.int 3, .int 4]), (.int (-2), .list [.int 5])])).2

/-- A table of sequences reads as the map that it is. -/
theorem read_sampleTableVm :
    sampleTableVm.read (.map (.int .i64) (.vec (.int .u8))) =
      (some (.map [(.int (-2), .list [.int 5]), (.int 7, .list [.int 3, .int 4])]), sampleTableVm) :=
  read_eq_decode sampleTableVm (.table 1) rfl (.map (.int .i64) (.vec (.int .u8))) rfl (by decide)

end PluginHost.Lua
