import PluginHost.Proofs.Data.Overwriting
import PluginHost.Proofs.Python.Keys
import PluginHost.Proofs.Python.Sessions

/-!
# What Python values are read as

`Denotes` says which datum of a type a value is. Each type takes values of its own Python type only, and all that a value
holds has to be data of the types inside: one item that is not, at any depth, and the whole is no datum. Reading a value
gives the datum that it is, if it is one, and leaves all objects as they are (`Session.read_denotes`).

A dictionary is read into a map, entry by entry. Objects tell Python themselves whether they are the same as keys, and what
they are read as may be the same although they are not. Of such entries the last one is left (`Datum.Filled`).
-/

namespace PluginHost

mutual

/-- The types that values can be read as. The keys of a map have an order. -/
def Ty.isReadable : Ty → Bool
  | .int _ | .f32 | .f64 | .bool | .str => true
  | .nil | .unit => false
  | .opt t | .vec t => t.isReadable
  | .map k v => k.isReadable && k.isOrdered && v.isReadable
  | .tuple ts => areReadable ts
termination_by structural x => x

def Ty.areReadable : List Ty → Bool
  | [] => true
  | t :: ts => t.isReadable && areReadable ts
termination_by structural x => x

end

namespace Python

/-- A value is a plain one, or an instance of a class that inherits from the type of that one. -/
def IsPlain (h : Heap) (v plain : Value) : Prop :=
  v = plain ∨ ∃ id, v = .ref id ∧ (h.getD id default).data = .payload plain

/-- A value is a tuple or a list of items. -/
def IsSequence (h : Heap) (v : Value) (items : List Value) : Prop :=
  IsPlain h v (.tuple items) ∨
    ∃ id array, IsPlain h v (.ref id) ∧ (h.getD id default).data = .list array ∧ items = array.toList

/-- A value is a dictionary of entries, in the order in which they were put in. -/
def IsDict (h : Heap) (v : Value) (entries : List (Value × Value)) : Prop :=
  ∃ id, v = .ref id ∧ (h.getD id default).data = .dict entries

mutual

/-- A value is a datum of a type. -/
def Denotes (h : Heap) : Ty → Value → Datum → Prop
  | .int t, v, d => ∃ n, IsPlain h v (.int n) ∧ t.holds n ∧ d = .int n
  | .f32, v, d => ∃ x, IsPlain h v (.float x) ∧ d = .f32 (Single.ofDouble x)
  | .f64, v, d => ∃ x, IsPlain h v (.float x) ∧ d = .f64 x
  | .bool, v, d => ∃ b, v = .bool b ∧ d = .bool b
  | .str, v, d => ∃ s, IsPlain h v (.str (Text.ofString s)) ∧ d = .str s
  | .nil, _, _ | .unit, _, _ => False
  | .opt t, v, d => v = .none ∧ d = .none ∨ v ≠ .none ∧ ∃ e, Denotes h t v e ∧ d = .some e
  | .vec t, v, d => ∃ vs ds, IsSequence h v vs ∧ List.Forall₂ (Denotes h t) vs ds ∧ d = .list ds
  | .tuple ts, v, d => ∃ vs ds, IsPlain h v (.tuple vs) ∧ DenoteEach h ts vs ds ∧ d = .list ds
  | .map k w, v, d => ∃ es ps m, IsDict h v es ∧
      List.Forall₂ (fun e p => Denotes h k e.1 p.1 ∧ Denotes h w e.2 p.2) es ps ∧ Datum.Filled ps m ∧ d = .map m
termination_by structural t => t

/-- Values are data of a type each. -/
def DenoteEach (h : Heap) : List Ty → List Value → List Datum → Prop
  | [], vs, ds => vs = [] ∧ ds = []
  | t :: ts, vs, ds => ∃ v vs' d ds', vs = v :: vs' ∧ ds = d :: ds' ∧ Denotes h t v d ∧ DenoteEach h ts vs' ds'
termination_by structural ts => ts

end

variable {h : Heap} {v : Value}

/-! ## Values -/

/-- What `plainOf` gives, for values that have no plain value behind them. -/
theorem plainOf_eq_iff {p : Value} (hp : ∀ id q, p = .ref id → (h.getD id default).data ≠ .payload q) :
    plainOf h v = p ↔ IsPlain h v p := by
  unfold plainOf
  split
  · next id =>
    split
    · next q hq =>
      constructor
      · rintro rfl
        exact .inr ⟨id, rfl, hq⟩
      · rintro (heq | ⟨_, ⟨rfl⟩, hq'⟩)
        · exact absurd hq (hp id q heq.symm)
        · exact Data.payload.inj (hq.symm.trans hq')
    · next hno =>
      constructor
      · exact .inl
      · rintro (heq | ⟨_, ⟨rfl⟩, hq⟩)
        · exact heq
        · exact absurd hq (hno p)
  · next hno =>
    constructor
    · exact .inl
    · rintro (heq | ⟨id, rfl, -⟩)
      · exact heq
      · exact absurd rfl (hno id)

theorem tuple?_eq_some_iff {items : List Value} : tuple? h v = some items ↔ IsPlain h v (.tuple items) := by
  rw [← plainOf_eq_iff (p := .tuple items) nofun, tuple?]
  cases plainOf h v <;> simp

theorem sequence?_eq_some_iff {items : List Value} : sequence? h v = some items ↔ IsSequence h v items := by
  have hlist : (∃ id array, IsPlain h v (.ref id) ∧ (h.getD id default).data = .list array ∧ items = array.toList) ↔
      ∃ id array, plainOf h v = .ref id ∧ (h.getD id default).data = .list array ∧ items = array.toList := by
    refine exists_congr fun id => exists_congr fun array => and_congr_left fun ⟨hid, _⟩ => (plainOf_eq_iff ?_).symm
    rintro _ q ⟨rfl⟩ hq
    cases hid.symm.trans hq
  rw [IsSequence, hlist, ← plainOf_eq_iff (p := .tuple items) nofun, sequence?]
  cases plainOf h v with
  | ref id =>
    dsimp only
    split
    · next array hid =>
      constructor
      · rintro ⟨rfl⟩
        exact .inr ⟨id, array, rfl, hid, rfl⟩
      · rintro (heq | ⟨_, _, ⟨rfl⟩, hid', rfl⟩)
        · cases heq
        · rw [Data.list.inj (hid.symm.trans hid')]
    · next hno =>
      refine iff_of_false nofun ?_
      rintro (heq | ⟨_, array, ⟨rfl⟩, hid, -⟩)
      · cases heq
      · exact hno array hid
  | _ => simp

theorem mapping?_eq_some_iff {entries : List (Value × Value)} : mapping? h v = some entries ↔ IsDict h v entries := by
  unfold mapping?
  split
  · next id =>
    split
    · next es hid =>
      constructor
      · rintro ⟨rfl⟩
        exact ⟨id, rfl, hid⟩
      · rintro ⟨_, ⟨rfl⟩, hid'⟩
        rw [Data.dict.inj (hid.symm.trans hid')]
    · next hno =>
      refine iff_of_false nofun ?_
      rintro ⟨_, ⟨rfl⟩, hid⟩
      exact hno entries hid
  · next hno =>
    refine iff_of_false nofun ?_
    rintro ⟨id, rfl, -⟩
    exact hno id rfl

/-- The texts that can be read are those of strings. -/
theorem string?_eq_some_iff {t : Text} {s : String} : t.string? = some s ↔ t = Text.ofString s := by
  constructor
  · intro ht
    obtain ⟨hvalid, hs⟩ := Option.ite_none_right_eq_some.1 ht
    obtain rfl := Option.some.inj hs
    have hpoint : ∀ n ∈ t, (if n.isValidChar then Char.ofNat n else '\uFFFD').toNat = n := by
      intro n hn
      have hn : n.isValidChar := by simpa using List.all_eq_true.1 hvalid n hn
      rw [if_pos hn, Char.ofNat, dif_pos hn]
      rfl
    rw [Text.ofString, Text.string, String.toList_ofList, List.map_map]
    exact (List.map_id t).symm.trans (List.map_congr_left fun n hn => (hpoint n hn).symm)
  · rintro rfl
    exact string?_ofString s

/-! ## Reading -/

/-- The entries of a dictionary that are read one by one. -/
theorem traverse_entries_eq_some_iff {key value : Value → Option Datum} {es : List (Value × Value)}
    {ps : List (Datum × Datum)} :
    Draft.traverse (fun e => match key e.1, value e.2 with
      | some a, some b => some (a, b)
      | _, _ => none) es = some ps ↔
    List.Forall₂ (fun e p => key e.1 = some p.1 ∧ value e.2 = some p.2) es ps := by
  rw [traverse_eq_some_iff]
  refine Iff.of_eq (congrArg (List.Forall₂ · es ps) (funext fun e => funext fun p => propext ?_))
  cases key e.1 <;> cases value e.2 <;> simp [Prod.ext_iff]

mutual

/-- What a value is as a type is of that type. -/
theorem Denotes.hasType : ∀ {t : Ty} {v : Value} {d : Datum}, Denotes h t v d → d.hasType t
  | .int t, v, d, hd => by
    obtain ⟨n, -, hn, rfl⟩ := hd
    exact hn
  | .f32, v, d, hd | .f64, v, d, hd => by
    obtain ⟨x, -, rfl⟩ := hd
    rfl
  | .bool, v, d, hd => by
    obtain ⟨b, -, rfl⟩ := hd
    rfl
  | .str, v, d, hd => by
    obtain ⟨s, -, rfl⟩ := hd
    rfl
  | .opt t, v, d, hd => by
    rcases hd with ⟨-, rfl⟩ | ⟨-, e, he, rfl⟩
    · rfl
    · exact Denotes.hasType (t := t) he
  | .vec t, v, d, hd => by
    obtain ⟨vs, ds, -, hds, rfl⟩ := hd
    refine Datum.hasType_vec_iff.2 ⟨ds, rfl, fun e he => ?_⟩
    obtain ⟨w, -, hw⟩ := exists_of_mem_right hds he
    exact Denotes.hasType (t := t) hw
  | .tuple ts, v, d, hd => by
    obtain ⟨vs, ds, -, hds, rfl⟩ := hd
    exact Datum.hasType_tuple_iff.2 ⟨ds, rfl, DenoteEach.haveTypes hds⟩
  | .map k w, v, d, hd => by
    obtain ⟨es, ps, m, -, hps, hm, rfl⟩ := hd
    refine Datum.hasType_map_iff.2 ⟨m, rfl, fun p hp => ?_⟩
    obtain ⟨before, after, rfl, -⟩ := (hm.mem_iff p).1 hp
    obtain ⟨e, -, hkey, hvalue⟩ := exists_of_mem_right hps (List.mem_append_right before List.mem_cons_self)
    exact ⟨Denotes.hasType hkey, Denotes.hasType hvalue⟩

theorem DenoteEach.haveTypes : ∀ {ts : List Ty} {vs : List Value} {ds : List Datum}, DenoteEach h ts vs ds →
    Datum.haveTypes ds ts
  | [], vs, ds, hd => by
    obtain ⟨-, rfl⟩ := hd
    rfl
  | t :: ts, vs, ds, hd => by
    obtain ⟨v, vs', d, ds', rfl, rfl, hd, hds⟩ := hd
    rw [Datum.haveTypes, Denotes.hasType hd, DenoteEach.haveTypes hds]
    rfl

end

mutual

/-- What a value is read as is the datum that it is. -/
theorem decode_eq_some_iff : ∀ {t : Ty} {v : Value} {d : Datum}, t.isReadable →
    (decode h t v = some d ↔ Denotes h t v d)
  | .int t, v, d, _ => by
    have hplain : ∀ {n}, IsPlain h v (.int n) ↔ plainOf h v = .int n := fun {n} =>
      (plainOf_eq_iff (p := .int n) nofun).symm
    simp only [Denotes, hplain]
    rw [decode]
    cases plainOf h v with
    | int n =>
      refine Option.ite_none_right_eq_some.trans ⟨?_, ?_⟩
      · rintro ⟨hn, ⟨rfl⟩⟩
        exact ⟨n, rfl, hn, rfl⟩
      · rintro ⟨_, ⟨rfl⟩, hn, rfl⟩
        exact ⟨hn, rfl⟩
    | _ => simp
  | .f32, v, d, _ | .f64, v, d, _ => by
    have hplain : ∀ {x}, IsPlain h v (.float x) ↔ plainOf h v = .float x := fun {x} =>
      (plainOf_eq_iff (p := .float x) nofun).symm
    simp only [Denotes, hplain]
    rw [decode]
    cases plainOf h v <;> simp [eq_comm]
  | .bool, v, d, _ => by
    cases v <;> simp [decode, Denotes, eq_comm]
  | .str, v, d, _ => by
    have hplain : ∀ {t}, IsPlain h v (.str t) ↔ plainOf h v = .str t := fun {t} =>
      (plainOf_eq_iff (p := .str t) nofun).symm
    simp only [Denotes, hplain]
    rw [decode]
    cases plainOf h v with
    | str t =>
      refine Option.map_eq_some_iff.trans ⟨?_, ?_⟩
      · rintro ⟨s, hs, rfl⟩
        exact ⟨s, congrArg Value.str (string?_eq_some_iff.1 hs), rfl⟩
      · rintro ⟨s, ⟨rfl⟩, rfl⟩
        exact ⟨s, string?_ofString s, rfl⟩
    | _ => simp
  | .opt t, v, d, ht => by
    simp only [Denotes, ← decode_eq_some_iff (t := t) ht]
    cases v <;> simp [decode, eq_comm]
  | .vec t, v, d, ht => by
    have ih : (fun v d => decode h t v = some d) = Denotes h t :=
      funext fun v => funext fun d => propext (decode_eq_some_iff ht)
    rw [Denotes, decode]
    simp only [← sequence?_eq_some_iff, ← ih, ← traverse_eq_some_iff]
    cases sequence? h v <;> simp [eq_comm]
  | .tuple ts, v, d, ht => by
    have ih : ∀ {vs ds}, decodeEach h ts vs = some ds ↔ DenoteEach h ts vs ds := decodeEach_eq_some_iff ht
    rw [Denotes, decode]
    simp only [← tuple?_eq_some_iff, ← ih]
    cases tuple? h v <;> simp [eq_comm]
  | .map k w, v, d, ht => by
    simp only [Ty.isReadable, Bool.and_eq_true] at ht
    have horders := Datum.compare_orders ht.1.2
    have ih : (fun (e : Value × Value) (p : Datum × Datum) => decode h k e.1 = some p.1 ∧ decode h w e.2 = some p.2) =
        fun e p => Denotes h k e.1 p.1 ∧ Denotes h w e.2 p.2 :=
      funext fun e => funext fun p => propext (and_congr (decode_eq_some_iff ht.1.1) (decode_eq_some_iff ht.2))
    have hfilled : ∀ {es : List (Value × Value)} {ps m : List (Datum × Datum)},
        List.Forall₂ (fun e p => Denotes h k e.1 p.1 ∧ Denotes h w e.2 p.2) es ps →
        (Datum.Filled ps m ↔ m = Datum.overwritten ps) := by
      intro es ps m hps
      refine Datum.filled_iff horders fun p hp => ?_
      obtain ⟨e, -, hkey, -⟩ := exists_of_mem_right hps hp
      exact Denotes.hasType hkey
    rw [Denotes, decode]
    cases hv : mapping? h v with
    | none =>
      refine iff_of_false nofun ?_
      rintro ⟨es, ps, m, hes, -⟩
      cases hv.symm.trans (mapping?_eq_some_iff.2 hes)
    | some es =>
      dsimp only
      rw [Option.map_eq_some_iff]
      constructor
      · rintro ⟨ps, hps, rfl⟩
        have hps := ih ▸ traverse_entries_eq_some_iff.1 hps
        exact ⟨es, ps, _, mapping?_eq_some_iff.1 hv, hps, (hfilled hps).2 rfl, rfl⟩
      · rintro ⟨es', ps, m, hes, hps, hm, rfl⟩
        obtain rfl := Option.some.inj (hv.symm.trans (mapping?_eq_some_iff.2 hes))
        obtain rfl := (hfilled hps).1 hm
        exact ⟨ps, traverse_entries_eq_some_iff.2 (ih ▸ hps), rfl⟩

theorem decodeEach_eq_some_iff : ∀ {ts : List Ty} {vs : List Value} {ds : List Datum}, Ty.areReadable ts →
    (decodeEach h ts vs = some ds ↔ DenoteEach h ts vs ds)
  | [], vs, ds, _ => by
    cases vs <;> simp [decodeEach, DenoteEach, eq_comm]
  | t :: ts, vs, ds, ht => by
    simp only [Ty.areReadable, Bool.and_eq_true] at ht
    have ih : ∀ {vs ds}, decodeEach h ts vs = some ds ↔ DenoteEach h ts vs ds := decodeEach_eq_some_iff ht.2
    rw [DenoteEach]
    simp only [← decode_eq_some_iff (t := t) ht.1, ← ih]
    cases vs with
    | nil => simp [decodeEach]
    | cons v vs =>
      rw [decodeEach]
      split
      · next d ds' hd hds =>
        constructor
        · rintro ⟨rfl⟩
          exact ⟨v, vs, d, ds', rfl, rfl, hd, hds⟩
        · rintro ⟨_, _, d', ds'', ⟨rfl, rfl⟩, rfl, hd', hds'⟩
          rw [Option.some.inj (hd.symm.trans hd'), Option.some.inj (hds.symm.trans hds')]
      · next hno =>
        refine iff_of_false nofun ?_
        rintro ⟨_, _, d', ds'', ⟨rfl, rfl⟩, rfl, hd', hds'⟩
        exact hno d' ds'' hd' hds'

end

/-- A value is at most one datum of a type. -/
theorem Denotes.unique {t : Ty} {d d' : Datum} (ht : t.isReadable) (hd : Denotes h t v d) (hd' : Denotes h t v d') :
    d = d' :=
  Option.some.inj (((decode_eq_some_iff ht).2 hd).symm.trans ((decode_eq_some_iff ht).2 hd'))

/-- Reading a value gives the datum that it is, and nothing if it is none. All objects stay as they are. -/
theorem Session.read_denotes (s : Session) {t : Ty} (ht : t.isReadable) (v : Value) :
    ∃ r s', Session.read s.interp.heap t v s = (r, s') ∧ (∀ d, r = some d ↔ Denotes s.interp.heap t v d) ∧
      s'.interp = s.interp ∧ (s.pending = none → s' = s) := by
  have hdenotes : ∀ d, decode s.interp.heap t v = some d ↔ Denotes s.interp.heap t v d := fun _ => decode_eq_some_iff ht
  rcases Session.read_gives s.interp.heap t v s with hread | ⟨hnone, hread⟩
  · exact ⟨_, _, hread, hdenotes, rfl, fun _ => rfl⟩
  · rw [hnone] at hdenotes
    refine ⟨_, _, hread, hdenotes, rfl, fun hs => ?_⟩
    rw [← hs]

/-- A session with a class of lists that are different as keys, two such lists of the same item, and a dictionary that has
both as keys. -/
def sampleLists : Session :=
  let i : Interp := .start ⟨[], []⟩
  let n := i.heap.size
  { interp := { i with heap := i.heap ++ #[
      { cls := BaseType.type.id
        attrs := [("__hash__", .native ⟨"builtins", "id"⟩)]
        data := .cls ⟨"L", "L", "__main__", [BaseType.list.id], [n, BaseType.list.id, BaseType.object.id], true⟩ },
      { cls := n, data := .list #[.int 1] },
      { cls := n, data := .list #[.int 1] },
      { cls := BaseType.dict.id, data := .dict [(.ref (n + 1), .int 5), (.ref (n + 2), .int 6)] }] } }

/-- An object of that session, counted from the class. -/
def sampleLists.number (k : Nat) : Nat := (Interp.start ⟨[], []⟩).heap.size + k

theorem data_sampleLists :
    (sampleLists.interp.heap.getD (sampleLists.number 1) default).data = .list #[.int 1] ∧
    (sampleLists.interp.heap.getD (sampleLists.number 2) default).data = .list #[.int 1] ∧
    (sampleLists.interp.heap.getD (sampleLists.number 3) default).data =
      .dict [(.ref (sampleLists.number 1), .int 5), (.ref (sampleLists.number 2), .int 6)] := by
  simp only [sampleLists, sampleLists.number]
  generalize Interp.start _ = i
  simp

/-- Both lists are the same sequence. -/
theorem denotes_sampleLists :
    Denotes sampleLists.interp.heap (.vec (.int .i64)) (.ref (sampleLists.number 1)) (.list [.int 1]) ∧
    Denotes sampleLists.interp.heap (.vec (.int .i64)) (.ref (sampleLists.number 2)) (.list [.int 1]) := by
  have hitems : List.Forall₂ (Denotes sampleLists.interp.heap (.int .i64)) [.int 1] [.int 1] :=
    .cons ⟨1, .inl rfl, rfl, rfl⟩ .nil
  exact ⟨⟨_, _, .inr ⟨_, _, .inl rfl, data_sampleLists.1, rfl⟩, hitems, rfl⟩,
    ⟨_, _, .inr ⟨_, _, .inl rfl, data_sampleLists.2.1, rfl⟩, hitems, rfl⟩⟩

/-- A tuple reads as data of its items, and as nothing if one item is of another type: what is true is no number. -/
theorem Session.read_denotes_sampleLists :
    Session.read sampleLists.interp.heap (.tuple [.bool, .vec (.int .i64)])
      (.tuple [.bool true, .ref (sampleLists.number 1)]) sampleLists =
      (some (.list [.bool true, .list [.int 1]]), sampleLists) ∧
    Session.read sampleLists.interp.heap (.tuple [.int .i64, .vec (.int .i64)])
      (.tuple [.bool true, .ref (sampleLists.number 1)]) sampleLists = (none, sampleLists) := by
  constructor
  · obtain ⟨r, s', hread, hr, -, hs⟩ := Session.read_denotes sampleLists (t := .tuple [.bool, .vec (.int .i64)]) rfl
      (.tuple [.bool true, .ref (sampleLists.number 1)])
    have hdenotes : Denotes sampleLists.interp.heap (.tuple [.bool, .vec (.int .i64)])
        (.tuple [.bool true, .ref (sampleLists.number 1)]) (.list [.bool true, .list [.int 1]]) := by
      refine ⟨_, _, .inl rfl, ⟨_, _, _, _, rfl, rfl, ?_, _, _, _, _, rfl, rfl, denotes_sampleLists.1, rfl, rfl⟩, rfl⟩
      exact ⟨true, rfl, rfl⟩
    rw [hread, (hr _).2 hdenotes, hs rfl]
  · obtain ⟨r, s', hread, hr, -, hs⟩ := Session.read_denotes sampleLists (t := .tuple [.int .i64, .vec (.int .i64)])
      rfl (.tuple [.bool true, .ref (sampleLists.number 1)])
    have hnone : r = none := by
      refine Option.eq_none_iff_forall_ne_some.2 fun d hd => ?_
      obtain ⟨vs, ds, hvs, ⟨v, _, _, _, rfl, -, ⟨n, hn, -⟩, -⟩, -⟩ := (hr d).1 hd
      rcases hvs with heq | ⟨_, heq, -⟩
      · obtain rfl := (List.cons.inj (Value.tuple.inj heq)).1
        rcases hn with heq | ⟨_, heq, -⟩ <;> cases heq
      · cases heq
    rw [hread, hnone, hs rfl]

/-- Of two entries of a dictionary one is lost, as their keys are read as the same. -/
theorem Session.read_sampleLists :
    IsDict sampleLists.interp.heap (.ref (sampleLists.number 3))
      [(.ref (sampleLists.number 1), .int 5), (.ref (sampleLists.number 2), .int 6)] ∧
    Session.read sampleLists.interp.heap (.map (.vec (.int .i64)) (.int .i64)) (.ref (sampleLists.number 3)) sampleLists =
      (some (.map [(.list [.int 1], .int 6)]), sampleLists) := by
  have hdict : IsDict sampleLists.interp.heap (.ref (sampleLists.number 3))
      [(.ref (sampleLists.number 1), .int 5), (.ref (sampleLists.number 2), .int 6)] := ⟨_, rfl, data_sampleLists.2.2⟩
  have hfilled : Datum.Filled [(.list [.int 1], .int 5), (.list [.int 1], .int 6)] [(.list [.int 1], .int 6)] := by
    refine (Datum.filled_iff (Datum.compare_orders (t := .vec (.int .i64)) rfl) ?_).2 rfl
    decide
  have hdenotes : Denotes sampleLists.interp.heap (.map (.vec (.int .i64)) (.int .i64)) (.ref (sampleLists.number 3))
      (.map [(.list [.int 1], .int 6)]) := by
    refine ⟨_, _, _, hdict, .cons ⟨denotes_sampleLists.1, ?_⟩ (.cons ⟨denotes_sampleLists.2, ?_⟩ .nil), hfilled, rfl⟩
    · exact ⟨5, .inl rfl, rfl, rfl⟩
    · exact ⟨6, .inl rfl, rfl, rfl⟩
  refine ⟨hdict, ?_⟩
  rw [(Session.read_gives _ _ _).run rfl, (decode_eq_some_iff rfl).2 hdenotes]

end Python

end PluginHost
