import PluginHost.Script.LuaExchange

/-!
# Data in the heap

`Represents lo h d x` says that the value `x` stands for the datum `d` in the heap `h`, all tables of which it is made
being numbered from `lo` on. A heap that grows keeps what is represented in it (`Represents.mono`).
-/

namespace PluginHost.Lua

/-! ## Growing heaps -/

namespace Heap

variable {p q : Nat → Prop} {h h' h'' : Heap} {id i : Nat}

/-- A heap grows, its tables with a property staying as they are: there may be more tables, and nothing else changes. -/
structure Grows (p : Nat → Prop) (h h' : Heap) : Prop where
  size : h.tables.size ≤ h'.tables.size
  kept : ∀ i, p i → i < h.tables.size → h'.table i = h.table i
  others : h' = { h with tables := h'.tables }

theorem Grows.refl (p : Nat → Prop) (h : Heap) : h.Grows p h := ⟨Nat.le_refl _, fun _ _ _ => rfl, rfl⟩

theorem Grows.trans (h₁ : h.Grows p h') (h₂ : h'.Grows q h'') (hpq : ∀ i, i < h.tables.size → p i → q i) :
    h.Grows p h'' := by
  refine ⟨Nat.le_trans h₁.size h₂.size, fun i hp hi => ?_, ?_⟩
  · exact (h₂.kept i (hpq i hi hp) (Nat.lt_of_lt_of_le hi h₁.size)).trans (h₁.kept i hp hi)
  · rw [h₂.others, h₁.others]

theorem Grows.mono (h₁ : h.Grows p h') (hq : ∀ i, i < h.tables.size → q i → p i) : h.Grows q h' :=
  ⟨h₁.size, fun i hi hlt => h₁.kept i (hq i hlt hi) hlt, h₁.others⟩

@[simp] theorem size_modifyTable (h : Heap) (id : Nat) (f : Table → Table) :
    (h.modifyTable id f).tables.size = h.tables.size := by
  simp [modifyTable]

theorem table_modifyTable_self (hid : id < h.tables.size) (f : Table → Table) :
    (h.modifyTable id f).table id = f (h.table id) := by
  simp [modifyTable, table, hid, Array.getElem_modify]

theorem grows_modifyTable (h : Heap) (id : Nat) (f : Table → Table) : h.Grows (· ≠ id) (h.modifyTable id f) := by
  refine ⟨by simp, fun i hi hlt => ?_, rfl⟩
  simp [modifyTable, table, Array.getElem?_modify, Ne.symm hi]

theorem table_addTable_self (h : Heap) (t : Table) : (h.addTable t).2.table (h.addTable t).1 = t := by
  simp [addTable, table]

theorem grows_addTable (h : Heap) (t : Table) (p : Nat → Prop) : h.Grows p (h.addTable t).2 := by
  refine ⟨by simp [addTable], fun i _ hlt => ?_, rfl⟩
  simp [addTable, table, Array.getElem?_push, Nat.ne_of_lt hlt]

end Heap

/-! ## Representation -/

/-- What a table has after entries were put into it, one after the other. -/
def lastOf (ps : List (Key × Value)) (old : Key → Value) (k : Key) : Value := (ps.reverse.lookup k).getD (old k)

/-- The entries of a sequence from a place on. -/
def itemPairs (i : Nat) (xs : List Value) : List (Key × Value) := (xs.zipIdx i).map fun (x, j) => (.atPosition j, x)

/-- The entry of a value under a key, if there is one. -/
def entryOf (x v : Value) : List (Key × Value) := (Key.ofValue? x).toList.map fun k => (k, v)

/-- A bound from which on tables are numbered after a value. -/
def Value.bound (lo : Nat) : Value → Nat
  | .table id => max lo (id + 1)
  | _ => lo

mutual

/-- Whether a value stands for a datum, as a table that is not numbered below `lo` if it is one. -/
def Represents (lo : Nat) (h : Heap) : Datum → Value → Prop
  | .int n, x => (-2 ^ 63 ≤ n ∧ n < 2 ^ 63) ∧ x = .integer (.ofInt n)
  | .f32 y, x => x = .number (Single.toDouble y)
  | .f64 y, x => x = .number y
  | .bool b, x => x = .boolean b
  | .str s, x => x = .text s.toUTF8
  | .unit, x | .none, x => x = .nil
  | .some d, x => Represents lo h d x
  | .list ds, x => ∃ id xs, x = .table id ∧ lo ≤ id ∧ id < h.tables.size ∧ RepresentsItems (id + 1) h ds xs ∧
      ∀ k, (h.table id).get k = lastOf (itemPairs 0 xs) (fun _ => .nil) k
  | .map es, x => ∃ id ps, x = .table id ∧ lo ≤ id ∧ id < h.tables.size ∧ RepresentsEntries (id + 1) h es ps ∧
      ∀ k, (h.table id).get k = lastOf ps (fun _ => .nil) k
termination_by structural x => x

/-- Whether values stand for the items of a sequence. -/
def RepresentsItems (lo : Nat) (h : Heap) : List Datum → List Value → Prop
  | [], xs => xs = []
  | d :: ds, xs => ∃ x xs', xs = x :: xs' ∧ Represents lo h d x ∧ RepresentsItems lo h ds xs'
termination_by structural x => x

/-- Whether entries of a table stand for those of a map. A key that is a table is numbered above those before it, and a
value that cannot be a key has no entry. -/
def RepresentsEntries (lo : Nat) (h : Heap) : List (Datum × Datum) → List (Key × Value) → Prop
  | [], ps => ps = []
  | (dk, dv) :: es, ps => ∃ x v ps', ps = entryOf x v ++ ps' ∧ Represents lo h dk x ∧ Represents lo h dv v ∧
      RepresentsEntries (x.bound lo) h es ps'
termination_by structural x => x

end

variable {lo lo' : Nat} {h h' : Heap}

theorem Value.le_bound (lo : Nat) (x : Value) : lo ≤ x.bound lo := by
  cases x <;> simp only [bound] <;> omega

theorem Value.bound_mono (hlo : lo' ≤ lo) (x : Value) : x.bound lo' ≤ x.bound lo := by
  cases x <;> simp only [bound] <;> omega

/-- Whether the tables from a number on are the same in a larger heap. -/
def Heap.Keeps (h h' : Heap) (lo : Nat) : Prop :=
  h.tables.size ≤ h'.tables.size ∧ ∀ i, lo ≤ i → i < h.tables.size → h'.table i = h.table i

theorem Heap.Keeps.refl (h : Heap) (lo : Nat) : h.Keeps h lo := ⟨Nat.le_refl _, fun _ _ _ => rfl⟩

theorem Heap.Keeps.mono (hk : h.Keeps h' lo') (hlo : lo' ≤ lo) : h.Keeps h' lo :=
  ⟨hk.1, fun i hi => hk.2 i (Nat.le_trans hlo hi)⟩

mutual

/-- A representation stays one as long as the tables that it is made of do. -/
theorem Represents.mono : ∀ {d : Datum} {x : Value} {lo lo' : Nat}, Represents lo h d x → lo' ≤ lo → h.Keeps h' lo →
    Represents lo' h' d x
  | .int _, _, _, _, hr, _, _ | .f32 _, _, _, _, hr, _, _ | .f64 _, _, _, _, hr, _, _ | .bool _, _, _, _, hr, _, _
  | .str _, _, _, _, hr, _, _ | .unit, _, _, _, hr, _, _ | .none, _, _, _, hr, _, _ => hr
  | .some d, _, _, _, hr, hlo, hk => Represents.mono (d := d) hr hlo hk
  | .list ds, _, _, _, hr, hlo, hk => by
    obtain ⟨id, xs, rfl, hid, hlt, hxs, hget⟩ := hr
    refine ⟨id, xs, rfl, Nat.le_trans hlo hid, Nat.lt_of_lt_of_le hlt hk.1, ?_, ?_⟩
    · exact RepresentsItems.mono hxs (Nat.le_refl _) (hk.mono (Nat.le_succ_of_le hid))
    · rw [hk.2 id hid hlt]
      exact hget
  | .map es, _, _, _, hr, hlo, hk => by
    obtain ⟨id, ps, rfl, hid, hlt, hps, hget⟩ := hr
    refine ⟨id, ps, rfl, Nat.le_trans hlo hid, Nat.lt_of_lt_of_le hlt hk.1, ?_, ?_⟩
    · exact RepresentsEntries.mono hps (Nat.le_refl _) (hk.mono (Nat.le_succ_of_le hid))
    · rw [hk.2 id hid hlt]
      exact hget

theorem RepresentsItems.mono : ∀ {ds : List Datum} {xs : List Value} {lo lo' : Nat}, RepresentsItems lo h ds xs →
    lo' ≤ lo → h.Keeps h' lo → RepresentsItems lo' h' ds xs
  | [], _, _, _, hr, _, _ => hr
  | d :: ds, _, _, _, hr, hlo, hk => by
    obtain ⟨x, xs, rfl, hd, hds⟩ := hr
    exact ⟨x, xs, rfl, Represents.mono (d := d) hd hlo hk, RepresentsItems.mono hds hlo hk⟩

theorem RepresentsEntries.mono : ∀ {es : List (Datum × Datum)} {ps : List (Key × Value)} {lo lo' : Nat},
    RepresentsEntries lo h es ps → lo' ≤ lo → h.Keeps h' lo → RepresentsEntries lo' h' es ps
  | [], _, _, _, hr, _, _ => hr
  | (dk, dv) :: es, _, lo, _, hr, hlo, hk => by
    obtain ⟨x, v, ps, rfl, hx, hv, hps⟩ := hr
    exact ⟨x, v, ps, rfl, Represents.mono (d := dk) hx hlo hk, Represents.mono (d := dv) hv hlo hk,
      RepresentsEntries.mono hps (Value.bound_mono hlo x) (hk.mono (Value.le_bound lo x))⟩

end

theorem length_of_representsItems {ds : List Datum} {xs : List Value} (hr : RepresentsItems lo h ds xs) :
    xs.length = ds.length := by
  induction ds generalizing xs with
  | nil => exact congrArg List.length hr
  | cons d ds ih =>
    obtain ⟨x, xs, rfl, -, hxs⟩ := hr
    rw [List.length_cons, List.length_cons, ih hxs]

/-- A table that stands for a datum is one of the heap. -/
theorem Represents.table_lt {id : Nat} : ∀ {d : Datum}, Represents lo h d (.table id) → lo ≤ id ∧ id < h.tables.size
  | .int _, hr => by cases hr.2
  | .f32 _, hr | .f64 _, hr | .bool _, hr | .str _, hr | .unit, hr | .none, hr => by cases hr
  | .some d, hr => Represents.table_lt (d := d) hr
  | .list _, ⟨_, _, hx, hid, hlt, _⟩ | .map _, ⟨_, _, hx, hid, hlt, _⟩ => by
    cases hx
    exact ⟨hid, hlt⟩

/-- What comes after a value in a heap that has grown is numbered above it. -/
theorem Represents.bound_le {d : Datum} {x : Value} {size : Nat} (hr : Represents lo h d x)
    (hsize : h.tables.size ≤ size) (hlo : lo ≤ size) : x.bound lo ≤ size := by
  cases x with
  | table id =>
    have := hr.table_lt.2
    simp only [Value.bound]
    omega
  | _ => exact hlo

end PluginHost.Lua
