import PluginHost.Proofs.Data.Values
import Mathlib.Data.List.DropRight

/-!
# Absent parts

A datum may have parts that are nothing: absent optional values, at any depth. A table cannot hold them, so what it
keeps of a datum is `Datum.kept`, which has lost the absent items at the end of each sequence and the absent values of
each map. What has no absent part at all (`Datum.isDense`) is kept as it is (`kept_of_isDense`).
-/

namespace PluginHost

/-- The types whose data are one slot and read back from one: all without tuples. The keys of maps are in order. -/
def Ty.isPushable : Ty → Bool
  | .int _ | .f32 | .f64 | .bool | .str | .nil => true
  | .opt t | .vec t => t.isPushable
  | .map k v => k.isPushable && k.isOrdered && v.isPushable
  | .unit | .tuple _ => false

namespace Datum

/-- Whether a datum is nothing: an absent value, or one that is there and is nothing itself. -/
def isAbsent : Datum → Bool
  | .none | .unit => true
  | .some d => d.isAbsent
  | _ => false

mutual

/-- What tables keep of a datum. -/
def kept : Datum → Datum
  | .some d => if d.isAbsent then .none else .some d.kept
  | .list ds => .list ((keptItems ds).rdropWhile isAbsent)
  | .map es => .map ((keptParts es).filter fun e => !e.2.isAbsent)
  | d => d
termination_by structural x => x

def keptItems : List Datum → List Datum
  | [] => []
  | d :: ds => d.kept :: keptItems ds
termination_by structural x => x

def keptParts : List (Datum × Datum) → List (Datum × Datum)
  | [] => []
  | (k, v) :: es => (k.kept, v.kept) :: keptParts es
termination_by structural x => x

end

mutual

/-- Whether nothing in a datum is absent; the whole may be. -/
def isDense : Datum → Bool
  | .some d => !d.isAbsent && d.isDense
  | .list ds => areDense ds
  | .map es => haveDense es
  | _ => true
termination_by structural x => x

def areDense : List Datum → Bool
  | [] => true
  | d :: ds => !d.isAbsent && d.isDense && areDense ds
termination_by structural x => x

def haveDense : List (Datum × Datum) → Bool
  | [] => true
  | (k, v) :: es => k.isDense && (!v.isAbsent && v.isDense) && haveDense es
termination_by structural x => x

end

mutual

/-- Whether no key of a map in a datum is absent. -/
def keysPresent : Datum → Bool
  | .some d => d.keysPresent
  | .list ds => areKeysPresent ds
  | .map es => haveKeysPresent es
  | _ => true
termination_by structural x => x

def areKeysPresent : List Datum → Bool
  | [] => true
  | d :: ds => d.keysPresent && areKeysPresent ds
termination_by structural x => x

def haveKeysPresent : List (Datum × Datum) → Bool
  | [] => true
  | (k, v) :: es => !k.isAbsent && k.keysPresent && v.keysPresent && haveKeysPresent es
termination_by structural x => x

end

/-! ## Lists of data -/

theorem keptItems_eq (ds : List Datum) : keptItems ds = ds.map kept := by
  induction ds with
  | nil => rfl
  | cons d ds ih => rw [keptItems, ih, List.map_cons]

theorem keptParts_eq (es : List (Datum × Datum)) : keptParts es = es.map fun e => (e.1.kept, e.2.kept) := by
  induction es with
  | nil => rfl
  | cons e es ih => rw [keptParts, ih, List.map_cons]

theorem areDense_eq (ds : List Datum) : areDense ds = ds.all fun d => !d.isAbsent && d.isDense := by
  induction ds with
  | nil => rfl
  | cons d ds ih => rw [areDense, ih, List.all_cons]

theorem haveDense_eq (es : List (Datum × Datum)) :
    haveDense es = es.all fun e => e.1.isDense && (!e.2.isAbsent && e.2.isDense) := by
  induction es with
  | nil => rfl
  | cons e es ih => rw [haveDense, ih, List.all_cons]

theorem areKeysPresent_iff {ds : List Datum} : areKeysPresent ds = true ↔ ∀ d ∈ ds, d.keysPresent := by
  induction ds with
  | nil => simp [areKeysPresent]
  | cons d ds ih => simp [areKeysPresent, ih]

theorem haveKeysPresent_iff {es : List (Datum × Datum)} :
    haveKeysPresent es = true ↔ ∀ e ∈ es, e.1.isAbsent = false ∧ e.1.keysPresent ∧ e.2.keysPresent := by
  induction es with
  | nil => simp [haveKeysPresent]
  | cons e es ih => simp [haveKeysPresent, ih, and_assoc]

theorem areValues_iff {ds : List Datum} : AreValues ds ↔ ∀ d ∈ ds, d.IsValue := by
  induction ds with
  | nil => simp [AreValues]
  | cons d ds ih => simp [AreValues, ih]

theorem hasValues_iff {es : List (Datum × Datum)} : HasValues es ↔ ∀ e ∈ es, e.1.IsValue ∧ e.2.IsValue := by
  induction es with
  | nil => simp [HasValues]
  | cons e es ih => simp [HasValues, ih, and_assoc]

/-! ## What is kept -/

@[simp] theorem isAbsent_kept : ∀ d : Datum, d.kept.isAbsent = d.isAbsent
  | .some d => by
    rw [kept, isAbsent]
    split
    · next h => rw [h, isAbsent]
    · exact isAbsent_kept d
  | .list _ | .map _ | .int _ | .f32 _ | .f64 _ | .bool _ | .str _ | .unit | .none => rfl

theorem kept_some {d : Datum} (ha : d.isAbsent = false) : (some d).kept = .some d.kept := by
  rw [kept, ha]
  rfl

theorem kept_some_of_isAbsent {d : Datum} (ha : d.isAbsent) : (some d).kept = .none := by
  rw [kept, ha]
  rfl

theorem map_rdropWhile {α β : Type} {f : α → β} {p : α → Bool} {q : β → Bool} (h : ∀ a, q (f a) = p a) (l : List α) :
    (l.map f).rdropWhile q = (l.rdropWhile p).map f := by
  rw [List.rdropWhile, List.rdropWhile, ← List.map_reverse, List.dropWhile_map, List.map_reverse]
  exact congrArg (fun r => (List.map f (List.dropWhile r l.reverse)).reverse) (funext h)

/-- A sequence keeps its items up to the last one that is there. -/
theorem kept_list (ds : List Datum) : (list ds).kept = .list ((ds.rdropWhile isAbsent).map kept) := by
  rw [kept, keptItems_eq, map_rdropWhile isAbsent_kept]

/-- A map keeps the entries whose values are there. -/
theorem kept_map (es : List (Datum × Datum)) :
    (map es).kept = .map ((es.filter fun e => !e.2.isAbsent).map fun e => (e.1.kept, e.2.kept)) := by
  rw [kept, keptParts_eq, List.filter_map]
  simp only [Function.comp_def, isAbsent_kept]

/-- What a sequence keeps has no absent part if none of its items up to the last one that is there has one. -/
theorem isDense_kept_list (ds : List Datum) : (list ds).kept.isDense =
    ((ds.rdropWhile isAbsent).all (!·.isAbsent) && (ds.rdropWhile isAbsent).all (·.kept.isDense)) := by
  rw [kept_list, isDense, areDense_eq, List.all_map, Bool.eq_iff_iff]
  simp [forall_and]

theorem sorted_kept_list (ds : List Datum) :
    (list ds).kept.sorted = .list ((ds.rdropWhile isAbsent).map fun d => d.kept.sorted) := by
  rw [kept_list, sorted, sortedItems_eq, List.map_map]
  rfl

/-- What a map keeps has no absent part if none of the entries whose values are there has one. -/
theorem isDense_kept_map (es : List (Datum × Datum)) : (map es).kept.isDense =
    (es.filter fun e => !e.2.isAbsent).all fun e => e.1.kept.isDense && e.2.kept.isDense := by
  rw [kept_map, isDense, haveDense_eq, List.all_map, Bool.eq_iff_iff, List.all_eq_true, List.all_eq_true]
  refine forall₂_congr fun e he => ?_
  have hvalue := (List.mem_filter.1 he).2
  simp_all

theorem sorted_kept_map (es : List (Datum × Datum)) : (map es).kept.sorted =
    .map (sortEntries ((es.filter fun e => !e.2.isAbsent).map fun e => (e.1.kept.sorted, e.2.kept.sorted))) := by
  rw [kept_map, sorted, sortedParts_eq, List.map_map]
  rfl

mutual

/-- What has no absent part is kept as it is. -/
theorem kept_of_isDense : ∀ {d : Datum}, d.isDense → d.kept = d
  | .some d, h => by
    simp only [isDense, Bool.and_eq_true, Bool.not_eq_true'] at h
    rw [kept, h.1, kept_of_isDense h.2]
    rfl
  | .list ds, h => by
    rw [kept, keptItems_of_areDense h, List.rdropWhile_eq_self_iff.2]
    intro hl
    have h := List.all_eq_true.1 ((areDense_eq ds).symm.trans h) _ (List.getLast_mem hl)
    simp_all
  | .map es, h => by
    rw [kept, keptParts_of_haveDense h, List.filter_eq_self.2]
    intro e he
    have h := List.all_eq_true.1 ((haveDense_eq es).symm.trans h) e he
    simp_all
  | .int _, _ | .f32 _, _ | .f64 _, _ | .bool _, _ | .str _, _ | .unit, _ | .none, _ => rfl

theorem keptItems_of_areDense : ∀ {ds : List Datum}, areDense ds → keptItems ds = ds
  | [], _ => rfl
  | d :: ds, h => by
    simp only [areDense, Bool.and_eq_true] at h
    rw [keptItems, kept_of_isDense h.1.2, keptItems_of_areDense h.2]

theorem keptParts_of_haveDense : ∀ {es : List (Datum × Datum)}, haveDense es → keptParts es = es
  | [], _ => rfl
  | (k, v) :: es, h => by
    simp only [haveDense, Bool.and_eq_true] at h
    rw [keptParts, kept_of_isDense h.1.1, kept_of_isDense h.1.2.2, keptParts_of_haveDense h.2]

end

mutual

theorem hasType_kept : ∀ {d : Datum} {t : Ty}, t.isPushable → d.hasType t → d.kept.hasType t
  | .int _, _, _, h | .f32 _, _, _, h | .f64 _, _, _, h | .bool _, _, _, h | .str _, _, _, h | .unit, _, _, h
  | .none, _, _, h => h
  | .some d, .opt t, ht, h => by
    rw [kept]
    split
    · rfl
    · exact hasType_kept (d := d) (t := t) ht h
  | .list ds, .vec t, ht, h => by
    have h := allHaveType_iff.1 (@allHaveType_kept ds t ht h)
    exact allHaveType_iff.2 fun d hd => h d ((List.rdropWhile_prefix _ _).subset hd)
  | .map es, .map k v, ht, h => by
    simp only [Ty.isPushable, Bool.and_eq_true] at ht
    have h := entriesHaveType_iff.1 (@entriesHaveType_kept es k v ht.1.1 ht.2 h)
    exact entriesHaveType_iff.2 fun e he => h e (List.mem_of_mem_filter he)

theorem allHaveType_kept : ∀ {ds : List Datum} {t : Ty}, t.isPushable → allHaveType ds t →
    allHaveType (keptItems ds) t
  | [], _, _, h => h
  | d :: ds, t, ht, h => by
    simp only [allHaveType, keptItems, Bool.and_eq_true] at h ⊢
    exact ⟨hasType_kept ht h.1, allHaveType_kept ht h.2⟩

theorem entriesHaveType_kept : ∀ {es : List (Datum × Datum)} {k v : Ty}, k.isPushable → v.isPushable →
    entriesHaveType es k v → entriesHaveType (keptParts es) k v
  | [], _, _, _, _, h => h
  | (dk, dv) :: es, k, v, hk, hv, h => by
    simp only [entriesHaveType, keptParts, Bool.and_eq_true] at h ⊢
    exact ⟨⟨hasType_kept hk h.1.1, hasType_kept hv h.1.2⟩, entriesHaveType_kept hk hv h.2⟩

end

end Datum

end PluginHost
