import PluginHost.Proofs.Data.Order

/-!
# Values of a program

`Datum.IsValue` says what distinguishes data that a program can hold from the rest: nothing is too long, and no map has
a key twice. Sorting a datum keeps its type. Scalars, which every kind of plugin takes and gives, are such data.
-/

namespace PluginHost

mutual

/-- What a program can hold: no sequence is longer than memory allows, and no map has the same key twice. -/
def Datum.IsValue : Datum → Prop
  | .some d => d.IsValue
  | .list ds => ds.length < 2 ^ 63 ∧ AreValues ds
  | .map es => ((sortedParts es).map Prod.fst).Nodup ∧ HasValues es
  | _ => True
termination_by structural x => x

def Datum.AreValues : List Datum → Prop
  | [] => True
  | d :: ds => d.IsValue ∧ AreValues ds
termination_by structural x => x

def Datum.HasValues : List (Datum × Datum) → Prop
  | [] => True
  | (k, v) :: es => k.IsValue ∧ v.IsValue ∧ HasValues es
termination_by structural x => x

end

namespace Datum

mutual

theorem hasType_sorted : ∀ {d : Datum} {t : Ty}, d.hasType t → d.sorted.hasType t
  | .int _, _, h | .f32 _, _, h | .f64 _, _, h | .bool _, _, h | .str _, _, h | .unit, _, h | .none, _, h => h
  | .some d, .opt t, h => hasType_sorted (d := d) (t := t) h
  | .list ds, .vec t, h => @allHaveType_sorted ds t h
  | .list ds, .tuple ts, h => @haveTypes_sorted ds ts h
  | .map es, .map k v, h => by
    have h := entriesHaveType_iff.1 (@entriesHaveType_sorted es k v h)
    exact entriesHaveType_iff.2 fun e he => h e ((sortEntries_perm _).subset he)

theorem allHaveType_sorted : ∀ {ds : List Datum} {t : Ty}, allHaveType ds t → allHaveType (sortedItems ds) t
  | [], _, h => h
  | d :: ds, t, h => by
    simp only [allHaveType, sortedItems, Bool.and_eq_true] at h ⊢
    exact ⟨hasType_sorted h.1, allHaveType_sorted h.2⟩

theorem haveTypes_sorted : ∀ {ds : List Datum} {ts : List Ty}, haveTypes ds ts → haveTypes (sortedItems ds) ts
  | [], [], h => h
  | d :: ds, t :: ts, h => by
    simp only [haveTypes, sortedItems, Bool.and_eq_true] at h ⊢
    exact ⟨hasType_sorted h.1, haveTypes_sorted h.2⟩

theorem entriesHaveType_sorted : ∀ {es : List (Datum × Datum)} {k v : Ty}, entriesHaveType es k v →
    entriesHaveType (sortedParts es) k v
  | [], _, _, h => h
  | (dk, dv) :: es, k, v, h => by
    simp only [entriesHaveType, sortedParts, Bool.and_eq_true] at h ⊢
    exact ⟨⟨hasType_sorted h.1.1, hasType_sorted h.1.2⟩, entriesHaveType_sorted h.2⟩

end

/-- Keys that differ when they are sorted differ. -/
theorem nodup_keys_of_isValue {es : List (Datum × Datum)} (hv : (map es).IsValue) : (es.map Prod.fst).Nodup := by
  refine List.Nodup.of_map sorted ?_
  have h := hv.1
  rw [sortedParts_eq, List.map_map] at h
  rw [List.map_map]
  exact h

end Datum

/-! ## Scalars -/

/-- The types of numbers and of truth values. -/
def Ty.isScalar : Ty → Bool
  | .int _ | .f32 | .f64 | .bool => true
  | _ => false

/-- The types that a call of any kind of plugin may answer with. -/
def Ty.isAnswer : Ty → Bool
  | .unit => true
  | t => t.isScalar

end PluginHost
