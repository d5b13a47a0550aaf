import PluginHost.Proofs.Data.Order
import Mathlib.Data.List.Induction

/-!
# Entries with equal keys

A map that is filled entry by entry keeps one entry for each key, the last one that came (`mem_overwritten_iff`). It has
as many entries as came iff no key came twice (`length_overwritten`).
-/

namespace PluginHost

theorem Orders.ne_of_lt {α : Type} {cmp : α → α → Ordering} {s : α → Prop} (hs : Orders cmp s) {a b : α} (ha : s a)
    (h : cmp a b = .lt) : a ≠ b := by
  rintro rfl
  rw [(hs.eq_iff ha ha).2 rfl] at h
  cases h

namespace Datum

variable {k v : Datum} {es ps m : List (Datum × Datum)} {e : Datum × Datum}

/-- Entries put into a map one after the other. -/
def overwritten (ps : List (Datum × Datum)) : List (Datum × Datum) :=
  ps.foldl (fun m (k, v) => insertEntry k v m) []

theorem mapOfEntries_eq_map (ps : List (Datum × Datum)) : mapOfEntries ps = .map (overwritten ps) := rfl

theorem overwritten_append (ps : List (Datum × Datum)) (e : Datum × Datum) :
    overwritten (ps ++ [e]) = insertEntry e.1 e.2 (overwritten ps) := by
  rw [overwritten, List.foldl_append]
  rfl

section

variable {s : Datum → Prop} (hs : Orders compare s)
include hs

theorem nodup_of_ascends (ha : ∀ a ∈ es, s a.1) (h : Ascends es) : (es.map Prod.fst).Nodup :=
  List.pairwise_map.2 (h.imp_of_mem fun hmem _ hlt => hs.ne_of_lt (ha _ hmem) hlt)

/-- Putting an entry into a map gives its key this value and leaves the other keys as they are. -/
theorem mem_insertEntry_iff (hk : s k) (ha : ∀ a ∈ es, s a.1) (h : Ascends es) :
    e ∈ insertEntry k v es ↔ e = (k, v) ∨ e.1 ≠ k ∧ e ∈ es := by
  induction es with
  | nil => simp [insertEntry]
  | cons a es ih =>
    obtain ⟨j, w⟩ := a
    rw [List.forall_mem_cons] at ha
    obtain ⟨hlt, h⟩ := List.pairwise_cons.1 h
    rw [insertEntry]
    cases hc : k.compare j with
    | lt =>
      -- the new key is below all others
      have hne : ∀ b ∈ (j, w) :: es, b.1 ≠ k := by
        intro b hb
        rcases List.mem_cons.1 hb with rfl | hb
        · exact (hs.ne_of_lt hk hc).symm
        · exact (hs.ne_of_lt hk (hs.trans hk ha.1 (ha.2 b hb) hc (hlt b hb))).symm
      rw [List.mem_cons]
      exact or_congr_right ⟨fun he => ⟨hne e he, he⟩, And.right⟩
    | eq =>
      -- the key is there already, and it is below the rest
      obtain rfl : k = j := (hs.eq_iff hk ha.1).1 hc
      have hne : ∀ b ∈ es, b.1 ≠ k := fun b hb => (hs.ne_of_lt hk (hlt b hb)).symm
      have hdrop : e.1 ≠ k ∧ e ∈ (k, w) :: es ↔ e ∈ es := by
        rw [List.mem_cons]
        exact ⟨fun he => he.2.resolve_left fun h => he.1 (congrArg Prod.fst h), fun he => ⟨hne e he, .inr he⟩⟩
      rw [List.mem_cons, hdrop]
    | gt =>
      have hne : j ≠ k := by
        rintro rfl
        rw [(hs.eq_iff hk hk).2 rfl] at hc
        cases hc
      rw [List.mem_cons, ih ha.2 h, List.mem_cons]
      constructor
      · rintro (rfl | rfl | he)
        · exact .inr ⟨hne, .inl rfl⟩
        · exact .inl rfl
        · exact .inr ⟨he.1, .inr he.2⟩
      · rintro (rfl | ⟨hek, rfl | he⟩)
        · exact .inr (.inl rfl)
        · exact .inl rfl
        · exact .inr (.inr ⟨hek, he⟩)

/-- A map stays sorted. -/
theorem ascends_insertEntry (hk : s k) (ha : ∀ a ∈ es, s a.1) (h : Ascends es) : Ascends (insertEntry k v es) := by
  induction es with
  | nil => exact List.pairwise_singleton _ _
  | cons a es ih =>
    obtain ⟨j, w⟩ := a
    rw [List.forall_mem_cons] at ha
    obtain ⟨hlt, hes⟩ := List.pairwise_cons.1 h
    rw [insertEntry]
    cases hc : k.compare j with
    | lt =>
      refine List.pairwise_cons.2 ⟨List.forall_mem_cons.2 ⟨hc, fun b hb => ?_⟩, h⟩
      exact hs.trans hk ha.1 (ha.2 b hb) hc (hlt b hb)
    | eq => exact List.pairwise_cons.2 ⟨hlt, hes⟩
    | gt =>
      have hjk : j.compare k = .lt := by
        rw [hs.swap hk ha.1, hc]
        rfl
      refine List.pairwise_cons.2 ⟨fun b hb => ?_, ih ha.2 hes⟩
      rcases (mem_insertEntry_iff hs hk ha.2 hes).1 hb with rfl | ⟨-, hb⟩
      · exact hjk
      · exact hlt b hb

/-- The entries of a map that was filled: it is sorted, and has for each key the last entry with that key. -/
theorem overwritten_spec (ha : ∀ p ∈ ps, s p.1) : Ascends (overwritten ps) ∧ ∀ e, e ∈ overwritten ps ↔
    ∃ before after, ps = before ++ e :: after ∧ ∀ p ∈ after, p.1 ≠ e.1 := by
  induction ps using List.reverseRecOn with
  | nil => exact ⟨List.Pairwise.nil, fun e => by simp [overwritten]⟩
  | append_singleton ps p ih =>
    have hkeys : (∀ q ∈ ps, s q.1) ∧ s p.1 := by simpa [or_imp, forall_and] using ha
    obtain ⟨hascends, hmem⟩ := ih hkeys.1
    have hover : ∀ e ∈ overwritten ps, s e.1 := by
      intro e he
      obtain ⟨before, after, rfl, -⟩ := (hmem e).1 he
      exact hkeys.1 e (by simp)
    rw [overwritten_append]
    refine ⟨ascends_insertEntry hs hkeys.2 hover hascends, fun e => ?_⟩
    rw [mem_insertEntry_iff hs hkeys.2 hover hascends, hmem]
    constructor
    · rintro (rfl | ⟨hne, before, after, rfl, hlast⟩)
      · exact ⟨ps, [], rfl, nofun⟩
      · refine ⟨before, after ++ [p], by simp, fun q hq => ?_⟩
        rcases List.mem_append.1 hq with hq | hq
        · exact hlast q hq
        · obtain rfl := List.mem_singleton.1 hq
          exact hne.symm
    · rintro ⟨before, after, hsplit, hlast⟩
      rcases List.eq_nil_or_concat after with rfl | ⟨after, q, rfl⟩
      · obtain ⟨-, hp⟩ := List.append_inj' hsplit rfl
        exact .inl (List.cons.inj hp).1.symm
      · have hsplit' : ps ++ [p] = (before ++ e :: after) ++ [q] := by simpa using hsplit
        obtain ⟨rfl, hp⟩ := List.append_inj' hsplit' rfl
        obtain rfl : p = q := (List.cons.inj hp).1
        exact .inr ⟨(hlast p (by simp)).symm, before, after, rfl, fun q hq => hlast q (by simp [hq])⟩

theorem mem_overwritten_iff (ha : ∀ p ∈ ps, s p.1) : e ∈ overwritten ps ↔
    ∃ before after, ps = before ++ e :: after ∧ ∀ p ∈ after, p.1 ≠ e.1 :=
  (overwritten_spec hs ha).2 e

/-- A map has no more entries than it was filled with, and fewer if a key came twice. -/
theorem length_overwritten (ha : ∀ p ∈ ps, s p.1) : (overwritten ps).length ≤ ps.length ∧
    ((overwritten ps).length = ps.length ↔ (ps.map Prod.fst).Nodup) := by
  obtain ⟨hascends, hmem⟩ := overwritten_spec hs ha
  have hsubset : ∀ e ∈ overwritten ps, e ∈ ps := by
    intro e he
    obtain ⟨before, after, rfl, -⟩ := (hmem e).1 he
    simp
  have hn := nodup_of_ascends hs (fun e he => ha e (hsubset e he)) hascends
  have hsub : ((overwritten ps).map Prod.fst).Subperm (ps.map Prod.fst) :=
    List.subperm_of_subset hn (List.map_subset Prod.fst hsubset)
  have hle : (overwritten ps).length ≤ ps.length := by simpa using hsub.length_le
  refine ⟨hle, fun heq => ?_, fun hnodup => ?_⟩
  · have hperm := hsub.perm_of_length_le (by simp [heq])
    exact hperm.nodup_iff.1 hn
  · have hsort := mapOfEntries_eq hs ha hnodup
    rw [mapOfEntries_eq_map, Datum.map.injEq] at hsort
    rw [hsort]
    exact (sortEntries_perm ps).length_eq

end

/-- What a map is that was filled with entries. It is sorted and has for each key the last entry with that key, which makes
all of them iff no key came twice. -/
structure Filled (ps m : List (Datum × Datum)) : Prop where
  sorted : Ascends m
  mem_iff (e : Datum × Datum) : e ∈ m ↔ ∃ before after, ps = before ++ e :: after ∧ ∀ p ∈ after, p.1 ≠ e.1
  perm_iff : m.Perm ps ↔ (ps.map Prod.fst).Nodup

section

variable {s : Datum → Prop} (hs : Orders compare s)
include hs

theorem filled_overwritten (ha : ∀ p ∈ ps, s p.1) : Filled ps (overwritten ps) := by
  obtain ⟨hascends, hmem⟩ := overwritten_spec hs ha
  refine ⟨hascends, hmem, fun hperm => ?_, fun hnodup => ?_⟩
  · have hkeys := nodup_of_ascends hs (fun e he => ha e (hperm.mem_iff.1 he)) hascends
    exact (hperm.map Prod.fst).nodup_iff.1 hkeys
  · have hsort := mapOfEntries_eq hs ha hnodup
    rw [mapOfEntries_eq_map, Datum.map.injEq] at hsort
    rw [hsort]
    exact sortEntries_perm ps

/-- There is one such map. -/
theorem filled_iff (ha : ∀ p ∈ ps, s p.1) : Filled ps m ↔ m = overwritten ps := by
  have hover := filled_overwritten hs ha
  constructor
  · intro hm
    have hmem : ∀ e, e ∈ m ↔ e ∈ overwritten ps := fun e => (hm.mem_iff e).trans (hover.mem_iff e).symm
    have hkeys : ∀ e ∈ m, s e.1 := by
      intro e he
      obtain ⟨before, after, rfl, -⟩ := (hm.mem_iff e).1 he
      exact ha e (by simp)
    have hn := (nodup_of_ascends hs hkeys hm.sorted).of_map
    have hn' := (nodup_of_ascends hs (fun e he => hkeys e ((hmem e).2 he)) hover.sorted).of_map
    exact hm.sorted.eq_of_perm hs hkeys hover.sorted ((List.perm_ext_iff_of_nodup hn hn').2 hmem)
  · rintro rfl
    exact hover

end

end Datum

end PluginHost
