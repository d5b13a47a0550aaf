import PluginHost.World
import Mathlib.Data.List.Nodup

/-!
# Counting handles

What opening a file, sharing a handle and releasing one do to the number of live handles of every opening
(`handleCount_add`, `handleCount_retain`, `handleCount_release`), in a loader in which every opening has a number of
its own, some handle and a mapped file (`IsSound`).
-/

namespace PluginHost.Native.Loader

/-- Whether every opening has a number of its own, which is not given out again, some handle, and its file in memory. -/
structure IsSound (l : Loader) : Prop where
  nodup : (l.openings.map (·.id)).Nodup
  lt_next : ∀ o ∈ l.openings, o.id < l.next
  positive : ∀ o ∈ l.openings, 0 < o.handles
  isMapped : ∀ o ∈ l.openings, ∃ m ∈ l.mappings, m.place = o.place

theorem isSound_default : ({} : Loader).IsSound := ⟨List.nodup_nil, nofun, nofun, nofun⟩

variable {l l' : Loader} {h h' : Handle}

theorem opening?_eq_some_iff (hn : (l.openings.map (·.id)).Nodup) {o : Opening} :
    l.opening? h = some o ↔ o ∈ l.openings ∧ o.id = h := by
  constructor
  · intro ho
    exact ⟨List.mem_of_find?_eq_some ho, by simpa using List.find?_some ho⟩
  · rintro ⟨hmem, rfl⟩
    obtain ⟨o', ho'⟩ := Option.isSome_iff_exists.1 (List.find?_isSome.2 ⟨o, hmem, by simp⟩ : (l.opening? o.id).isSome)
    have hid : o'.id = o.id := by simpa using List.find?_some ho'
    exact ho'.trans (congrArg some (List.inj_on_of_nodup_map hn (List.mem_of_find?_eq_some ho') hmem hid))

theorem handleCount_eq_zero (ho : l.opening? h = none) : l.handleCount h = 0 := by
  rw [handleCount, ho]
  rfl

theorem handleCount_eq {o : Opening} (ho : l.opening? h = some o) : l.handleCount h = o.handles := by
  rw [handleCount, ho]
  rfl

/-- What has handles is open, and its file is in memory. -/
theorem IsSound.exists_mapping (hs : l.IsSound) (hc : 0 < l.handleCount h) : ∃ m, l.mappingOf? h = some m := by
  cases ho : l.opening? h with
  | none => exact absurd hc (by simp [handleCount_eq_zero ho])
  | some o =>
    obtain ⟨m, hmem, hplace⟩ := hs.isMapped o ((opening?_eq_some_iff hs.nodup).1 ho).1
    have hmapping : (l.mapping? o.place).isSome := List.find?_isSome.2 ⟨m, hmem, by simpa using hplace⟩
    obtain ⟨m, hm⟩ := Option.isSome_iff_exists.1 hmapping
    exact ⟨m, by rw [mappingOf?, ho]; exact hm⟩

theorem IsSound.lt_of_handleCount (hs : l.IsSound) (hc : 0 < l.handleCount h) : h < l.next := by
  cases ho : l.opening? h with
  | none => exact absurd hc (by simp [handleCount_eq_zero ho])
  | some o =>
    obtain ⟨hmem, rfl⟩ := (opening?_eq_some_iff hs.nodup).1 ho
    exact hs.lt_next o hmem

/-! ## Changing counts -/

theorem opening?_countHandles (l : Loader) (h : Handle) (change : Nat → Nat) (h' : Handle) :
    (l.countHandles h change).opening? h' =
      (l.opening? h').map fun o => if o.id = h then { o with handles := change o.handles } else o := by
  rw [opening?, countHandles, List.find?_map]
  refine congrArg (Option.map _) (congrArg (List.find? · _) (funext fun o => ?_))
  dsimp only [Function.comp_apply]
  split <;> rfl

theorem handleCount_countHandles (hn : (l.openings.map (·.id)).Nodup) (h : Handle) (change : Nat → Nat) (h' : Handle) :
    (l.countHandles h change).handleCount h' =
      if h' = h ∧ (l.opening? h).isSome then change (l.handleCount h') else l.handleCount h' := by
  rw [handleCount, opening?_countHandles]
  cases ho : l.opening? h' with
  | none =>
    rw [handleCount_eq_zero ho, if_neg]
    · rfl
    · rintro ⟨rfl, hsome⟩
      rw [ho] at hsome
      cases hsome
  | some o =>
    obtain ⟨-, rfl⟩ := (opening?_eq_some_iff hn).1 ho
    rw [handleCount_eq ho]
    by_cases hid : o.id = h
    · subst hid
      simp [ho]
    · simp [hid]

theorem ids_countHandles (l : Loader) (h : Handle) (change : Nat → Nat) :
    (l.countHandles h change).openings.map (·.id) = l.openings.map (·.id) := by
  rw [countHandles, List.map_map]
  refine List.map_congr_left fun o _ => ?_
  dsimp only [Function.comp_apply]
  split <;> rfl

/-! ## Sweeping -/

theorem nodup_sweep (hn : (l.openings.map (·.id)).Nodup) : (l.sweep.openings.map (·.id)).Nodup :=
  hn.sublist (List.filter_sublist.map _)

theorem opening?_sweep (hn : (l.openings.map (·.id)).Nodup) (h : Handle) :
    l.sweep.opening? h = (l.opening? h).filter (0 < ·.handles) := by
  refine Option.ext fun o => ?_
  rw [opening?_eq_some_iff (nodup_sweep hn), Option.filter_eq_some_iff, opening?_eq_some_iff hn]
  show o ∈ l.openings.filter _ ∧ o.id = h ↔ _
  rw [List.mem_filter, and_right_comm]

/-- Sweeping changes no count: what it forgets has no handles. -/
theorem handleCount_sweep (hn : (l.openings.map (·.id)).Nodup) (h : Handle) :
    l.sweep.handleCount h = l.handleCount h := by
  rw [handleCount, opening?_sweep hn, handleCount]
  cases l.opening? h with
  | none => rfl
  | some o => by_cases hp : 0 < o.handles <;> simp [Option.filter, hp]; omega

/-! ## Sharing and releasing -/

theorem mem_countHandles {change : Nat → Nat} {o : Opening} (ho : o ∈ (l.countHandles h change).openings) :
    ∃ o' ∈ l.openings, o.id = o'.id ∧ o.place = o'.place ∧
      o.handles = if o'.id = h then change o'.handles else o'.handles := by
  obtain ⟨o', ho', rfl⟩ := List.mem_map.1 ho
  refine ⟨o', ho', ?_⟩
  split <;> exact ⟨rfl, rfl, rfl⟩

theorem IsSound.retain (hs : l.IsSound) (h : Handle) : (l.retain h).IsSound where
  nodup := (ids_countHandles l h _).symm ▸ hs.nodup
  lt_next o ho := by
    obtain ⟨o', ho', hid, -⟩ := mem_countHandles ho
    exact hid ▸ hs.lt_next o' ho'
  positive o ho := by
    obtain ⟨o', ho', -, -, hhandles⟩ := mem_countHandles ho
    have := hs.positive o' ho'
    rw [hhandles]
    split <;> omega
  isMapped o ho := by
    obtain ⟨o', ho', -, hplace, -⟩ := mem_countHandles ho
    exact hplace ▸ hs.isMapped o' ho'

theorem IsSound.release (hs : l.IsSound) (h : Handle) : (l.release h).IsSound where
  nodup := nodup_sweep ((ids_countHandles l h _).symm ▸ hs.nodup)
  lt_next o ho := by
    obtain ⟨o', ho', hid, -⟩ := mem_countHandles (List.mem_of_mem_filter ho)
    exact hid ▸ hs.lt_next o' ho'
  positive o ho := by simpa using List.of_mem_filter ho
  isMapped o ho := by
    obtain ⟨o', ho', -, hplace, -⟩ := mem_countHandles (List.mem_of_mem_filter ho)
    obtain ⟨m, hm, hmapped⟩ := hs.isMapped o' ho'
    have hplace : m.place = o.place := hmapped.trans hplace.symm
    exact ⟨m, List.mem_filter.2 ⟨hm, List.any_eq_true.2 ⟨o, ho, by simp [hplace]⟩⟩, hplace⟩

/-- Another handle to what has one. -/
theorem handleCount_retain (hs : l.IsSound) (hc : 0 < l.handleCount h) (h' : Handle) :
    (l.retain h).handleCount h' = l.handleCount h' + if h = h' then 1 else 0 := by
  have hopen : (l.opening? h).isSome := by
    cases ho : l.opening? h with
    | none => exact absurd hc (by simp [handleCount_eq_zero ho])
    | some o => rfl
  rw [retain, handleCount_countHandles hs.nodup]
  simp only [hopen, and_true, eq_comm]
  split <;> rfl

/-- One handle less, if there was one. -/
theorem handleCount_release (hs : l.IsSound) (h h' : Handle) :
    (l.release h).handleCount h' = l.handleCount h' - if h = h' then 1 else 0 := by
  rw [release, handleCount_sweep ((ids_countHandles l h _).symm ▸ hs.nodup), handleCount_countHandles hs.nodup]
  cases ho : l.opening? h with
  | none =>
    rw [if_neg (by simp)]
    split
    · next heq => rw [← heq, handleCount_eq_zero ho]
    · rfl
  | some o =>
    simp only [Option.isSome_some, and_true, eq_comm]
    split <;> rfl

/-- Other openings do not notice that a handle is released. -/
theorem opening?_release (hs : l.IsSound) (hne : h ≠ h') : (l.release h).opening? h' = l.opening? h' := by
  rw [release, opening?_sweep ((ids_countHandles l h _).symm ▸ hs.nodup), opening?_countHandles]
  cases ho : l.opening? h' with
  | none => rfl
  | some o =>
    obtain ⟨hmem, hid⟩ := (opening?_eq_some_iff hs.nodup).1 ho
    rw [Option.map_some, if_neg (fun heq => hne (heq.symm.trans hid))]
    exact Option.filter_some_pos (by simpa using hs.positive o hmem)

theorem next_release (l : Loader) (h : Handle) : (l.release h).next = l.next := rfl

theorem opening?_eq_none (hs : l.IsSound) (hc : l.handleCount h = 0) : l.opening? h = none := by
  cases ho : l.opening? h with
  | none => rfl
  | some o =>
    have hpositive := hs.positive o ((opening?_eq_some_iff hs.nodup).1 ho).1
    rw [handleCount_eq ho] at hc
    omega

/-- Releasing several handles, one after the other. -/
theorem releaseAll (hs : l.IsSound) (handles : List Handle) :
    (handles.foldl release l).IsSound ∧ (handles.foldl release l).next = l.next ∧
      (∀ h, (handles.foldl release l).handleCount h = l.handleCount h - handles.count h) ∧
      ∀ h, h ∉ handles → (handles.foldl release l).opening? h = l.opening? h := by
  induction handles generalizing l with
  | nil => exact ⟨hs, rfl, fun _ => rfl, fun _ _ => rfl⟩
  | cons a handles ih =>
    obtain ⟨hsound, hnext, hcount, hopening⟩ := ih (hs.release a)
    refine ⟨hsound, hnext, fun h => ?_, fun h hmem => ?_⟩
    · have hbeq : (a == h) = decide (a = h) := rfl
      rw [List.foldl_cons, hcount, handleCount_release hs, List.count_cons, hbeq, Nat.sub_sub, Nat.add_comm]
      simp only [decide_eq_true_eq]
    · rw [List.mem_cons, not_or] at hmem
      exact (hopening h hmem.2).trans (opening?_release hs (Ne.symm hmem.1))

/-! ## Opening -/

theorem handleCount_add (hs : l.IsSound) (found : Path) (place : Place) (image : Image) (h : Handle) :
    (l.add found place image).handleCount h = l.handleCount h + if l.next = h then 1 else 0 := by
  have hfind : (l.add found place image).opening? h =
      (l.opening? h).or (List.find? (·.id = h) [⟨l.next, found, place, 1⟩]) := List.find?_append
  rw [handleCount, hfind]
  cases ho : l.opening? h with
  | none =>
    rw [handleCount_eq_zero ho, Option.none_or, List.find?_singleton]
    by_cases heq : l.next = h <;> simp [heq]
  | some o =>
    obtain ⟨hmem, hid⟩ := (opening?_eq_some_iff hs.nodup).1 ho
    have hlt := hs.lt_next o hmem
    have hne : l.next ≠ h := by
      rw [← hid]
      exact Nat.ne_of_gt hlt
    rw [handleCount_eq ho, if_neg hne]
    rfl

theorem mem_mappings_add {m : Mapping} (hm : m ∈ l.mappings) (found : Path) (place : Place) (image : Image) :
    m ∈ (l.add found place image).mappings := by
  rw [add]
  dsimp only
  split
  · exact hm
  · exact List.mem_append_left _ hm

/-- The file of a new opening is in memory, newly or as before. -/
theorem exists_mapping_add (l : Loader) (found : Path) (place : Place) (image : Image) :
    ∃ m ∈ (l.add found place image).mappings, m.place = place := by
  by_cases hmapped : (l.mapping? place).isSome
  · obtain ⟨m, hm⟩ := Option.isSome_iff_exists.1 hmapped
    exact ⟨m, mem_mappings_add (List.mem_of_find?_eq_some hm) found place image, by simpa using List.find?_some hm⟩
  · refine ⟨⟨place, found, image, image.initialMemory⟩, ?_, rfl⟩
    rw [add]
    dsimp only
    rw [if_neg hmapped]
    exact List.mem_append_right _ (List.mem_singleton.2 rfl)

theorem IsSound.add (hs : l.IsSound) (found : Path) (place : Place) (image : Image) :
    (l.add found place image).IsSound where
  nodup := by
    rw [Loader.add, List.map_append, List.nodup_append']
    refine ⟨hs.nodup, List.nodup_singleton _, ?_⟩
    rw [List.map_singleton, List.disjoint_singleton]
    intro hmem
    obtain ⟨o, ho, hid⟩ := List.mem_map.1 hmem
    exact absurd (hs.lt_next o ho) (Nat.not_lt.2 (Nat.le_of_eq hid.symm))
  lt_next o ho := by
    rcases List.mem_append.1 ho with ho | ho
    · exact Nat.lt_succ_of_lt (hs.lt_next o ho)
    · rw [List.mem_singleton.1 ho]
      exact Nat.lt_succ_self _
  positive o ho := by
    rcases List.mem_append.1 ho with ho | ho
    · exact hs.positive o ho
    · rw [List.mem_singleton.1 ho]
      exact Nat.one_pos
  isMapped o ho := by
    rcases List.mem_append.1 ho with ho | ho
    · obtain ⟨m, hm, hplace⟩ := hs.isMapped o ho
      exact ⟨m, mem_mappings_add hm found place image, hplace⟩
    · rw [List.mem_singleton.1 ho]
      exact l.exists_mapping_add found place image

/-! ## Everything else -/

/-- Whether two loaders have the same openings and the same files in memory. -/
structure SameOpenings (l l' : Loader) : Prop where
  openings : l'.openings = l.openings
  next : l'.next = l.next
  places : l'.mappings.map (·.place) = l.mappings.map (·.place)

namespace SameOpenings

theorem refl (l : Loader) : l.SameOpenings l := ⟨rfl, rfl, rfl⟩

theorem trans {l'' : Loader} (hl : l.SameOpenings l') (hl' : l'.SameOpenings l'') : l.SameOpenings l'' :=
  ⟨hl'.openings.trans hl.openings, hl'.next.trans hl.next, hl'.places.trans hl.places⟩

theorem opening? (hl : l.SameOpenings l') (h : Handle) : l'.opening? h = l.opening? h := by
  rw [Loader.opening?, hl.openings]
  rfl

theorem handleCount (hl : l.SameOpenings l') (h : Handle) : l'.handleCount h = l.handleCount h := by
  rw [Loader.handleCount, hl.opening?]
  rfl

theorem isSound (hl : l.SameOpenings l') (hs : l.IsSound) : l'.IsSound where
  nodup := hl.openings ▸ hs.nodup
  lt_next := hl.openings ▸ hl.next ▸ hs.lt_next
  positive := hl.openings ▸ hs.positive
  isMapped o ho := by
    obtain ⟨m, hm, hplace⟩ := hs.isMapped o (hl.openings ▸ ho)
    have hmem : o.place ∈ l'.mappings.map (·.place) := hl.places ▸ hplace ▸ List.mem_map_of_mem hm
    exact List.mem_map.1 hmem

theorem setMemory (l : Loader) (h : Handle) (memory : Memory) : l.SameOpenings (l.setMemory h memory) := by
  unfold Loader.setMemory
  split
  · exact .refl l
  · refine ⟨rfl, rfl, ?_⟩
    rw [List.map_map]
    refine List.map_congr_left fun m _ => ?_
    dsimp only [Function.comp_apply]
    split <;> rfl

end SameOpenings

end PluginHost.Native.Loader
