import PluginHost.Proofs.Native.Memory
import PluginHost.Proofs.Native.Openings

/-!
# Which files are in memory

A loader has the files in memory of which something is open, and no others (`IsTidy`). More may come to be open
(`Grows`), which brings further files into memory as they are, or less (`Shrinks`), and something may be written to one of
them (`mapping?_write`); whatever happens to the rest, a file that stays open keeps its variables. Opening some, closing
some or writing to one is what a program does in one go (`Turns`).
-/

namespace PluginHost.Native

/-- A file in memory after several changes of its variables. -/
def Mapping.after (m : Mapping) (ws : List Write) : Mapping := { m with memory := m.memory.after ws }

theorem Mapping.after_append (m : Mapping) (ws ws' : List Write) : m.after (ws ++ ws') = (m.after ws).after ws' := by
  rw [after, m.memory.after_append]
  rfl

namespace Loader

/-- Whether something of the file at a place is open. -/
def IsOpen (l : Loader) (p : Place) : Prop := ∃ o ∈ l.openings, o.place = p

/-- Whether the files in memory are those of which something is open. -/
def IsTidy (l : Loader) : Prop := ∀ p, (l.mapping? p).isSome ↔ l.IsOpen p

/-- The place of the file behind a handle. -/
def placeOf? (l : Loader) (h : Handle) : Option Place := (l.opening? h).map (·.place)

variable {l l' l'' : Loader} {files : FileTree} {h h' : Handle} {p q : Place} {found : Path} {image : Image}

theorem isTidy_default : ({} : Loader).IsTidy := fun p => by simp [mapping?, IsOpen]

theorem IsTidy.mapping?_eq_none (ht : l.IsTidy) (hp : ¬l.IsOpen p) : l.mapping? p = none := by
  have hnone := mt (ht p).1 hp
  simpa using hnone

theorem mappingOf?_eq (l : Loader) (h : Handle) : l.mappingOf? h = (l.placeOf? h).bind l.mapping? := by
  rw [mappingOf?, placeOf?]
  cases l.opening? h <;> rfl

theorem isOpen_of_placeOf? (hp : l.placeOf? h = some p) : l.IsOpen p := by
  obtain ⟨o, ho, rfl⟩ := Option.map_eq_some_iff.1 hp
  exact ⟨o, List.mem_of_find?_eq_some ho, rfl⟩

/-! ## Opening -/

theorem isOpen_add : (l.add found q image).IsOpen p ↔ l.IsOpen p ∨ p = q := by
  constructor
  · rintro ⟨o, ho, rfl⟩
    rcases List.mem_append.1 ho with ho | ho
    · exact .inl ⟨o, ho, rfl⟩
    · exact .inr (by rw [List.mem_singleton.1 ho])
  · rintro (⟨o, ho, rfl⟩ | rfl)
    · exact ⟨o, List.mem_append_left _ ho, rfl⟩
    · exact ⟨_, List.mem_append_right _ (List.mem_singleton.2 rfl), rfl⟩

theorem mapping?_add (l : Loader) (found : Path) (q : Place) (image : Image) (p : Place) :
    (l.add found q image).mapping? p =
      (l.mapping? p).or (if p = q then some ⟨q, found, image, image.initialMemory⟩ else none) := by
  rw [mapping?, add]
  dsimp only
  by_cases hq : (l.mapping? q).isSome
  · rw [if_pos hq]
    by_cases hp : p = q
    · subst hp
      obtain ⟨m, hm⟩ := Option.isSome_iff_exists.1 hq
      rw [hm, Option.some_or]
      exact hm
    · rw [if_neg hp, Option.or_none]
      rfl
  · rw [if_neg hq, List.find?_append]
    refine congrArg (Option.or _) ?_
    by_cases hp : p = q
    · simp [hp]
    · simp [hp, Ne.symm hp]

theorem isOpen_retain : (l.retain h).IsOpen p ↔ l.IsOpen p := by
  constructor
  · rintro ⟨o, ho, rfl⟩
    obtain ⟨o', ho', -, hplace, -⟩ := mem_countHandles ho
    exact ⟨o', ho', hplace.symm⟩
  · rintro ⟨o, ho, rfl⟩
    refine ⟨_, List.mem_map_of_mem ho, ?_⟩
    split <;> rfl

theorem mappingOf?_retain (l : Loader) (h h' : Handle) : (l.retain h).mappingOf? h' = l.mappingOf? h' := by
  rw [mappingOf?, retain, opening?_countHandles, mappingOf?]
  cases ho : l.opening? h' with
  | none => rfl
  | some o =>
    by_cases hid : o.id = h
    · simp only [Option.map_some, if_pos hid]
      rfl
    · simp only [Option.map_some, if_neg hid]
      rfl

theorem IsTidy.retain (ht : l.IsTidy) (h : Handle) : (l.retain h).IsTidy := fun p => (ht p).trans isOpen_retain.symm

/-- Whether a loader has what another one has and perhaps further files, as they are now. -/
structure Grows (files : FileTree) (l l' : Loader) : Prop where
  isTidy : l'.IsTidy
  isOpen (p : Place) : l.IsOpen p → l'.IsOpen p
  kept (p : Place) : l.IsOpen p → l'.mapping? p = l.mapping? p
  fresh (p : Place) : ¬l.IsOpen p → l'.IsOpen p → ∃ found image, files.at? p = some (.library image) ∧
    l'.mapping? p = some ⟨p, found, image, image.initialMemory⟩

theorem Grows.refl (files : FileTree) (ht : l.IsTidy) : Grows files l l :=
  ⟨ht, fun _ hp => hp, fun _ _ => rfl, fun _ hnot hp => absurd hp hnot⟩

theorem Grows.trans (h : Grows files l l') (h' : Grows files l' l'') : Grows files l l'' where
  isTidy := h'.isTidy
  isOpen p hp := h'.isOpen p (h.isOpen p hp)
  kept p hp := (h'.kept p (h.isOpen p hp)).trans (h.kept p hp)
  fresh p hnot hp := by
    by_cases hp' : l'.IsOpen p
    · obtain ⟨found, image, hfile, hmapping⟩ := h.fresh p hnot hp'
      exact ⟨found, image, hfile, (h'.kept p hp').trans hmapping⟩
    · exact h'.fresh p hp' hp

theorem Grows.retain (hg : Grows files l l') (h : Handle) : Grows files l (l'.retain h) where
  isTidy := hg.isTidy.retain h
  isOpen p hp := isOpen_retain.2 (hg.isOpen p hp)
  kept := hg.kept
  fresh p hnot hp := hg.fresh p hnot (isOpen_retain.1 hp)

theorem at?_of_inspect {path : Path} (hi : inspect files path = .ok (found, q, image)) :
    files.at? q = some (.library image) := by
  unfold inspect at hi
  split at hi
  · cases hi
  · split at hi
    · cases hi
    · split at hi
      · next hfile =>
        split at hi
        · cases hi
          exact hfile
        · cases hi
      · cases hi

/-- Opening a library. -/
theorem IsTidy.grows_add (ht : l.IsTidy) {path : Path} (hi : inspect files path = .ok (found, q, image)) :
    Grows files l (l.add found q image) := by
  have hmapping : ∀ p, ¬l.IsOpen p → p = q →
      (l.add found q image).mapping? p = some ⟨p, found, image, image.initialMemory⟩ := by
    rintro p hnot rfl
    rw [mapping?_add, ht.mapping?_eq_none hnot, if_pos rfl, Option.none_or]
  have hkept : ∀ p, l.IsOpen p → (l.add found q image).mapping? p = l.mapping? p := by
    intro p hp
    obtain ⟨m, hm⟩ := Option.isSome_iff_exists.1 ((ht p).2 hp)
    rw [mapping?_add, hm, Option.some_or]
  refine ⟨fun p => ?_, fun p hp => isOpen_add.2 (.inl hp), hkept, fun p hnot hp => ?_⟩
  · rw [isOpen_add, mapping?_add, ← ht p]
    by_cases hp : p = q <;> simp [hp]
  · have heq := (isOpen_add.1 hp).resolve_left hnot
    exact ⟨found, image, heq ▸ at?_of_inspect hi, hmapping p hnot heq⟩

/-! ## Closing -/

theorem isOpen_of_release (hp : (l.release h).IsOpen p) : l.IsOpen p := by
  obtain ⟨o, ho, rfl⟩ := hp
  obtain ⟨o', ho', -, hplace, -⟩ := mem_countHandles (List.mem_of_mem_filter ho)
  exact ⟨o', ho', hplace.symm⟩

theorem mapping?_release (hp : (l.release h).IsOpen p) : (l.release h).mapping? p = l.mapping? p := by
  obtain ⟨o, ho, rfl⟩ := hp
  rw [mapping?, release, sweep]
  dsimp only
  rw [List.find?_filter]
  refine congrArg (List.find? · _) (funext fun m => ?_)
  refine decide_eq_decide.2 ⟨fun hm => of_decide_eq_true hm.2, fun hm => ⟨?_, decide_eq_true hm⟩⟩
  exact List.any_eq_true.2 ⟨o, ho, by simp [hm]⟩

theorem mapping?_release_of_not_isOpen (hp : ¬(l.release h).IsOpen p) : (l.release h).mapping? p = none := by
  rw [mapping?, List.find?_eq_none]
  intro m hm hplace
  obtain ⟨-, hany⟩ := List.mem_filter.1 (show m ∈ l.mappings.filter _ from hm)
  obtain ⟨o, ho, hom⟩ := List.any_eq_true.1 hany
  simp only [decide_eq_true_eq] at hom hplace
  exact hp ⟨o, ho, hom.trans hplace⟩

/-- Whether a loader has less than another one, and what it has is the same. -/
structure Shrinks (l l' : Loader) : Prop where
  isTidy : l'.IsTidy
  isOpen (p : Place) : l'.IsOpen p → l.IsOpen p
  kept (p : Place) : l'.IsOpen p → l'.mapping? p = l.mapping? p

theorem Shrinks.refl (ht : l.IsTidy) : Shrinks l l := ⟨ht, fun _ hp => hp, fun _ _ => rfl⟩

theorem Shrinks.trans (h : Shrinks l l') (h' : Shrinks l' l'') : Shrinks l l'' where
  isTidy := h'.isTidy
  isOpen p hp := h.isOpen p (h'.isOpen p hp)
  kept p hp := (h'.kept p hp).trans (h.kept p (h'.isOpen p hp))

theorem IsTidy.shrinks_release (ht : l.IsTidy) (h : Handle) : Shrinks l (l.release h) where
  isTidy p := by
    by_cases hp : (l.release h).IsOpen p
    · rw [mapping?_release hp, ht p]
      exact iff_of_true (isOpen_of_release hp) hp
    · rw [mapping?_release_of_not_isOpen hp]
      exact iff_of_false Bool.false_ne_true hp
  isOpen _ := isOpen_of_release
  kept _ := mapping?_release

theorem IsTidy.shrinks_releaseAll (ht : l.IsTidy) (handles : List Handle) : Shrinks l (handles.foldl release l) := by
  induction handles generalizing l with
  | nil => exact .refl ht
  | cons h handles ih =>
    have hfirst := ht.shrinks_release h
    exact hfirst.trans (ih hfirst.isTidy)

/-- Sharing a handle and releasing it again changes nothing. -/
theorem release_retain (hs : l.IsSound) (ht : l.IsTidy) (h : Handle) : (l.retain h).release h = l := by
  have hback : (l.retain h).countHandles h (· - 1) = l := by
    obtain ⟨openings, mappings, next⟩ := l
    simp only [retain, countHandles, List.map_map]
    refine congrArg (Loader.mk · mappings next) ?_
    refine (List.map_congr_left fun o _ => ?_).trans (List.map_id _)
    by_cases ho : o.id = h
    · subst ho
      simp
    · simp [ho]
  have hopenings : l.openings.filter (0 < ·.handles) = l.openings :=
    List.filter_eq_self.2 fun o ho => by simpa using hs.positive o ho
  have hmappings : (l.mappings.filter fun m => l.openings.any (·.place = m.place)) = l.mappings := by
    refine List.filter_eq_self.2 fun m hm => ?_
    have hsome : (l.mapping? m.place).isSome := List.find?_isSome.2 ⟨m, hm, by simp⟩
    obtain ⟨o, ho, hplace⟩ := (ht m.place).1 hsome
    exact List.any_eq_true.2 ⟨o, ho, by simp [hplace]⟩
  rw [release, hback, sweep, hopenings, hmappings]

/-! ## Writing -/

/-- Changes the variables behind a handle. -/
def write (l : Loader) (h : Handle) (w : Write) : Loader := l.setMemory h (w.apply (l.memoryOf h))

theorem sameOpenings_write (l : Loader) (h : Handle) (w : Write) : l.SameOpenings (l.write h w) := .setMemory l h _

theorem isOpen_write (w : Write) : (l.write h w).IsOpen p ↔ l.IsOpen p := by
  rw [IsOpen, (l.sameOpenings_write h w).openings]
  rfl

theorem placeOf?_write (l : Loader) (h : Handle) (w : Write) (h' : Handle) :
    (l.write h w).placeOf? h' = l.placeOf? h' := by
  rw [placeOf?, (l.sameOpenings_write h w).opening?]
  rfl

theorem mapping?_setMemory (l : Loader) (h : Handle) (memory : Memory) (p : Place) :
    (l.setMemory h memory).mapping? p =
      (l.mapping? p).map fun m => if l.placeOf? h = some p then { m with memory } else m := by
  rw [setMemory, placeOf?]
  cases ho : l.opening? h with
  | none =>
    dsimp only
    cases l.mapping? p <;> rfl
  | some o =>
    have hplace : ((fun m : Mapping => decide (m.place = p)) ∘ fun m : Mapping =>
        if m.place = o.place then { m with memory } else m) = fun m => decide (m.place = p) := by
      funext m
      by_cases hm : m.place = o.place <;> simp [hm]
    rw [mapping?, List.find?_map, hplace]
    show (l.mapping? p).map _ = _
    cases hm : l.mapping? p with
    | none => rfl
    | some m =>
      have hself : m.place = p := by simpa using List.find?_some hm
      simp only [Option.map_some, Option.some.injEq, hself, eq_comm (a := p)]

/-- What is written through a handle is in the file behind it. -/
theorem mapping?_write_self (hp : l.placeOf? h = some p) (w : Write) :
    (l.write h w).mapping? p = (l.mapping? p).map (·.after [w]) := by
  rw [write, mapping?_setMemory, memoryOf, mappingOf?_eq, hp, Option.bind_some]
  cases l.mapping? p with
  | none => rfl
  | some m => rw [Option.map_some, if_pos rfl]; rfl

/-- What is written to one file is in no other. -/
theorem mapping?_write_of_ne (hp : l.placeOf? h ≠ some p) (w : Write) : (l.write h w).mapping? p = l.mapping? p := by
  rw [write, mapping?_setMemory]
  simp only [if_neg hp]
  exact Option.map_id'

theorem IsTidy.write (ht : l.IsTidy) (h : Handle) (w : Write) : (l.write h w).IsTidy := by
  intro p
  rw [isOpen_write, ← ht p]
  by_cases hp : l.placeOf? h = some p
  · rw [mapping?_write_self hp, Option.isSome_map]
  · rw [mapping?_write_of_ne hp]

/-! ## What happens in one go -/

/-- Writes something through a handle, if there is anything to write. -/
def writeAny (l : Loader) : Option (Handle × Write) → Loader
  | none => l
  | some (h, w) => l.write h w

theorem sameOpenings_writeAny (l : Loader) (change : Option (Handle × Write)) : l.SameOpenings (l.writeAny change) := by
  cases change with
  | none => exact .refl l
  | some c => exact l.sameOpenings_write c.1 c.2

/-- What of it is written to the file at a place. -/
def writtenAt (l : Loader) (p : Place) : Option (Handle × Write) → List Write
  | none => []
  | some (h, w) => if l.placeOf? h = some p then [w] else []

/-- Whether of what is open in one loader something is written to one file at most and nothing else is different in the
other loader, except that some files are there no more, and others newly, as they are now. -/
structure Turns (files : FileTree) (change : Option (Handle × Write)) (l l' : Loader) : Prop where
  isTidy : l'.IsTidy
  kept (p : Place) : l.IsOpen p → l'.IsOpen p → l'.mapping? p = (l.mapping? p).map (·.after (l.writtenAt p change))
  fresh (p : Place) : ¬l.IsOpen p → l'.IsOpen p → ∃ found image, files.at? p = some (.library image) ∧
    l'.mapping? p = some ⟨p, found, image, image.initialMemory⟩

theorem map_after_nil (m : Option Mapping) : m.map (·.after []) = m := Option.map_id'

/-- Opening some and closing some afterwards. -/
theorem Grows.turns (hg : Grows files l l') (hs : Shrinks l' l'') : Turns files none l l'' where
  isTidy := hs.isTidy
  kept p hp hp'' := by
    rw [hs.kept p hp'', hg.kept p hp]
    exact (map_after_nil _).symm
  fresh p hnot hp'' := by
    obtain ⟨found, image, hfile, hmapping⟩ := hg.fresh p hnot (hs.isOpen p hp'')
    exact ⟨found, image, hfile, (hs.kept p hp'').trans hmapping⟩

theorem IsTidy.turns_writeAny (ht : l.IsTidy) (files : FileTree) (change : Option (Handle × Write)) :
    Turns files change l (l.writeAny change) := by
  cases change with
  | none => exact (Grows.refl files ht).turns (.refl ht)
  | some c =>
    obtain ⟨h, w⟩ := c
    refine ⟨ht.write h w, fun p _ _ => ?_, fun p hnot hp => absurd ((isOpen_write w).1 hp) hnot⟩
    by_cases hp : l.placeOf? h = some p
    · rw [writtenAt, if_pos hp]
      exact mapping?_write_self hp w
    · rw [writtenAt, if_neg hp, map_after_nil]
      exact mapping?_write_of_ne hp w

theorem Turns.retain {change : Option (Handle × Write)} (ht : Turns files change l l') (h : Handle) :
    Turns files change l (l'.retain h) where
  isTidy := ht.isTidy.retain h
  kept p hp hp' := ht.kept p hp (isOpen_retain.1 hp')
  fresh p hnot hp' := ht.fresh p hnot (isOpen_retain.1 hp')

/-! ## Reading -/

/-- Looking up a symbol. -/
theorem symbol_eq {m : Mapping} (hm : l.mappingOf? h = some m) {name x : String} {s : Symbol}
    (hname : lookupName? name = some x) (hs : m.image.symbol? x = some s) : l.symbol h name = .ok (x, s) := by
  rw [symbol, hm]
  simp only [hname, hs]

/-- Reading a variable. -/
theorem readVariable_eq {m : Mapping} (hm : l.mappingOf? h = some m) {name x : String} {s : Symbol}
    (hname : lookupName? name = some x) (hs : m.image.symbol? x = some s) (t : Ty) :
    l.readVariable h name t = .ok (ofBytes t (m.memory.get x)) := by
  have hsymbol : l.symbol h name = .ok (x, s) := symbol_eq hm hname hs
  have hmemory : l.memoryOf h = m.memory := by
    rw [memoryOf, hm]
    rfl
  rw [readVariable, hsymbol, hmemory]
  rfl

theorem readVariable_congr (hm : l'.mappingOf? h = l.mappingOf? h) (name : String) (t : Ty) :
    l'.readVariable h name t = l.readVariable h name t := by
  have hsymbol : l'.symbol h name = l.symbol h name := by
    rw [symbol, hm]
    rfl
  have hmemory : l'.memoryOf h = l.memoryOf h := by
    rw [memoryOf, hm]
    rfl
  rw [readVariable, hsymbol, hmemory]
  rfl

end Loader

end PluginHost.Native
