import PluginHost.Proofs.Native.Variables

/-!
# Which file is opened

A path names a library by itself or through the library name beside it (`Loader.Finds`). What is opened is that file, and
its symbols are those of the file (`open_found`), however many openings of it there are already. Only a name without a
slash is refused, for the system looks for such a name elsewhere.
-/

namespace PluginHost

open Native

namespace Native.Loader

variable {l : Loader} {files : FileTree} {p found : Path} {place : Place} {image : Image} {h : Handle}

/-- At which path a library is found that another path names. -/
inductive Finds (files : FileTree) (p : Path) : Path → Prop
  | itself (hp : files.exists? p = true) : Finds files p p
  | beside {name : String} (hp : files.exists? p = false) (hname : p.fileName? = some name)
      (hbeside : files.exists? (p.withFileName (decorate name)) = true) :
    Finds files p (p.withFileName (decorate name))

theorem Finds.find? (hf : Finds files p found) : find? files p = some found := by
  cases hf with
  | itself hp => rw [Loader.find?, if_pos hp]
  | beside hp hname hbeside =>
    rw [Loader.find?, if_neg (ne_true_of_eq_false hp), hname]
    exact if_pos hbeside

/-- A library file is opened if the path at which it is found has a slash. -/
theorem Finds.inspect (hf : Finds files p found) (hplace : files.locate found = .ok place)
    (hfile : files.at? place = some (.library image)) : inspect files p =
      if found.text.contains '/' then .ok (found, place, image) else .error .fileInvalid := by
  rw [Loader.inspect, hf.find?]
  dsimp only
  rw [hplace]
  dsimp only
  rw [hfile]

/-! ## Symbols -/

/-- The symbols behind a handle are those of the file in memory. -/
theorem toOption_symbol {m : Mapping} (hm : l.mappingOf? h = some m) (name : String) :
    (l.symbol h name).toOption = (lookupName? name).bind fun x => (m.image.symbol? x).map (x, ·) := by
  rw [symbol, hm]
  cases hname : lookupName? name with
  | none => rfl
  | some x => cases hx : m.image.symbol? x <;> simp [hx, Except.toOption]

/-- A new opening has the path at which its file was found. -/
theorem opening?_next_add (hs : l.IsSound) (found : Path) (place : Place) (image : Image) :
    (l.add found place image).opening? l.next = some ⟨l.next, found, place, 1⟩ :=
  (opening?_eq_some_iff (hs.add found place image).nodup).2
    ⟨List.mem_append_right _ (List.mem_singleton.2 rfl), rfl⟩

/-- The file of a new opening is in memory: as it has been, or newly. -/
theorem exists_mappingOf?_next_add (hs : l.IsSound) (found : Path) (place : Place) (image : Image) :
    ∃ m, (l.add found place image).mappingOf? l.next = some m ∧ (m.image = image ∨ l.mapping? place = some m) := by
  have hplace : (l.add found place image).placeOf? l.next = some place :=
    congrArg (Option.map Opening.place) (opening?_next_add hs found place image)
  rw [mappingOf?_eq, hplace, Option.bind_some, mapping?_add, if_pos rfl]
  cases l.mapping? place with
  | none => exact ⟨_, rfl, .inl rfl⟩
  | some m => exact ⟨m, rfl, .inr rfl⟩

end Native.Loader

namespace Holdings

variable {s : Holdings} {w : World} {place : Place} {image : Image}

/-- What is in memory of a file that has always been the same is that file. -/
theorem image_of_mapping? (hb : Balanced s w.loader) (ht : w.loader.IsTidy) (hnone : s.liveAt w.loader place = 0)
    {as : List (FileTree × Action)} (hfile : ∀ a ∈ as, a.1.at? place = some (.library image)) {m : Mapping}
    (hm : (s.after w as).2.loader.mapping? place = some m) : m.image = image := by
  have hopen : (s.after w as).2.loader.IsOpen place := (isTidy_after as ht place).1 (Option.isSome_of_eq_some hm)
  obtain ⟨before, first, during, rfl, hheld⟩ := exists_heldSince hnone (((hb.after as).liveAt_pos_iff place).2 hopen)
  obtain ⟨found, image', hfirst, hmapping⟩ := mapping?_of_heldSince hb ht hheld
  have hsame := hfirst.symm.trans (hfile first (by simp))
  obtain rfl := Option.some.inj (hmapping.symm.trans hm)
  cases hsame
  rfl

end Holdings

/-- A library in the current directory. -/
def nearbyFiles : FileTree := ⟨[(["libcount.so"], .library countImage)], []⟩

/-- The library is loaded by its own name. -/
def nearbyLoad : FileTree × Action := (nearbyFiles, .load .c ⟨".//libcount.so"⟩)

theorem at?_nearby : nearbyFiles.at? ["libcount.so"] = some (.library countImage) := by cbv

/-- The library name stands beside a name, in the same directory. -/
theorem finds_nearby : Loader.Finds nearbyFiles ⟨"./count"⟩ ⟨"./libcount.so"⟩ := by
  have hname : Path.fileName? ⟨"./count"⟩ = some "count" := by decide +kernel
  have hbeside : Path.withFileName ⟨"./count"⟩ (Loader.decorate "count") = ⟨"./libcount.so"⟩ := by decide +kernel
  rw [← hbeside]
  refine .beside (by cbv) hname ?_
  rw [hbeside]
  cbv

end PluginHost
