import PluginHost.Proofs.Native.Holdings

/-!
# What comes into memory and leaves it

Loading brings files into memory (`Manager.grows_load`), several at once and perhaps some of them only for a while
(`Manager.loadEntries_turns`), and the end of plugins, handles and values removes them (`Owner.shrinks_drop`).
-/

namespace PluginHost

open Native

/-! ## Closing -/

theorem Plugin.shrinks_close (p : Plugin) {w : World} (ht : w.loader.IsTidy) :
    w.loader.Shrinks (p.close.run w).2.loader := by
  rcases p.run_close w with ⟨h, -, hl⟩ | ⟨-, hl⟩ <;> rw [hl]
  · exact ht.shrinks_release h
  · exact .refl ht

theorem Owner.shrinks_drop (o : Owner) {w : World} (ht : w.loader.IsTidy) :
    w.loader.Shrinks (o.drop.run w).2.loader := by
  rcases o.run_drop w with ⟨h, -, hl⟩ | ⟨-, hl⟩ <;> rw [hl]
  · exact ht.shrinks_release h
  · exact .refl ht

/-! ## Loading -/

theorem SharedLibrary.grows_open (path : Path) {w : World} (ht : w.loader.IsTidy) :
    w.loader.Grows w.files ((SharedLibrary.open path).run w).2.loader := by
  cases hi : Loader.inspect w.files path with
  | error e =>
    obtain ⟨_, hrun⟩ := run_open_error hi
    rw [hrun]
    exact .refl _ ht
  | ok r =>
    obtain ⟨found, place, image⟩ := r
    obtain ⟨_, hrun⟩ := run_open_ok hi
    rw [hrun]
    exact ht.grows_add hi

namespace Manager

variable (m : Manager) {w : World}

theorem grows_loadNative (linkage : Linkage) (path : Path) (ht : w.loader.IsTidy) :
    w.loader.Grows w.files ((m.loadNative linkage path).run w).2.loader := by
  cases hi : Loader.inspect w.files path with
  | error e =>
    obtain ⟨_, hrun⟩ := m.loadNative_error w hi linkage
    rw [hrun]
    exact .refl _ ht
  | ok r =>
    obtain ⟨found, place, image⟩ := r
    obtain ⟨_, hrun⟩ := m.loadNative_ok w hi linkage
    rw [hrun]
    exact (ht.grows_add hi).retain _

/-- Loading a plugin opens its library, if it has one. -/
theorem grows_load (kind : PluginKind) (path : Path) (ht : w.loader.IsTidy) :
    w.loader.Grows w.files ((m.load kind path).run w).2.loader := by
  rw [run_load]
  cases kind with
  | c => exact m.grows_loadNative (w := w.reportLoading) .direct path ht
  | cpp => exact m.grows_loadNative (w := w.reportLoading) .alias path ht
  | lua =>
    have hloader : ((m.loadQuietly .lua path).run w.reportLoading).2.loader = w.loader :=
      m.leaves_loadLua path w.reportLoading
    rw [hloader]
    exact .refl _ ht
  | python =>
    have hloader : ((m.loadQuietly .python path).run w.reportLoading).2.loader = w.loader :=
      m.leaves_loadPython path w.reportLoading
    rw [hloader]
    exact .refl _ ht
  | noop => exact .refl _ ht

theorem grows_loadOrNoop (kind : PluginKind) (path : Path) (ht : w.loader.IsTidy) :
    w.loader.Grows w.files ((m.loadOrNoop kind path).run w).2.loader := by
  have hload := m.grows_load kind path ht
  unfold loadOrNoop
  rw [StateT.run_bind]
  rcases h : (m.load kind path).run w with ⟨⟨e | p, m'⟩, w'⟩ <;> rw [h] at hload <;> exact hload

theorem Loads.files {kind : PluginKind} {path : Path} {r : Except LoadError Plugin} {m' : Manager} {w' : World}
    (h : m.Loads w kind path r m' w') : w'.files = w.files := by
  cases h <;> assumption

/-- An entry is loaded as its plugin is, and then something is reported. -/
theorem loadEntry_leaves (w : World) (c : Manifest.Config) (e : Manifest.Entry) :
    ((m.loadEntry c e).run w).2.loader = ((m.load e.kind (entryPath c e)).run w).2.loader ∧
      ((m.loadEntry c e).run w).2.files = w.files := by
  rw [← (m.loads w e.kind (entryPath c e)).files]
  unfold loadEntry
  rw [StateT.run_bind]
  rcases (m.load e.kind (entryPath c e)).run w with ⟨⟨cause | p, m'⟩, w'⟩
  · by_cases ho : e.optional
    · simp only [ho, if_true]
      exact ⟨rfl, rfl⟩
    · simp only [ho]
      exact ⟨rfl, rfl⟩
  · exact ⟨rfl, rfl⟩

theorem shrinks_closeAll (ps : List ConfiguredPlugin) : ∀ {w : World}, w.loader.IsTidy →
    w.loader.Shrinks ((ConfiguredPlugin.closeAll ps).run w).2.loader := by
  induction ps with
  | nil => exact fun ht => .refl ht
  | cons p ps ih =>
    intro w ht
    have hfirst := p.plugin.shrinks_close ht
    exact hfirst.trans (ih hfirst.isTidy)

/-- Loading several plugins opens libraries; if one fails, those that were loaded before it are closed. -/
theorem loadEntries_turns (c : Manifest.Config) (es : List Manifest.Entry) : ∀ (m : Manager) {w : World}
    (loaded : List ConfiguredPlugin), w.loader.IsTidy →
    ∃ l, w.loader.Grows w.files l ∧ l.Shrinks ((m.loadEntries c loaded es).run w).2.loader := by
  induction es with
  | nil => exact fun m w loaded ht => ⟨_, .refl _ ht, .refl ht⟩
  | cons e es ih =>
    intro m w loaded ht
    obtain ⟨hloader, hfiles⟩ := m.loadEntry_leaves w c e
    have hgrows := m.grows_load e.kind (entryPath c e) ht
    rw [← hloader] at hgrows
    rw [loadEntries, StateT.run_bind]
    rcases h : (m.loadEntry c e).run w with ⟨⟨cause | p, m'⟩, w'⟩ <;> rw [h] at hgrows hfiles
    · exact ⟨_, hgrows, shrinks_closeAll loaded hgrows.isTidy⟩
    · obtain ⟨l, hmore, hless⟩ := ih m' (w := w') (loaded ++ [p]) hgrows.isTidy
      exact ⟨l, hgrows.trans (hfiles ▸ hmore), hless⟩

end Manager

end PluginHost
