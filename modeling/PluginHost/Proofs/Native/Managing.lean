import PluginHost.Proofs.Loading
import PluginHost.Proofs.Native.Writing

/-!
# What opens and closes libraries

What a manager does to the openings of libraries, operation by operation. Loading a plugin goes one of two ways
(`Manager.LoadCourse`): a native plugin shares the handle to a new opening with the manager, and nothing is opened
otherwise. Handles are given up by `Manager.releaseUnused`, by unloading and at the end of a plugin.
-/

namespace PluginHost

open Native

/-! ## Releasing several handles -/

namespace SharedLibrary

variable (w : World)

theorem loader_release (h : Handle) : ((release h).run w).2.loader = w.loader.release h := by
  show (StateT.run (do
    if w.loader.handleCount h = 1 then Host.emit .debug eventTarget "closing shared library"
    Host.modifyLoader (·.release h) : Host Unit) w).2.loader = _
  split <;> rfl

theorem loader_releaseAll (hs : List Handle) : ∀ w : World, ((hs.forM release).run w).2.loader =
    hs.foldl (fun l h => l.release h) w.loader := by
  induction hs with
  | nil => exact fun _ => rfl
  | cons h hs ih =>
    intro w
    rw [List.foldl_cons, ← loader_release]
    exact ih _

end SharedLibrary

/-! ## What the manager does -/

/-- How loading a plugin goes: a native plugin shares the handle to a new opening with the manager, and whatever else
happens opens nothing. -/
inductive Manager.LoadCourse (m : Manager) (l : Loader) : Except LoadError Plugin → Manager → Loader → Prop
  | native {p : Plugin} {found : Path} {place : Place} {image : Image} (hp : p.handle? = some l.next) :
    LoadCourse m l (.ok p) { m with retained := m.retained ++ [l.next] } ((l.add found place image).retain l.next)
  | other {r : Except LoadError Plugin} {l' : Loader} (hr : ∀ p, r = .ok p → p.handle? = none)
      (hl : l.SameOpenings l') :
    LoadCourse m l r m l'

namespace Manager

/-- Loading that fails leaves everything as it was. -/
theorem LoadCourse.of_error {m m' : Manager} {l l' : Loader} {e : LoadError} (hc : m.LoadCourse l (.error e) m' l') :
    m' = m ∧ l.SameOpenings l' := by
  cases hc with
  | other _ hl => exact ⟨rfl, hl⟩

theorem LoadCourse.of_ok {m m' : Manager} {l l' : Loader} {p : Plugin} (hc : m.LoadCourse l (.ok p) m' l') :
    (p.handle? = some l.next ∧ m' = { m with retained := m.retained ++ [l.next] } ∧
      ∃ found place image, l' = (l.add found place image).retain l.next) ∨
    p.handle? = none ∧ m' = m ∧ l.SameOpenings l' := by
  cases hc with
  | native hp => exact .inl ⟨hp, rfl, _, _, _, rfl⟩
  | other hr hl => exact .inr ⟨hr p rfl, rfl, hl⟩

variable (m : Manager) (w : World)

theorem Loads.course {kind : PluginKind} {path : Path} {r : Except LoadError Plugin} {m' : Manager} {w' : World}
    (h : m.Loads w kind path r m' w') : m.LoadCourse w.loader r m' w'.loader := by
  cases h with
  | failed _ _ hl => exact .other nofun hl
  | native _ _ _ hhandle _ _ hl => exact hl ▸ .native hhandle
  | other _ _ _ hhandle _ hl =>
    refine .other (fun p hp => ?_) hl
    cases hp
    exact hhandle

theorem load_course (kind : PluginKind) (path : Path) : m.LoadCourse w.loader
    ((m.load kind path).run w).1.1 ((m.load kind path).run w).1.2 ((m.load kind path).run w).2.loader :=
  (m.loads w kind path).course

/-- An entry is loaded as its plugin is, and nothing is there instead if it is optional. -/
theorem loadEntry_course (c : Manifest.Config) (e : Manifest.Entry) :
    match (m.loadEntry c e).run w with
    | ((.ok p, m'), w') => m.LoadCourse w.loader (.ok p.plugin) m' w'.loader
    | ((.error _, m'), w') => m' = m ∧ w.loader.SameOpenings w'.loader := by
  have hload := m.load_course w e.kind (entryPath c e)
  unfold loadEntry
  rw [StateT.run_bind]
  rcases h : (m.load e.kind (entryPath c e)).run w with ⟨⟨cause | p, m'⟩, w'⟩ <;> rw [h] at hload
  · obtain ⟨rfl, hl⟩ := hload.of_error
    by_cases ho : e.optional
    · simp only [ho, if_true]
      refine .other (fun p hp => ?_) hl
      cases hp
      rfl
    · simp only [ho]
      exact ⟨rfl, hl⟩
  · exact hload

/-- The handles that the manager gives up: those that nobody shares. -/
def unused (l : Loader) : List Handle := m.retained.filter fun h => !decide (1 < l.handleCount h)

theorem run_releaseUnused : (m.releaseUnused.run w).1 = ((m.unused w.loader).length,
      { m with retained := m.retained.filter fun h => decide (1 < w.loader.handleCount h) }) ∧
    (m.releaseUnused.run w).2.loader = (m.unused w.loader).foldl (fun l h => l.release h) w.loader := by
  have hrun : m.releaseUnused.run w = (do
      (m.unused w.loader).forM SharedLibrary.release
      if m.unused w.loader ≠ [] then Host.emit .debug eventTarget "released unused plugin libraries"
      return ((m.unused w.loader).length,
        { m with retained := m.retained.filter fun h => decide (1 < w.loader.handleCount h) }) :
        Host (Nat × Manager)).run w := by
    unfold releaseUnused
    simp only [List.partition_eq_filter_filter]
    rfl
  rw [← SharedLibrary.loader_releaseAll, hrun, StateT.run_bind]
  split <;> exact ⟨rfl, rfl⟩

theorem loadOrNoop_course (kind : PluginKind) (path : Path) : m.LoadCourse w.loader
    (.ok ((m.loadOrNoop kind path).run w).1.1) ((m.loadOrNoop kind path).run w).1.2
    ((m.loadOrNoop kind path).run w).2.loader := by
  have hload := m.load_course w kind path
  unfold loadOrNoop
  rw [StateT.run_bind]
  rcases h : (m.load kind path).run w with ⟨⟨e | p, m'⟩, w'⟩ <;> rw [h] at hload
  · obtain ⟨rfl, hl⟩ := hload.of_error
    refine .other (fun p hp => ?_) hl
    cases hp
    rfl
  · exact hload

end Manager

/-! ## What plugins do -/

namespace NativePlugin

variable (p : NativePlugin) (w : World)

/-- A result is bound by sharing the handle of the plugin. -/
theorem run_callBound (name : String) (args : List Datum) (result : Ty) :
    (∃ e, ((p.callBound name args result).run w).1 = .error e ∧
      w.loader.SameOpenings ((p.callBound name args result).run w).2.loader) ∨
    ∃ b l, ((p.callBound name args result).run w).1 = .ok b ∧ p.library = some b.library ∧ w.loader.SameOpenings l ∧
      ((p.callBound name args result).run w).2.loader = l.retain b.library := by
  have hkeeps : w.loader.SameOpenings ((p.call name args result).run w).2.loader := by
    rw [p.loader_call]
    exact w.loader.sameOpenings_writeAny _
  unfold callBound
  rw [StateT.run_bind]
  rcases hcall : (p.call name args result).run w with ⟨e | d, w'⟩ <;> rw [hcall] at hkeeps
  · exact .inl ⟨e, rfl, hkeeps⟩
  · cases hl : p.library with
    | none => exact .inl ⟨_, rfl, hkeeps⟩
    | some h => exact .inr ⟨⟨d, h⟩, w'.loader, rfl, rfl, hkeeps, rfl⟩

theorem run_unload : (p.unload.run w).1 = { p with library := none } ∧ (p.unload.run w).2.loader =
    match p.library with
    | none => w.loader
    | some h => w.loader.release h := by
  unfold unload
  cases p.library with
  | none => exact ⟨rfl, rfl⟩
  | some h => exact ⟨rfl, SharedLibrary.loader_release w h⟩

end NativePlugin

/-- The end of a plugin gives up its handle. -/
theorem Plugin.run_close (p : Plugin) (w : World) : (∃ h, p.handle? = some h ∧
      (p.close.run w).2.loader = w.loader.release h) ∨
    p.handle? = none ∧ (p.close.run w).2.loader = w.loader := by
  cases p with
  | native q =>
    have hloader : ((Plugin.native q).close.run w).2.loader = (q.unload.run w).2.loader := rfl
    rw [hloader, (q.run_unload w).2]
    cases hl : q.library with
    | none => exact .inr ⟨hl, rfl⟩
    | some h => exact .inl ⟨h, hl, rfl⟩
  | python q => exact .inr ⟨rfl, Host.Leaves.carries.finish q.interpreter w⟩
  | lua q => exact .inr ⟨rfl, rfl⟩
  | noop => exact .inr ⟨rfl, rfl⟩

end PluginHost
