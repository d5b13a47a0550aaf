import PluginHost.CommandLine.Tasks
import PluginHost.Proofs.Loading

/-!
# What is reported of each file

Checking loads files one after another and ends each plugin at once; only the manager still has the libraries open. What is
reported of a file is decided by the file (`reportOf`), not by what was loaded before it. So reports are made path by path
(`check_reports`), and the command fails if a report says that a plugin did not load.
-/

namespace PluginHost

open Native

/-! ## What checking leaves alone -/

theorem SharedLibrary.files_release (h : Handle) (w : World) : ((release h).run w).2.files = w.files := by
  show (StateT.run (do
    if w.loader.handleCount h = 1 then Host.emit .debug eventTarget "closing shared library"
    Host.modifyLoader (·.release h) : Host Unit) w).2.files = _
  split <;> rfl

theorem Plugin.files_close (p : Plugin) (w : World) : (p.close.run w).2.files = w.files := by
  cases p with
  | native q =>
    have hclose : ((Plugin.native q).close.run w).2.files = (q.unload.run w).2.files := rfl
    rw [hclose, NativePlugin.unload]
    cases q.library with
    | none => rfl
    | some h => exact SharedLibrary.files_release h w
  | python q => exact (Host.Follows.carries.finish q.interpreter w w rfl).2
  | lua _ | noop => rfl

/-- Only a native plugin without a handle is not loaded. -/
theorem Plugin.isLoaded_of_handle? {p : Plugin} (h : p.kind.isNative → p.handle?.isSome) : p.isLoaded := by
  cases p with
  | native q => cases q with | mk linkage library => cases linkage <;> exact h rfl
  | lua _ | python _ | noop => rfl

namespace CommandLine

/-- What is reported of a path, if only the files count. -/
def reportOf (files : FileTree) (kind : Option PluginKind) (path : Path) : LoadReport :=
  match kind.or (PluginKind.ofPath? path) with
  | none => ⟨path, none, false, some "cannot guess the plugin kind; pass --kind"⟩
  | some k => match ({} : Manager).failure? files k path with
    | none => ⟨path, some k, true, none⟩
    | some e => ⟨path, some k, false, some e.message⟩

/-- A plugin that loads is reported and ends. -/
theorem run_loaded {p : Plugin} (hp : p.isLoaded) (path : Path) (k : PluginKind) (m : Manager) (w : World) :
    ∃ w', (do p.close; return (⟨path, some k, p.isLoaded, none⟩, m) : Host (LoadReport × Manager)).run w =
      ((⟨path, some k, true, none⟩, m), w') ∧ w'.files = w.files := by
  rw [hp]
  exact ⟨_, rfl, p.files_close w⟩

/-- A manager that keeps any libraries reports of a path what the files say, which stay as they are. -/
theorem run_checkPath (retained : List Handle) (kind : Option PluginKind) (path : Path) (w : World) :
    ∃ retained' w', (checkPath { retained } kind path).run w =
      ((reportOf w.files kind path, { retained := retained' }), w') ∧ w'.files = w.files := by
  unfold checkPath reportOf
  cases kind.or (PluginKind.ofPath? path) with
  | none => exact ⟨retained, w, rfl, rfl⟩
  | some k =>
    have hloads := ({ retained } : Manager).loads w k path
    have hfailure := Manager.failure?_retained (m := {}) retained w.files k path
    dsimp only
    rw [StateT.run_bind]
    rcases hload : (({ retained } : Manager).load k path).run w with ⟨⟨r, m⟩, w₁⟩
    rw [hload] at hloads
    dsimp only at hloads
    cases hloads with
    | failed he hfiles =>
      rw [← hfailure, he]
      exact ⟨retained, w₁, rfl, hfiles⟩
    | native hnone _ _ hhandle _ hfiles =>
      have hloaded := Plugin.isLoaded_of_handle? fun _ => Option.isSome_of_eq_some hhandle
      obtain ⟨w', hrun, hclosed⟩ := run_loaded hloaded path k { retained := retained ++ [w.loader.next] } w₁
      rw [← hfailure, hnone]
      exact ⟨_, w', hrun, hclosed.trans hfiles⟩
    | other hnone hkind hp _ hfiles =>
      have hloaded := Plugin.isLoaded_of_handle? fun hnative => by rw [hp, hkind] at hnative; cases hnative
      obtain ⟨w', hrun, hclosed⟩ := run_loaded hloaded path k { retained } w₁
      rw [← hfailure, hnone]
      exact ⟨retained, w', hrun, hclosed.trans hfiles⟩

/-- The reports on several paths are those on each. -/
theorem run_checkPaths (kind : Option PluginKind) : ∀ (paths : List Path) (retained : List Handle) (w : World),
    ((checkPaths { retained } kind paths).run w).1.1 = paths.map (reportOf w.files kind)
  | [], _, _ => rfl
  | path :: paths, retained, w => by
    obtain ⟨retained', w', hrun, hfiles⟩ := run_checkPath retained kind path w
    rw [checkPaths, StateT.run_bind, hrun, List.map_cons, ← hfiles, ← run_checkPaths kind paths retained' w', hfiles]
    rfl

theorem path_reportOf (files : FileTree) (kind : Option PluginKind) (path : Path) :
    (reportOf files kind path).path = path := by
  unfold reportOf
  split
  · rfl
  · split <;> rfl

theorem isLoaded_reportOf (files : FileTree) (kind : Option PluginKind) (path : Path) :
    (reportOf files kind path).isLoaded ↔ (reportOf files kind path).error = none := by
  unfold reportOf
  split
  · exact iff_of_false nofun nofun
  · split
    · exact iff_of_true rfl rfl
    · exact iff_of_false nofun nofun

/-- The reports that checking makes. -/
def reports (kind : Option PluginKind) (paths : List Path) (w : World) : List LoadReport :=
  ((checkPaths {} kind paths).run w).1.1

theorem run_check (paths : List Path) (kind : Option PluginKind) (asJson : Bool) (w : World) :
    ((check paths kind asJson).run w).1 =
      if (reports kind paths w).countP (!·.isLoaded) = 0 then .ok ()
      else .error (.of (toString ((reports kind paths w).countP (!·.isLoaded)) ++ " of " ++
        toString (reports kind paths w).length ++ " plugins failed to load")) := by
  rw [List.countP_eq_length_filter, reports, check, StateT.run_bind]
  rcases (checkPaths {} kind paths).run w with ⟨⟨rs, m⟩, w'⟩
  show (StateT.run (if (rs.filter (!·.isLoaded)).length = 0 then return .ok ()
    else return .error (.of _) : Host (Except Failure Unit)) _).1 = _
  split <;> rfl

end CommandLine

end PluginHost
