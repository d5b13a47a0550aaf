import PluginHost.Manager
import PluginHost.Proofs.Native.Keeping

/-!
# What loading depends on

Whether a plugin can be loaded, and why not, depends on the files and on the options of the manager (`Manager.failure?`),
whatever else the host has done before: `load_failed`, `load_native` and `load_script` say what loading does in any
world with those files.
-/

namespace PluginHost

open Native

namespace Host

variable {α β : Type}

/-- Whether an operation answers by the files alone, which it leaves as they are. -/
def Follows (x : Host α) : Prop :=
  ∀ w w' : World, w.files = w'.files → (x.run w).1 = (x.run w').1 ∧ (x.run w).2.files = w.files

theorem Follows.pure (a : α) : Follows (pure a : Host α) := fun _ _ _ => ⟨rfl, rfl⟩

theorem Follows.bind {x : Host α} {f : α → Host β} (hx : Follows x) (hf : ∀ a, Follows (f a)) : Follows (x >>= f) := by
  intro w w' hw
  obtain ⟨hanswer, hfiles⟩ := hx w w' hw
  have hfiles' : ((x.run w').2).files = w'.files := (hx w' w hw.symm).2
  obtain ⟨hnext, hkept⟩ := hf (x.run w).1 (x.run w).2 (x.run w').2 (by rw [hfiles, hfiles', hw])
  constructor
  · show ((f (x.run w).1).run (x.run w).2).1 = ((f (x.run w').1).run (x.run w').2).1
    rw [← hanswer, hnext]
  · exact hkept.trans hfiles

theorem Follows.carries : Carries fun _ => Follows where
  pure := .pure
  bind := .bind
  files _ _ hw := ⟨hw, rfl⟩
  emit _ _ _ _ _ _ := ⟨rfl, rfl⟩
  print text w w' _ := by
    refine ⟨rfl, ?_⟩
    show (if text = "" then w else { w with output := w.output.push text }).files = w.files
    split <;> rfl
  start options w w' hw := by
    obtain ⟨_, hrun⟩ := PythonInterpreter.run_start options w
    obtain ⟨_, hrun'⟩ := PythonInterpreter.run_start options w'
    rw [hrun, hrun', hw]
    exact ⟨rfl, rfl⟩

end Host

/-! ## Libraries -/

namespace SharedLibrary

variable (w : World)

theorem run_open_error {w : World} {p : Path} {e : LoadError} (h : Loader.inspect w.files p = .error e) :
    ∃ events, (SharedLibrary.open p).run w = (.error e, { w with events }) := by
  have hopen : w.loader.open w.files p = (.error e, w.loader) := by rw [Loader.open, h]
  unfold SharedLibrary.open
  simp only [StateT.run_bind, StateT.run_get, pure_bind, hopen]
  split
  · split
    · split
      · split <;> exact ⟨_, rfl⟩
      · exact ⟨_, rfl⟩
    · exact ⟨_, rfl⟩
  · exact ⟨_, rfl⟩

theorem run_open_ok {w : World} {p : Path} {found : Path} {place : Place} {image : Image}
    (h : Loader.inspect w.files p = .ok (found, place, image)) : ∃ events,
    (SharedLibrary.open p).run w = (.ok w.loader.next, { w with events, loader := w.loader.add found place image }) := by
  have hopen : w.loader.open w.files p = (.ok w.loader.next, w.loader.add found place image) := by rw [Loader.open, h]
  unfold SharedLibrary.open
  simp only [StateT.run_bind, StateT.run_get, pure_bind, hopen]
  exact ⟨_, rfl⟩

/-- Opening a library gives a new handle or changes nothing. -/
theorem run_open (p : Path) : (∃ e, ((SharedLibrary.open p).run w).1 = .error e ∧
      ((SharedLibrary.open p).run w).2.loader = w.loader) ∨
    ∃ found place image, ((SharedLibrary.open p).run w).1 = .ok w.loader.next ∧
      ((SharedLibrary.open p).run w).2.loader = w.loader.add found place image := by
  cases hi : Loader.inspect w.files p with
  | error e =>
    obtain ⟨_, hrun⟩ := run_open_error hi
    exact .inl ⟨e, by rw [hrun], by rw [hrun]⟩
  | ok r =>
    obtain ⟨found, place, image⟩ := r
    obtain ⟨_, hrun⟩ := run_open_ok hi
    exact .inr ⟨found, place, image, by rw [hrun], by rw [hrun]⟩

end SharedLibrary

/-! ## Plugins -/

/-- The world in which it has been reported that a plugin is being loaded. -/
def World.reportLoading (w : World) : World :=
  { w with events := w.events.push ⟨.debug, Manager.eventTarget, "loading plugin"⟩ }

/-- Only native plugins have handles. -/
theorem Plugin.handle?_of_kind {p : Plugin} (h : p.kind.isNative = false) : p.handle? = none := by
  cases p with
  | native q => cases q with | mk linkage library => cases linkage <;> cases h
  | lua _ | python _ | noop => rfl

namespace Manager

variable (m : Manager) (w : World)

theorem loadNative_error {path : Path} {e : LoadError} (h : Loader.inspect w.files path = .error e) (linkage : Linkage) :
    ∃ events, (m.loadNative linkage path).run w = ((.error e, m), { w with events }) := by
  obtain ⟨events, hrun⟩ := SharedLibrary.run_open_error h
  refine ⟨events, ?_⟩
  unfold loadNative openLibrary
  rw [StateT.run_bind, StateT.run_bind, hrun]
  rfl

/-- The manager and the plugin share the handle to the new opening. -/
theorem loadNative_ok {path found : Path} {place : Place} {image : Image}
    (h : Loader.inspect w.files path = .ok (found, place, image)) (linkage : Linkage) :
    ∃ events, (m.loadNative linkage path).run w =
      ((.ok (.native ⟨linkage, some w.loader.next⟩), { m with retained := m.retained ++ [w.loader.next] }),
        { w with events, loader := (w.loader.add found place image).retain w.loader.next }) := by
  obtain ⟨events, hrun⟩ := SharedLibrary.run_open_ok h
  refine ⟨events, ?_⟩
  unfold loadNative openLibrary
  rw [StateT.run_bind, StateT.run_bind, hrun]
  rfl

/-- The kind decides how a plugin is loaded, once that has been reported. -/
theorem run_load (kind : PluginKind) (path : Path) :
    (m.load kind path).run w = (m.loadQuietly kind path).run w.reportLoading := rfl

/-- Why loading fails, if it does: what it says in a world with the files and nothing else. -/
def failure? (files : FileTree) (kind : PluginKind) (path : Path) : Option LoadError :=
  match ((m.load kind path).run { files }).1.1 with
  | .ok _ => none
  | .error e => some e

variable {m w} {kind : PluginKind} {path : Path}

/-- What a native plugin says of its file. -/
theorem failure?_native (m : Manager) (files : FileTree) (hkind : kind.isNative) (path : Path) :
    m.failure? files kind path = match Loader.inspect files path with
      | .ok _ => none
      | .error e => some e := by
  have hnative (linkage : Linkage) : (match ((m.loadNative linkage path).run (World.reportLoading { files })).1.1 with
      | .ok _ => none
      | .error e => some e) = match Loader.inspect files path with
      | .ok _ => none
      | .error e => some e := by
    cases hi : Loader.inspect files path with
    | error e =>
      obtain ⟨_, hrun⟩ := m.loadNative_error (World.reportLoading { files }) hi linkage
      rw [hrun]
    | ok r =>
      obtain ⟨_, hrun⟩ := m.loadNative_ok (World.reportLoading { files }) hi linkage
      rw [hrun]
  cases kind with
  | c => exact hnative .direct
  | cpp => exact hnative .alias
  | lua | python | noop => cases hkind

/-- The handles that a manager keeps do not matter. -/
theorem failure?_retained (retained : List Handle) (files : FileTree) (kind : PluginKind) (path : Path) :
    ({ m with retained } : Manager).failure? files kind path = m.failure? files kind path := by
  cases kind with
  | c => rw [failure?_native _ _ rfl, failure?_native _ _ rfl]
  | cpp => rw [failure?_native _ _ rfl, failure?_native _ _ rfl]
  | lua => rfl
  | python => rfl
  | noop => rfl

/-- What loading does: in every world with the same files it fails for the same reason, if it fails, and changes
nothing then. A native plugin that is loaded has a handle to a new opening of its library, and so has the manager; any
other plugin opens nothing. -/
inductive Loads (m : Manager) (w : World) (kind : PluginKind) (path : Path) :
    Except LoadError Plugin → Manager → World → Prop
  | failed {e : LoadError} {w' : World} (he : m.failure? w.files kind path = some e) (hfiles : w'.files = w.files)
      (hl : w.loader.SameOpenings w'.loader) :
    Loads m w kind path (.error e) m w'
  | native {p : Plugin} {found : Path} {place : Place} {image : Image} {w' : World}
      (hnone : m.failure? w.files kind path = none) (hkind : kind.isNative) (hp : p.kind = kind)
      (hhandle : p.handle? = some w.loader.next) (hi : Loader.inspect w.files path = .ok (found, place, image))
      (hfiles : w'.files = w.files) (hl : w'.loader = (w.loader.add found place image).retain w.loader.next) :
    Loads m w kind path (.ok p) { m with retained := m.retained ++ [w.loader.next] } w'
  | other {p : Plugin} {w' : World} (hnone : m.failure? w.files kind path = none) (hkind : kind.isNative = false)
      (hp : p.kind = kind) (hhandle : p.handle? = none) (hfiles : w'.files = w.files)
      (hl : w.loader.SameOpenings w'.loader) :
    Loads m w kind path (.ok p) m w'

theorem loads_native (hkind : kind.isNative) (linkage : Linkage)
    (hload : (m.load kind path).run w = (m.loadNative linkage path).run w.reportLoading)
    (hlinkage : ∀ library, (Plugin.native ⟨linkage, library⟩).kind = kind) :
    m.Loads w kind path ((m.load kind path).run w).1.1 ((m.load kind path).run w).1.2 ((m.load kind path).run w).2 := by
  have hfailure := m.failure?_native w.files hkind path
  rw [hload]
  cases hi : Loader.inspect w.files path with
  | error e =>
    obtain ⟨_, hrun⟩ := m.loadNative_error w.reportLoading hi linkage
    rw [hrun]
    rw [hi] at hfailure
    exact .failed hfailure rfl (.refl _)
  | ok r =>
    obtain ⟨found, place, image⟩ := r
    obtain ⟨_, hrun⟩ := m.loadNative_ok w.reportLoading hi linkage
    rw [hrun]
    rw [hi] at hfailure
    exact .native hfailure hkind (hlinkage _) rfl hi rfl rfl

theorem leaves_loadLua (m : Manager) (path : Path) : Host.Leaves (m.loadLua path) :=
  .bind (Host.Leaves.carries.loadLua path m.lua) fun _ => .pure _

theorem leaves_loadPython (m : Manager) (path : Path) : Host.Leaves (m.loadPython path) :=
  .bind (Host.Leaves.carries.loadPython path m.python) fun _ => .pure _

theorem loads_script {x : Host (Except LoadError Plugin)} (hkind : kind.isNative = false) (hleaves : Host.Leaves x)
    (hfollows : Host.Follows x) (hp : ∀ w p, (x.run w).1 = .ok p → p.kind = kind)
    (hload : ∀ w, (m.load kind path).run w = (((x.run w.reportLoading).1, m), (x.run w.reportLoading).2)) :
    m.Loads w kind path ((m.load kind path).run w).1.1 ((m.load kind path).run w).1.2 ((m.load kind path).run w).2 := by
  have hkept : w.loader.SameOpenings (x.run w.reportLoading).2.loader := by
    rw [hleaves w.reportLoading]
    exact .refl w.loader
  obtain ⟨hanswer, -⟩ := hfollows (World.reportLoading { files := w.files }) w.reportLoading rfl
  obtain ⟨-, hfiles⟩ := hfollows w.reportLoading w.reportLoading rfl
  have hfailure : m.failure? w.files kind path = match (x.run w.reportLoading).1 with
      | .ok _ => none
      | .error e => some e := by
    rw [failure?, hload, hanswer]
  rw [hload]
  cases hx : (x.run w.reportLoading).1 with
  | error e => exact .failed (by rw [hfailure, hx]) hfiles hkept
  | ok p =>
    have hpkind := hp _ _ hx
    exact .other (by rw [hfailure, hx]) hkind hpkind (Plugin.handle?_of_kind (hpkind ▸ hkind)) hfiles hkept

theorem kind_of_map {α : Type} (make : α → Plugin) (hmake : ∀ a, (make a).kind = kind) {r : Except LoadError α}
    {p : Plugin} (h : r.map make = .ok p) : p.kind = kind := by
  cases r with
  | error e => cases h
  | ok a =>
    cases h
    exact hmake a

theorem loads (m : Manager) (w : World) (kind : PluginKind) (path : Path) :
    m.Loads w kind path ((m.load kind path).run w).1.1 ((m.load kind path).run w).1.2 ((m.load kind path).run w).2 := by
  cases kind with
  | c => exact loads_native rfl .direct rfl fun _ => rfl
  | cpp => exact loads_native rfl .alias rfl fun _ => rfl
  | lua =>
    have hfollows : Host.Follows (m.loadLua path) := .bind (Host.Follows.carries.loadLua path m.lua) fun _ => .pure _
    exact loads_script rfl (m.leaves_loadLua path) hfollows (fun _ _ h => kind_of_map .lua (fun _ => rfl) h) fun _ => rfl
  | python =>
    have hfollows : Host.Follows (m.loadPython path) :=
      .bind (Host.Follows.carries.loadPython path m.python) fun _ => .pure _
    exact loads_script rfl (m.leaves_loadPython path) hfollows (fun _ _ h => kind_of_map .python (fun _ => rfl) h) fun _ => rfl
  | noop => exact .other rfl rfl rfl rfl rfl (.refl _)

end Manager

end PluginHost
