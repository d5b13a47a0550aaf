import PluginHost.Proofs.Loading

/-!
# Files that are not there

A path leads nowhere for one of a few reasons (`FileTree.Absence`), and which one it is decides how the system words it
(`locate_eq_error_iff`). The kinds of plugins disagree about the reasons: native plugins ask whether a file is there and
say `fileNotFound` for all of them, whereas scripts are read at once and say so only where a name is missing in a
directory (`load_missing`). A path through a plain file is one on which they differ (`load_through_file`).
-/

namespace PluginHost

/-! ## Walks -/

namespace FileTree

variable (t : FileTree)

/-- One step of a walk. -/
def step (here : Place) (part : String) : Except FileError Place :=
  match t.at? here with
  | some .directory =>
    if part = "" ∨ part = "." then .ok here
    else if part = ".." then .ok here.dropLast
    else if nameLimit < part.utf8ByteSize then .error .nameTooLong
    else if (t.at? (here ++ [part])).isSome then .ok (here ++ [part])
    else .error .notFound
  | some _ => .error .notADirectory
  | none => .error .notFound

theorem walk_cons (here : Place) (part : String) (rest : List String) :
    t.walk here (part :: rest) = t.step here part >>= fun there => t.walk there rest := by
  rw [walk, step]
  rcases t.at? here with _ | (_ | _ | _) <;> dsimp only <;> try rfl
  split
  · rfl
  · split
    · rfl
    · split
      · rfl
      · cases t.at? (here ++ [part]) <;> rfl

/-- Whether a part is the name of something in a directory. -/
def IsName (part : String) : Prop := part ≠ "" ∧ part ≠ "." ∧ part ≠ ".."

/-- Why a walk that got to a place does not go on with a part. -/
inductive Obstacle (here : Place) (part : String) : FileError → Prop
  /-- The place is gone. Only the current directory can be. -/
  | gone (hhere : t.at? here = none) : Obstacle here part .notFound
  | plainFile {n : Node} (hhere : t.at? here = some n) (hn : n ≠ .directory) : Obstacle here part .notADirectory
  | longName (hhere : t.at? here = some .directory) (hpart : IsName part) (hlong : nameLimit < part.utf8ByteSize) :
    Obstacle here part .nameTooLong
  | noSuchName (hhere : t.at? here = some .directory) (hpart : IsName part) (hshort : part.utf8ByteSize ≤ nameLimit)
      (hthere : t.at? (here ++ [part]) = none) :
    Obstacle here part .notFound

variable {t}

theorem step_eq_error_iff {here : Place} {part : String} {e : FileError} :
    t.step here part = .error e ↔ t.Obstacle here part e := by
  constructor
  · intro h
    rw [step] at h
    split at h
    · next hhere =>
      split at h
      · cases h
      · next hdot =>
        split at h
        · cases h
        · next hup =>
          have hpart : IsName part := ⟨fun he => hdot (.inl he), fun he => hdot (.inr he), hup⟩
          split at h
          · next hlong =>
            cases h
            exact .longName hhere hpart hlong
          · next hshort =>
            split at h
            · cases h
            · next hthere =>
              cases h
              exact .noSuchName hhere hpart (Nat.le_of_not_lt hshort) (Option.not_isSome_iff_eq_none.mp hthere)
    · next n hn hhere =>
      cases h
      exact .plainFile hhere hn
    · next hhere =>
      cases h
      exact .gone hhere
  · intro h
    cases h with
    | gone hhere => rw [step, hhere]
    | @plainFile n hhere hn =>
      rw [step, hhere]
      cases n with
      | directory => exact absurd rfl hn
      | file _ => rfl
      | library _ => rfl
    | longName hhere hpart hlong =>
      rw [step, hhere]
      simp only [hpart.1, hpart.2.1, hpart.2.2, or_self, if_false, if_pos hlong]
    | noSuchName hhere hpart hshort hthere =>
      rw [step, hhere]
      simp only [hpart.1, hpart.2.1, hpart.2.2, or_self, if_false, if_neg (Nat.not_lt.mpr hshort), hthere,
        Option.isSome_none, Bool.false_eq_true]

/-- A walk fails at the first part that it cannot go on with. -/
theorem walk_eq_error_iff {parts : List String} {e : FileError} : ∀ {here : Place}, t.walk here parts = .error e ↔
    ∃ before part after there, parts = before ++ part :: after ∧ t.walk here before = .ok there ∧
      t.Obstacle there part e := by
  induction parts with
  | nil => simp [walk]
  | cons part parts ih =>
    intro here
    rw [walk_cons]
    rcases hstep : t.step here part with cause | there
    · constructor
      · intro h
        cases h
        exact ⟨[], part, parts, here, rfl, rfl, step_eq_error_iff.mp hstep⟩
      · rintro ⟨before, stuck, after, there, hparts, hwalk, hob⟩
        rcases before with _ | ⟨_, before⟩
        · obtain ⟨rfl, -⟩ := List.cons.inj hparts
          cases hwalk
          rw [← hstep, step_eq_error_iff.mpr hob]
          rfl
        · obtain ⟨rfl, -⟩ := List.cons.inj hparts
          rw [walk_cons, hstep] at hwalk
          cases hwalk
    · refine ih.trans ⟨?_, ?_⟩
      · rintro ⟨before, stuck, after, last, rfl, hwalk, hob⟩
        exact ⟨part :: before, stuck, after, last, rfl, by rw [walk_cons, hstep]; exact hwalk, hob⟩
      · rintro ⟨before, stuck, after, last, hparts, hwalk, hob⟩
        rcases before with _ | ⟨_, before⟩
        · obtain ⟨rfl, -⟩ := List.cons.inj hparts
          cases hwalk
          rw [step_eq_error_iff.mpr hob] at hstep
          cases hstep
        · obtain ⟨rfl, rfl⟩ := List.cons.inj hparts
          rw [walk_cons, hstep] at hwalk
          exact ⟨before, stuck, after, last, rfl, hwalk, hob⟩

/-! ## Paths -/

variable (t) in
/-- Why a path leads nowhere, and how the system says so. -/
inductive Absence (p : Path) : FileError → Prop
  /-- A path with a NUL never reaches the system. -/
  | nul (hnul : p.text.contains '\x00' = true) : Absence p .nulInName
  | empty (hempty : p.text = "") : Absence p .notFound
  | longPath (hnul : p.text.contains '\x00' = false) (hlong : pathLimit < p.text.utf8ByteSize) : Absence p .nameTooLong
  /-- The walk gets to a place and not on from there. -/
  | stuck {before after : List String} {part : String} {there : Place} {e : FileError}
      (hnul : p.text.contains '\x00' = false) (hsome : p.text ≠ "") (hshort : p.text.utf8ByteSize ≤ pathLimit)
      (hparts : p.pieces = before ++ part :: after)
      (hwalk : t.walk (if p.isAbsolute then [] else t.current) before = .ok there) (hob : t.Obstacle there part e) :
    Absence p e

/-- Paths that reach the system are walked. -/
theorem locate_eq_walk {p : Path} (hnul : p.text.contains '\x00' = false) (hsome : p.text ≠ "")
    (hshort : p.text.utf8ByteSize ≤ pathLimit) :
    t.locate p = t.walk (if p.isAbsolute then [] else t.current) p.pieces := by
  rw [locate, if_neg (by simp [hnul]), if_neg hsome, if_neg (Nat.not_lt.mpr hshort)]

theorem locate_eq_error_iff {p : Path} {e : FileError} : t.locate p = .error e ↔ t.Absence p e := by
  constructor
  · intro h
    rw [locate] at h
    split at h
    · next hnul =>
      cases h
      exact .nul hnul
    · next hnul =>
      have hnul : p.text.contains '\x00' = false := Bool.not_eq_true _ ▸ hnul
      split at h
      · next hempty =>
        cases h
        exact .empty hempty
      · next hsome =>
        split at h
        · next hlong =>
          cases h
          exact .longPath hnul hlong
        · next hshort =>
          obtain ⟨before, part, after, there, hparts, hwalk, hob⟩ := walk_eq_error_iff.mp h
          exact .stuck hnul hsome (Nat.le_of_not_lt hshort) hparts hwalk hob
  · intro h
    rw [locate]
    cases h with
    | nul hnul => rw [if_pos hnul]
    | empty hempty =>
      have hnul : p.text.contains '\x00' = false := by rw [hempty]; simp
      rw [if_neg (by simp [hnul]), if_pos hempty]
    | longPath hnul hlong =>
      have hsome : p.text ≠ "" := fun he => by
        rw [he] at hlong
        exact absurd hlong (by decide)
      rw [if_neg (by simp [hnul]), if_neg hsome, if_pos hlong]
    | stuck hnul hsome hshort hparts hwalk hob =>
      rw [← locate, locate_eq_walk hnul hsome hshort]
      exact walk_eq_error_iff.mpr ⟨_, _, _, _, hparts, hwalk, hob⟩

theorem exists?_eq_false_iff {p : Path} : t.exists? p = false ↔ ∃ e, t.locate p = .error e := by
  rw [exists?]
  cases t.locate p with
  | error e => exact ⟨fun _ => ⟨e, rfl⟩, fun _ => rfl⟩
  | ok there => exact ⟨nofun, nofun⟩

theorem readBytes_of_locate {p : Path} {e : FileError} (h : t.locate p = .error e) : t.readBytes p = .error e := by
  rw [readBytes, node, h]
  rfl

theorem readText_of_locate {p : Path} {e : FileError} (h : t.locate p = .error e) : t.readText p = .error e := by
  rw [readText, readBytes_of_locate h]
  rfl

/-- Only a name that is missing counts as not found; the other reasons have no load error of their own. -/
theorem Absence.ofFile {p : Path} {e : FileError} (h : t.Absence p e) :
    LoadError.ofFile e = if e = .notFound then .fileNotFound else .unknown := by
  cases h with
  | nul | empty | longPath => rfl
  | stuck _ _ _ _ _ hob => cases hob <;> rfl

end FileTree

/-! ## Loading -/

open Native

/-- No library is found if neither the path nor the library name beside it leads anywhere. -/
theorem Native.Loader.find?_missing {files : FileTree} {p : Path} (hpath : files.exists? p = false)
    (hbeside : ∀ name, p.fileName? = some name → files.exists? (p.withFileName (decorate name)) = false) :
    find? files p = none := by
  rw [find?, if_neg (by simp [hpath])]
  cases hname : p.fileName? with
  | none => rfl
  | some name => simp [hbeside name hname]

theorem Native.Loader.inspect_missing {files : FileTree} {p : Path} (h : find? files p = none) :
    inspect files p = .error .fileNotFound := by
  rw [inspect, h]

namespace Manager

variable (m : Manager) {path : Path} {w : World}

theorem loadLua_missing {e : FileError} (h : w.files.locate path = .error e) :
    ∃ events, (m.loadLua path).run w = (.error (.ofFile e), { w with events }) := by
  unfold loadLua LuaPlugin.load
  simp only [StateT.run_bind, Host.files, StateT.run_get, StateT.run_pure, pure_bind, FileTree.readBytes_of_locate h]
  exact ⟨_, rfl⟩

theorem loadPython_missing {e : FileError} (h : w.files.locate path = .error e) :
    ∃ events, (m.loadPython path).run w = (.error (.ofFile e), { w with events }) := by
  unfold loadPython PythonPlugin.load
  simp only [StateT.run_bind, Host.files, StateT.run_get, StateT.run_pure, pure_bind, FileTree.readText_of_locate h]
  exact ⟨_, rfl⟩

/-- Loading a script that is not there. -/
theorem loadQuietly_missing {e : FileError} (h : w.files.locate path = .error e) {kind : PluginKind}
    (hkind : kind = .lua ∨ kind = .python) :
    ∃ events, (m.loadQuietly kind path).run w = ((.error (.ofFile e), m), { w with events }) := by
  rcases hkind with rfl | rfl
  · obtain ⟨events, hrun⟩ := m.loadLua_missing h
    exact ⟨events, congrArg (fun r : Except LoadError Plugin × World => ((r.1, m), r.2)) hrun⟩
  · obtain ⟨events, hrun⟩ := m.loadPython_missing h
    exact ⟨events, congrArg (fun r : Except LoadError Plugin × World => ((r.1, m), r.2)) hrun⟩

/-- Why a script that is not there cannot be loaded. -/
theorem failure?_missing {files : FileTree} {e : FileError} (h : files.locate path = .error e) {kind : PluginKind}
    (hkind : kind = .lua ∨ kind = .python) : m.failure? files kind path = some (.ofFile e) := by
  obtain ⟨_, hrun⟩ := m.loadQuietly_missing (w := World.reportLoading { files }) h hkind
  rw [failure?, m.run_load, hrun]

end Manager

/-- What loading says of a path that leads nowhere. A native plugin is not found, whatever the reason. A script is only if
a name on the way is missing. Nothing but the log changes. -/
theorem load_missing (m : Manager) (kind : PluginKind) (path : Path) (w : World) (hkind : kind ≠ .noop)
    (hpath : w.files.exists? path = false)
    (hbeside : kind.isNative → ∀ name, path.fileName? = some name →
      w.files.exists? (path.withFileName (Loader.decorate name)) = false) :
    ∃ cause events, w.files.Absence path cause ∧ (m.load kind path).run w =
      ((.error (if kind.isNative ∨ cause = .notFound then .fileNotFound else .unknown), m), { w with events }) := by
  obtain ⟨cause, hcause⟩ := FileTree.exists?_eq_false_iff.mp hpath
  have habsent := FileTree.locate_eq_error_iff.mp hcause
  have hinspect (hnative : kind.isNative) := Loader.inspect_missing (Loader.find?_missing hpath (hbeside hnative))
  rw [m.run_load]
  have hscript (hk : kind = .lua ∨ kind = .python) (hn : ¬ kind.isNative) :
      ∃ cause events, w.files.Absence path cause ∧ (m.loadQuietly kind path).run w.reportLoading =
        ((.error (if kind.isNative ∨ cause = .notFound then .fileNotFound else .unknown), m), { w with events }) := by
    obtain ⟨events, hrun⟩ := m.loadQuietly_missing (w := w.reportLoading) hcause hk
    refine ⟨cause, events, habsent, ?_⟩
    rw [habsent.ofFile] at hrun
    simp only [hn, Bool.false_eq_true, false_or]
    exact hrun
  cases kind with
  | c =>
    obtain ⟨events, hrun⟩ := m.loadNative_error w.reportLoading (hinspect rfl) .direct
    exact ⟨cause, events, habsent, hrun⟩
  | cpp =>
    obtain ⟨events, hrun⟩ := m.loadNative_error w.reportLoading (hinspect rfl) .alias
    exact ⟨cause, events, habsent, hrun⟩
  | lua => exact hscript (.inl rfl) nofun
  | python => exact hscript (.inr rfl) nofun
  | noop => exact absurd rfl hkind

/-- A world with one file. -/
def oneFileWorld : World := { files := ⟨[(["counter.lua"], .file "count = 0".toUTF8)], []⟩ }

/-- A path that goes on behind that file. -/
def behindFile : Path := ⟨"counter.lua/x"⟩

/-- Whatever a path names behind that file, the walk ends there. -/
theorem absence_behind {p : Path} (name : String) (hnul : p.text.contains '\x00' = false) (hsome : p.text ≠ "")
    (hshort : p.text.utf8ByteSize ≤ FileTree.pathLimit) (hparts : p.pieces = ["counter.lua", name]) :
    oneFileWorld.files.Absence p .notADirectory := by
  have hwalk : oneFileWorld.files.walk (if p.isAbsolute then [] else oneFileWorld.files.current) ["counter.lua"] =
      .ok ["counter.lua"] := by
    split <;> rfl
  exact .stuck hnul hsome hshort hparts hwalk (.plainFile rfl nofun)

theorem locate_behindFile : oneFileWorld.files.locate behindFile = .error .notADirectory :=
  FileTree.locate_eq_error_iff.mpr
    (absence_behind "x" (by simp [behindFile]) (by decide) (by decide) (by decide +kernel))

theorem exists?_behindFile : oneFileWorld.files.exists? behindFile = false :=
  FileTree.exists?_eq_false_iff.mpr ⟨_, locate_behindFile⟩

/-- Nothing is behind a plain file, and a script there is not said to be missing. -/
theorem load_missing_behindFile : oneFileWorld.files.exists? behindFile = false ∧
    ∃ events, (({} : Manager).load .lua behindFile).run oneFileWorld =
      ((.error .unknown, {}), { oneFileWorld with events }) := by
  obtain ⟨cause, events, habsent, hrun⟩ := load_missing {} .lua behindFile oneFileWorld nofun exists?_behindFile nofun
  refine ⟨exists?_behindFile, events, ?_⟩
  have hcause : cause = .notADirectory := by
    have hlocate := FileTree.locate_eq_error_iff.mpr habsent
    rw [locate_behindFile] at hlocate
    exact (Except.error.inj hlocate).symm
  subst hcause
  exact hrun

/-- Nothing is behind a plain file, yet kinds of plugins say so in different words. -/
theorem load_through_file : oneFileWorld.files.exists? behindFile = false ∧
    Loader.find? oneFileWorld.files behindFile = none ∧
    ((({} : Manager).load .c behindFile).run oneFileWorld).1.1 = .error .fileNotFound ∧
    ((({} : Manager).load .lua behindFile).run oneFileWorld).1.1 = .error .unknown ∧
    ((({} : Manager).load .python behindFile).run oneFileWorld).1.1 = .error .unknown := by
  have hfind := Loader.find?_missing exists?_behindFile fun name hname => by
    obtain rfl : name = "x" := Option.some.inj (hname.symm.trans (by decide +kernel))
    have hdirectory : behindFile.parent? = some ⟨"counter.lua"⟩ := by decide +kernel
    have hbeside : Path.join ⟨"counter.lua"⟩ ⟨Loader.decorate "x"⟩ = ⟨"counter.lua/libx.so"⟩ := by decide +kernel
    rw [Path.withFileName, hname, hdirectory]
    dsimp only
    rw [hbeside]
    exact FileTree.exists?_eq_false_iff.mpr ⟨_, FileTree.locate_eq_error_iff.mpr
      (absence_behind "libx.so" (by simp) (by decide) (by decide) (by decide +kernel))⟩
  obtain ⟨_, hc⟩ := ({} : Manager).loadNative_error oneFileWorld.reportLoading (Loader.inspect_missing hfind) .direct
  obtain ⟨_, hlua⟩ := ({} : Manager).loadLua_missing (w := oneFileWorld.reportLoading) locate_behindFile
  obtain ⟨_, hpython⟩ := ({} : Manager).loadPython_missing (w := oneFileWorld.reportLoading) locate_behindFile
  exact ⟨exists?_behindFile, hfind, congrArg (·.1.1) hc, congrArg (·.1) hlua, congrArg (·.1) hpython⟩

end PluginHost
