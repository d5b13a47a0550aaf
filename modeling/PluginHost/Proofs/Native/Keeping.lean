import PluginHost.Plugin
import PluginHost.Proofs.Native.Openings

/-!
# Operations that leave libraries alone

Loading and using a script opens and closes no library and writes to none (`Host.Leaves`). What calls and globals of
native plugins write is in `Writing`, and what opens and closes libraries in `Managing`.
-/

namespace PluginHost

open Native

/-- A property of operations that combined operations have because their parts do, down to the few ways in which scripts
and the host meet. -/
structure Host.Carries (P : ∀ α : Type, Host α → Prop) : Prop where
  pure {α : Type} (a : α) : P α (pure a)
  bind {α β : Type} {x : Host α} {f : α → Host β} (hx : P α x) (hf : ∀ a, P β (f a)) : P β (x >>= f)
  files : P FileTree Host.files
  emit (level : LogLevel) (target message : String) : P Unit (Host.emit level target message)
  print (text : String) : P Unit (Host.print text)
  start (options : PythonOptions) : P PythonInterpreter (PythonInterpreter.start options)

namespace Host.Carries

variable {P : ∀ α : Type, Host α → Prop} (hP : Carries P)
include hP

/-- What follows a report. -/
theorem emitting {α : Type} (level : LogLevel) (target message : String) {x : Host α} (hx : P α x) :
    P α (Host.emit level target message >>= fun _ => x) :=
  hP.bind (hP.emit _ _ _) fun _ => hx

theorem flush (p : LuaPlugin) : P _ p.flush := by
  unfold LuaPlugin.flush
  exact hP.bind (hP.print _) fun _ => hP.pure _

theorem flushing {α : Type} (p : LuaPlugin) (f : LuaPlugin → α) : P α (p.flush >>= fun p => Pure.pure (f p)) :=
  hP.bind (hP.flush p) fun _ => hP.pure _

theorem runLua (p : LuaPlugin) : P _ p.run := by
  unfold LuaPlugin.run
  split
  · exact hP.flushing _ _
  · exact hP.pure _

theorem loadLua (path : Path) (options : LuaOptions) : P _ (LuaPlugin.load path options) := by
  unfold LuaPlugin.load
  refine hP.bind hP.files fun _ => ?_
  split
  · exact hP.emitting _ _ _ (hP.pure _)
  · dsimp only
    split
    · exact hP.emitting _ _ _ (hP.pure _)
    · split
      · refine hP.bind (hP.runLua _) fun r => ?_
        split <;> exact hP.emitting _ _ _ (hP.pure _)
      · refine hP.bind (hP.pure _) fun r => ?_
        split <;> exact hP.emitting _ _ _ (hP.pure _)

theorem callLua (p : LuaPlugin) (name : String) (args : List Datum) (result : Ty) : P _ (p.call name args result) := by
  unfold LuaPlugin.call
  dsimp only
  split
  · exact hP.flushing _ _
  · split
    · exact hP.emitting _ _ _ (hP.flushing _ _)
    · exact hP.flushing _ _

theorem globalLua (p : LuaPlugin) (name : String) (t : Ty) : P _ (p.global name t) := by
  unfold LuaPlugin.global
  split
  · exact hP.flushing _ _
  · split <;> exact hP.flushing _ _

theorem setGlobalLua (p : LuaPlugin) (name : String) (d : Datum) : P _ (p.setGlobal name d) := by
  unfold LuaPlugin.setGlobal
  split
  · exact hP.pure _
  · exact hP.flushing _ _

theorem finish (p : PythonInterpreter) : P _ p.finish := hP.bind (hP.print _) fun _ => hP.emit _ _ _

theorem execute (p : PythonInterpreter) (source : String) (path : Path) : P _ (p.execute source path) := by
  unfold PythonInterpreter.execute
  split
  · exact hP.pure _
  · split
    · exact hP.emitting _ _ _ (hP.pure _)
    · dsimp only
      split
      · split
        · exact hP.pure _
        · exact hP.emitting _ _ _ (hP.pure _)
      · refine hP.emitting _ _ _ ?_
        split
        · exact hP.pure _
        · exact hP.emitting _ _ _ (hP.pure _)

theorem loadPython (path : Path) (options : PythonOptions) : P _ (PythonPlugin.load path options) := by
  unfold PythonPlugin.load
  refine hP.bind hP.files fun files => ?_
  split
  · exact hP.emitting _ _ _ (hP.pure _)
  · refine hP.bind (hP.start _) fun p => hP.bind (hP.execute p _ _) fun r => ?_
    split
    · exact hP.bind (hP.finish _) fun _ => hP.pure _
    · exact hP.emitting _ _ _ (hP.pure _)

end Host.Carries

/-- What an interpreter is made of, and what that leaves behind. -/
theorem PythonInterpreter.run_start (options : PythonOptions) (w : World) : ∃ events, (start options).run w =
    ({ session := { interp := .start w.files } }, { w with events, pythonStarted := true }) := by
  obtain ⟨files, loader, events, output, started, signals⟩ := w
  cases started with
  | false => exact ⟨_, rfl⟩
  | true => exact ⟨_, rfl⟩

namespace Host

variable {α β : Type}

/-- Whether an operation leaves what is opened and in memory as it is. -/
def Leaves (x : Host α) : Prop := ∀ w : World, (x.run w).2.loader = w.loader

theorem Leaves.pure (a : α) : Leaves (pure a : Host α) := fun _ => rfl

theorem Leaves.bind {x : Host α} {f : α → Host β} (hx : Leaves x) (hf : ∀ a, Leaves (f a)) : Leaves (x >>= f) :=
  fun w => (hf _ _).trans (hx w)

theorem Leaves.carries : Carries fun _ => Leaves where
  pure := .pure
  bind := .bind
  files _ := rfl
  emit _ _ _ _ := rfl
  print text w := by
    show (if text = "" then w else { w with output := w.output.push text }).loader = w.loader
    split <;> rfl
  start options w := by
    obtain ⟨_, hrun⟩ := PythonInterpreter.run_start options w
    rw [hrun]

end Host

/-- The handle that a plugin has. Scripts have none. -/
def Plugin.handle? : Plugin → Option Handle
  | native p => p.library
  | lua _ | python _ | noop => none

end PluginHost
