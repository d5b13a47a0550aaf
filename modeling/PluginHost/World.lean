import PluginHost.Native.CrashGuard
import PluginHost.Native.Loader

/-!
# What the host sees and leaves behind

`World` is everything outside a single plugin that an operation of the host may read or change: files, opened libraries, log
events, what scripts have printed, and what is done about signals. Operations are state transformers over it (`Host`).
-/

namespace PluginHost

/-- The surroundings of plugins. -/
structure World where
  files : FileTree
  loader : Native.Loader := {}
  events : Array Event := #[]
  /-- What was printed, in order. -/
  output : Array String := #[]
  /-- Whether some Python interpreter was started before. -/
  pythonStarted : Bool := false
  /-- What is done about signals. Between operations nobody is guarded. -/
  signals : { g : Native.Signals Native.Loader // g.IsReady } := ⟨.start, Native.Signals.isReady_start⟩

/-- An operation of the host. -/
abbrev Host := StateM World

namespace Host

/-- Reports an event. -/
def emit (level : LogLevel) (target message : String) : Host Unit :=
  modify fun w => { w with events := w.events.push ⟨level, target, message⟩ }

/-- Prints a text. -/
def print (text : String) : Host Unit :=
  modify fun w => if text = "" then w else { w with output := w.output.push text }

/-- The files. -/
def files : Host FileTree := return (← get).files

/-- The opened libraries. -/
def loader : Host Native.Loader := return (← get).loader

/-- Changes the opened libraries. -/
def modifyLoader (f : Native.Loader → Native.Loader) : Host Unit := modify fun w => { w with loader := f w.loader }

/-- Runs code on the opened libraries under the guard. There is no answer if the process does not live to give one. -/
def safeCall {α : Type} (fallback : α) (body : Native.Body Native.Loader α) : Host (Option α) := fun w =>
  match h : (Native.safeCall fallback body).run ⟨w.signals, w.loader, w.events⟩ with
  | none => (none, w)
  | some (a, p) => (some a,
      { w with
        loader := p.data
        events := p.events
        signals := ⟨p.signals, Native.signals_safeCall w.signals.property h ▸ w.signals.property⟩ })

open Native in
theorem run_safeCall {α : Type} (fallback : α) (body : Body Loader α) (w : World) : (safeCall fallback body).run w =
    match body.run ⟨w.signals.val.armed, w.loader, w.events⟩ with
    | .onward a p => (some a, { w with loader := p.data, events := p.events })
    | .back _ p => (some fallback, { w with
        loader := p.data
        events := p.events.push
          ⟨.warn, Program.eventTarget, "recovered from a crash inside a guarded native call"⟩ })
    | .gone => (none, w) := by
  have hrun := Native.run_safeCall (p := ⟨w.signals, w.loader, w.events⟩) w.signals.property fallback body
  show safeCall fallback body w = _
  unfold safeCall
  cases hb : body.run ⟨w.signals.val.armed, w.loader, w.events⟩ with
  | onward a p =>
    simp only [Process.withSignals, hb] at hrun
    split
    · next h => cases h.symm.trans hrun
    · next h =>
      cases h.symm.trans hrun
      rfl
  | back n p =>
    simp only [Process.withSignals, hb] at hrun
    split
    · next h => cases h.symm.trans hrun
    · next h =>
      cases h.symm.trans hrun
      rfl
  | gone =>
    simp only [Process.withSignals, hb] at hrun
    split
    · rfl
    · next h => cases h.symm.trans hrun

end Host

end PluginHost
