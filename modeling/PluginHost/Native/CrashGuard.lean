import PluginHost.Error
import PluginHost.Native.Signals

/-!
# Recovering from faults

A body that runs under the guard either finishes or is abandoned at a memory fault (`guard`); `safeCall` puts a default in
the place of an abandoned result. The guard takes a lock, installs a handler, takes a save point and puts everything back
afterwards, on both ways out (`signals_guard`). `withHandler` installs a handler for a while, around guarded calls too.
-/

namespace PluginHost.Native

/-- How a guarded body ends. -/
inductive Guarded (α : Type)
  | completed (a : α)
  | crashed (signal : Int)

/-- Whether a body was abandoned. -/
def Guarded.isCrashed {α : Type} : Guarded α → Bool
  | completed _ => false
  | crashed _ => true

/-- The end of a body that control came back from on account of a signal, or that returned with zero in place of one. -/
def Guarded.ofReturn {α : Type} (signal : Int) (result : Option α) : Guarded α :=
  if signal ≠ 0 then crashed signal
  else match result with
    | some a => completed a
    | none => crashed faultSignal

/-- A part of a program. It has no answer if the process does not live to give one. -/
abbrev Program (σ α : Type) := StateT (Process σ) Option α

/-- A handler that is installed, and what was done about its signal before. -/
structure Installed (σ : Type) where
  signal : Int
  previous : Action σ

variable {σ α : Type}

namespace Program

def eventTarget : String := "trellis_native::crash_guard"

/-- Reports an event. -/
def emit (level : LogLevel) (message : String) : Program σ Unit := modify (·.report ⟨level, eventTarget, message⟩)

/-- Changes what is done about a signal, and tells what was done before. -/
def exchange (signal : Int) (a : Action σ) : Program σ (Except FileError (Action σ)) := fun p =>
  if isHandleable signal then some (.ok (p.signals.actions signal), p.withSignals (p.signals.set signal a))
  else some (.error .invalidArgument, p)

/-- Installs a handler. -/
def install (signal : Int) (r : Response σ) : Program σ (Except FileError (Installed σ)) := do
  return (← exchange signal { response := r }).map fun previous => ⟨signal, previous⟩

/-- Puts back what was there before a handler was installed. -/
def restore (i : Installed σ) : Program σ Unit := do
  if let .error _ ← exchange i.signal i.previous then
    emit .error "failed to restore signal handler"

/-- Takes the lock of the guard. Nobody else can give it up, so waiting for it has no end. -/
def lock : Program σ Unit := fun p =>
  if p.signals.isGuarding then none else some ((), p.withSignals (p.signals.guarding true))

/-- Gives up the lock of the guard. -/
def unlock : Program σ Unit := modify fun p => p.withSignals (p.signals.guarding false)

/-- Takes a save point and runs a body behind it. The answer is zero, or the signal on account of which control came back; a
body that finishes leaves its result. -/
def protect (body : Body σ α) : Program σ (Int × Option α) := fun p =>
  match body.run (p.withSignals p.signals.mark) with
  | .onward a q => some ((0, some a), q.withSignals q.signals.unmark)
  | .back signal q => some ((signal, none), q.withSignals q.signals.unmark)
  | .gone => none

/-- Raises a signal outside of any body. -/
def raise (signal : Int) : Program σ Unit := fun p =>
  match p.deliver signal with
  | .onward _ p => some ((), p)
  | .back _ _ | .gone => none

end Program

open Program

/-- Runs a body under the guard. -/
def guard (body : Body σ α) : Program σ (Except FileError (Guarded α)) := do
  lock
  match ← install faultSignal .recover with
  | .error e =>
    unlock
    return .error e
  | .ok installed =>
    let (signal, result) ← protect body
    restore installed
    unlock
    return .ok (.ofReturn signal result)

/-- The result of a guarded body, or the default if it was abandoned. -/
def safeCall (fallback : α) (body : Body σ α) : Program σ α := do
  match ← guard body with
  | .ok (.completed a) => return a
  | .ok (.crashed _) =>
    emit .warn "recovered from a crash inside a guarded native call"
    return fallback
  | .error _ =>
    emit .error "could not install the crash handler; call skipped"
    return fallback

/-- Runs a part of a program with a handler installed. -/
def withHandler (signal : Int) (h : Handler σ) (x : Program σ α) : Program σ (Except FileError α) := do
  match ← install signal (.handler h) with
  | .error e => return .error e
  | .ok installed =>
    let a ← x
    restore installed
    return .ok a

/-! ## The guard as a whole -/

section

variable {p : Process σ} {signal : Int}

theorem run_lock (hp : p.signals.isGuarding = false) : lock.run p = some ((), p.withSignals (p.signals.guarding true)) :=
  if_neg (by simp [hp])

theorem run_unlock : unlock.run p = some ((), p.withSignals (p.signals.guarding false)) := rfl

theorem run_install (hs : isHandleable signal) (r : Response σ) : (install signal r).run p =
    some (.ok ⟨signal, p.signals.actions signal⟩, p.withSignals (p.signals.set signal { response := r })) := by
  simp only [install, exchange, StateT.run, bind, StateT.bind, hs, if_true]
  rfl

theorem run_restore (hs : isHandleable signal) (previous : Action σ) : (restore ⟨signal, previous⟩).run p =
    some ((), p.withSignals (p.signals.set signal previous)) := by
  simp only [restore, exchange, StateT.run, bind, StateT.bind, hs, if_true]
  rfl

/-- A save point is there while the body runs, and signals are as before when it is left, on either way. -/
theorem run_protect (hp : p.signals.savePoint = none) (body : Body σ α) : (protect body).run p =
    match body.run (p.withSignals p.signals.mark) with
    | .onward a q => some ((0, some a), q.withSignals p.signals)
    | .back signal q => some ((signal, none), q.withSignals p.signals)
    | .gone => none := by
  have hkeeps := body.keeps_run (p.withSignals p.signals.mark)
  unfold protect StateT.run
  dsimp only
  cases hrun : body.run (p.withSignals p.signals.mark) with
  | onward a q =>
    rw [hrun] at hkeeps
    have hq : q.signals = p.signals.mark := hkeeps
    dsimp only
    rw [hq, Signals.unmark_mark hp]
  | back n q =>
    rw [hrun] at hkeeps
    obtain ⟨mask, hmask, hq⟩ := hkeeps
    obtain rfl : p.signals.mask = mask := Option.some.inj hmask
    have hq : q.signals = p.signals.mark := hq
    dsimp only
    rw [hq, Signals.unmark_mark hp]
  | gone => rfl

/-- Lock, handler and save point are there while the body runs, and everything is as before when it is left, on either way. -/
theorem run_guard (hp : p.signals.IsReady) (body : Body σ α) : (guard body).run p =
    match body.run (p.withSignals p.signals.armed) with
    | .onward a q => some (.ok (.completed a), q.withSignals p.signals)
    | .back signal q => some (.ok (.ofReturn signal none), q.withSignals p.signals)
    | .gone => none := by
  have hfault : isHandleable faultSignal := by decide
  have hactions : (p.signals.guarding true).actions = p.signals.actions := rfl
  have hset := (p.signals.guarding true).set_set_actions faultSignal { response := .recover }
  rw [hactions] at hset
  have hprotect := run_protect (p := p.withSignals ((p.signals.guarding true).set faultSignal { response := .recover }))
    hp.savePoint body
  simp only [guard, StateT.run_bind, run_lock hp.isGuarding, run_install hfault, run_restore hfault, run_unlock,
    Option.bind_eq_bind, Option.bind_some, Process.signals_withSignals, Process.withSignals_withSignals, hactions, hprotect]
  rw [← Signals.armed]
  cases body.run (p.withSignals p.signals.armed) with
  | onward a q =>
    simp only [Option.bind_some, Process.signals_withSignals, Process.withSignals_withSignals, hset,
      Signals.guarding_guarding hp.isGuarding]
    rfl
  | back n q =>
    simp only [Option.bind_some, Process.signals_withSignals, Process.withSignals_withSignals, hset,
      Signals.guarding_guarding hp.isGuarding]
    rfl
  | gone => rfl

theorem exists_ofReturn (signal : Int) : ∃ n, (Guarded.ofReturn signal none : Guarded α) = .crashed n := by
  unfold Guarded.ofReturn
  split
  · exact ⟨signal, rfl⟩
  · exact ⟨faultSignal, rfl⟩

/-- A body that is abandoned is reported, and the default takes the place of its result. -/
theorem run_safeCall (hp : p.signals.IsReady) (fallback : α) (body : Body σ α) : (safeCall fallback body).run p =
    match body.run (p.withSignals p.signals.armed) with
    | .onward a q => some (a, q.withSignals p.signals)
    | .back _ q => some (fallback, (q.withSignals p.signals).report
        ⟨.warn, eventTarget, "recovered from a crash inside a guarded native call"⟩)
    | .gone => none := by
  rw [safeCall, StateT.run_bind, run_guard hp]
  cases body.run (p.withSignals p.signals.armed) with
  | onward a q => rfl
  | back n q =>
    obtain ⟨m, hm⟩ := exists_ofReturn (α := α) n
    dsimp only
    rw [hm]
    rfl
  | gone => rfl

/-- A guarded call leaves nothing behind that concerns signals. -/
theorem signals_safeCall (hp : p.signals.IsReady) {fallback a : α} {body : Body σ α} {q : Process σ}
    (h : (safeCall fallback body).run p = some (a, q)) : q.signals = p.signals := by
  rw [run_safeCall hp] at h
  cases hrun : body.run (p.withSignals p.signals.armed) with
  | onward a q =>
    rw [hrun] at h
    cases h
    rfl
  | back n q =>
    rw [hrun] at h
    cases h
    rfl
  | gone =>
    rw [hrun] at h
    cases h

/-- What leaves signals as they are leaves them so within a handler too. -/
theorem run_withHandler (hs : isHandleable signal) (h : Handler σ) {x : Program σ α} {a : α} {q : Process σ}
    (hx : x.run (p.withSignals (p.signals.set signal { response := .handler h })) = some (a, q))
    (hq : q.signals = p.signals.set signal { response := .handler h }) :
    (withHandler signal h x).run p = some (.ok a, q.withSignals p.signals) := by
  rw [withHandler, StateT.run_bind, run_install hs, Option.bind_eq_bind, Option.bind_some, StateT.run_bind, hx,
    Option.bind_eq_bind, Option.bind_some, StateT.run_bind, run_restore hs, hq, Signals.set_set_actions]
  rfl

end

end PluginHost.Native
