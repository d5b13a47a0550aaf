import PluginHost.Logging.Event

/-!
# Signals

What a process does about signals (`Signals`), and code in whose middle one may arrive (`Body`). A signal that is held back
waits; any other one is ignored, ends the process, runs a handler, or takes control back to a save point, and then the code
that was running is not resumed (`Control`). A running handler holds back its own signal, so control that is taken out of a
handler leaves that signal held back unless the mask of the save point comes back with it (`Process.jump`).
-/

namespace PluginHost.Native

/-- The signal of a memory fault. -/
def faultSignal : Int := 11

/-- The signals that are held back. -/
abbrev Mask := Int → Bool

/-- How code ends when nothing guards it. -/
inductive Attempt (α : Type)
  | finished (a : α)
  | fault

/-- A handler is told the signal and changes the data of the process, and may touch invalid memory while it does. -/
abbrev Handler (σ : Type) := Int → σ → Attempt Unit × σ

/-- What is done about a signal. -/
inductive Response (σ : Type)
  /-- What the system does about it. -/
  | standard
  | ignore
  | handler (h : Handler σ)
  /-- Control goes back to the save point. -/
  | recover

/-- What is done about a signal, and which other signals are held back meanwhile. -/
structure Action (σ : Type) where
  response : Response σ
  holds : List Int := []

/-- What a process does about signals, and what the guard has to do with them. -/
structure Signals (σ : Type) where
  actions : Int → Action σ
  mask : Mask
  /-- The mask at the save point, while the code that took it is running. -/
  savePoint : Option Mask := none
  /-- Whether the lock of the guard is taken. -/
  isGuarding : Bool := false

/-- The system knows signals by these numbers. -/
def isSignal (signal : Int) : Bool := 1 ≤ signal && signal ≤ 64

/-- Whether a handler may be installed for a signal. Two signals cannot be handled, and two belong to the system. -/
def isHandleable (signal : Int) : Bool :=
  isSignal signal && signal ≠ 9 && signal ≠ 19 && signal ≠ 32 && signal ≠ 33

/-- Whether a process lives on if nothing is done about a signal. Some are not even told, and some stop the process until it
is continued. -/
def isHarmless (signal : Int) : Bool := 17 ≤ signal && signal ≤ 23 || signal = 28

namespace Signals

variable {σ : Type}

/-- Nothing is done about any signal, and none is held back. -/
def start : Signals σ where
  actions _ := { response := .standard }
  mask _ := false

/-- Changes what is done about a signal. -/
def set (g : Signals σ) (signal : Int) (a : Action σ) : Signals σ :=
  { g with actions := fun n => if n = signal then a else g.actions n }

@[simp] theorem actions_set_self (g : Signals σ) (signal : Int) (a : Action σ) : (g.set signal a).actions signal = a :=
  if_pos rfl

/-- What was there before comes back. -/
@[simp] theorem set_set_actions (g : Signals σ) (signal : Int) (a : Action σ) :
    (g.set signal a).set signal (g.actions signal) = g := by
  have hactions : (fun n => if n = signal then g.actions signal else (g.set signal a).actions n) = g.actions := by
    funext n
    by_cases hn : n = signal
    · rw [if_pos hn, hn]
    · rw [if_neg hn]
      exact if_neg hn
  rw [set, hactions]
  rfl

@[simp] theorem mask_set (g : Signals σ) (signal : Int) (a : Action σ) : (g.set signal a).mask = g.mask := rfl

/-- Takes or gives up the lock of the guard. -/
def guarding (g : Signals σ) (isGuarding : Bool) : Signals σ := { g with isGuarding }

/-- Takes a save point. -/
def mark (g : Signals σ) : Signals σ := { g with savePoint := some g.mask }

/-- The code that took the save point has ended. -/
def unmark (g : Signals σ) : Signals σ := { g with savePoint := none }

theorem guarding_guarding {g : Signals σ} (hg : g.isGuarding = false) : (g.guarding true).guarding false = g := by
  rw [guarding, guarding, ← hg]

theorem unmark_mark {g : Signals σ} (hg : g.savePoint = none) : g.mark.unmark = g := by
  rw [unmark, mark, ← hg]

/-- A handler of a signal is entered. -/
def enter (g : Signals σ) (signal : Int) : Signals σ :=
  { g with mask := fun n => g.mask n || n = signal || (g.actions signal).holds.contains n }

/-- What is in force while a body is guarded. -/
def armed (g : Signals σ) : Signals σ := ((g.guarding true).set faultSignal { response := .recover }).mark

/-- Whether nobody is guarded, and a memory fault would not be held back. So it is between the operations of a program. -/
structure IsReady (g : Signals σ) : Prop where
  isGuarding : g.isGuarding = false
  savePoint : g.savePoint = none
  mask : g.mask faultSignal = false

theorem isReady_start : (start : Signals σ).IsReady := ⟨rfl, rfl, rfl⟩

end Signals

/-- A process: what it does about signals, its data, and what it has reported. -/
structure Process (σ : Type) where
  signals : Signals σ
  data : σ
  events : Array Event := #[]

/-- Where control is after some code. -/
inductive Control (σ α : Type)
  /-- Behind the code. -/
  | onward (a : α) (p : Process σ)
  /-- At the save point, on account of a signal. -/
  | back (signal : Int) (p : Process σ)
  /-- Nowhere: the process has ended, or goes nowhere from where it is. -/
  | gone

/-- Code that can be left in its middle, step by step. It may look at everything, but changes nothing but the data. -/
inductive Body (σ α : Type)
  | finish (a : α)
  /-- Touches memory that is not there. -/
  | fault
  | look (next : Signals σ → σ → Body σ α)
  | change (data : σ) (next : Body σ α)
  | raise (signal : Int) (next : Body σ α)

namespace Process

variable {σ α : Type}

def withSignals (p : Process σ) (g : Signals σ) : Process σ := { p with signals := g }

@[simp] theorem signals_withSignals (p : Process σ) (g : Signals σ) : (p.withSignals g).signals = g := rfl

@[simp] theorem data_withSignals (p : Process σ) (g : Signals σ) : (p.withSignals g).data = p.data := rfl

@[simp] theorem withSignals_withSignals (p : Process σ) (g g' : Signals σ) :
    (p.withSignals g).withSignals g' = p.withSignals g' := rfl

@[simp] theorem withSignals_signals (p : Process σ) : p.withSignals p.signals = p := rfl

/-- Reports an event. -/
def report (p : Process σ) (e : Event) : Process σ := { p with events := p.events.push e }

/-- Takes control to the save point. Without one there is no place to go to. -/
def jump (p : Process σ) (signal : Int) : Control σ α :=
  match p.signals.savePoint with
  | some mask => .back signal (p.withSignals { p.signals with mask })
  | none => .gone

/-- What a memory fault does. It cannot wait and cannot be ignored, and code to which a handler returns meets it again. -/
def fault (p : Process σ) : Control σ α :=
  if p.signals.mask faultSignal then .gone
  else match (p.signals.actions faultSignal).response with
    | .recover => (p.withSignals (p.signals.enter faultSignal)).jump faultSignal
    | .standard | .ignore | .handler _ => .gone

/-- What the arrival of a signal does. -/
def deliver (p : Process σ) (signal : Int) : Control σ Unit :=
  if !isSignal signal || p.signals.mask signal then .onward () p
  else match (p.signals.actions signal).response with
    | .standard => if isHarmless signal then .onward () p else .gone
    | .ignore => .onward () p
    | .handler h => match h signal p.data with
      | (.finished (), data) => .onward () { p with data }
      | (.fault, data) => { p.withSignals (p.signals.enter signal) with data }.fault
    | .recover => (p.withSignals (p.signals.enter signal)).jump signal

end Process

/-- Runs code. -/
def Body.run {σ α : Type} : Body σ α → Process σ → Control σ α
  | .finish a, p => .onward a p
  | .fault, p => p.fault
  | .look next, p => (next p.signals p.data).run p
  | .change data next, p => next.run { p with data }
  | .raise signal next, p => match p.deliver signal with
    | .onward _ p => next.run p
    | .back signal p => .back signal p
    | .gone => .gone

/-! ## What code leaves as it is -/

section

variable {σ α : Type}

/-- Whether a process has the signals `g` again, or all of them but the mask, which is that of the save point. -/
def Control.Keeps (g : Signals σ) : Control σ α → Prop
  | .onward _ p => p.signals = g
  | .back _ p => ∃ mask, g.savePoint = some mask ∧ p.signals = { g with mask }
  | .gone => True

theorem Process.keeps_jump (p : Process σ) (signal n : Int) :
    Control.Keeps p.signals ((p.withSignals (p.signals.enter n)).jump signal : Control σ α) := by
  unfold jump
  split
  · next mask hmask => exact ⟨mask, hmask, rfl⟩
  · trivial

theorem Process.keeps_fault {p : Process σ} {g : Signals σ} {mask : Mask} (hp : p.signals = { g with mask }) :
    Control.Keeps g (p.fault : Control σ α) := by
  unfold fault
  rw [hp]
  split
  · trivial
  · split
    · exact keeps_jump ⟨g, p.data, p.events⟩ faultSignal faultSignal
    all_goals trivial

theorem Process.keeps_deliver (p : Process σ) (signal : Int) : Control.Keeps p.signals (p.deliver signal) := by
  unfold deliver
  split
  · exact rfl
  · split
    · split
      · exact rfl
      · trivial
    · exact rfl
    · split
      · exact rfl
      · exact keeps_fault rfl
    · exact p.keeps_jump signal signal

/-- Code changes nothing about signals, even if control is taken away from it. -/
theorem Body.keeps_run (body : Body σ α) : ∀ p : Process σ, Control.Keeps p.signals (body.run p) := by
  induction body with
  | finish a => exact fun _ => rfl
  | fault => exact fun p => p.keeps_fault rfl
  | look next ih => exact fun p => ih p.signals p.data p
  | change data next ih => exact fun p => ih { p with data }
  | raise signal next ih =>
    intro p
    have hdeliver := p.keeps_deliver signal
    rw [run]
    cases hd : p.deliver signal with
    | onward u q =>
      rw [hd] at hdeliver
      have hq : q.signals = p.signals := hdeliver
      exact hq ▸ ih q
    | back n q =>
      rw [hd] at hdeliver
      exact hdeliver
    | gone => trivial

end

end PluginHost.Native
