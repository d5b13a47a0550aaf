import PluginHost.Native.CrashGuard

/-!
# Guarded calls, one after another

`Body.Ends` says how code ends while certain signals are in force, without a save point and without a way back to it, and
`Body.run_of_ends` that running the code under the guard comes to the same. An operation of a program is a guarded call in
any number of installed handlers (`Operation`); whatever such operations came before, the next one answers as its body ends,
and leaves handlers, mask and lock as they were (`guarded_after`).
-/

namespace PluginHost.Native

variable {σ α : Type}

/-! ## How code ends -/

namespace Signals

/-- Whether a signal passes without anything being done that code would notice. -/
def ignores (g : Signals σ) (signal : Int) : Bool :=
  !isSignal signal || g.mask signal || match (g.actions signal).response with
    | .ignore => true
    | .standard => isHarmless signal
    | .handler _ | .recover => false

/-- Whether a signal is told to a handler. -/
structure Tells (g : Signals σ) (signal : Int) (h : Handler σ) : Prop where
  isSignal : isSignal signal
  mask : g.mask signal = false
  response : (g.actions signal).response = .handler h

/-- Whether a memory fault takes control to a save point that has the mask of now. -/
structure Recovers (g : Signals σ) : Prop where
  action : g.actions faultSignal = { response := .recover }
  mask : g.mask faultSignal = false
  savePoint : g.savePoint = some g.mask

theorem IsReady.set {g : Signals σ} (hg : g.IsReady) (signal : Int) (a : Action σ) : (g.set signal a).IsReady :=
  ⟨hg.isGuarding, hg.savePoint, hg.mask⟩

theorem IsReady.armed {g : Signals σ} (hg : g.IsReady) : g.armed.Recovers :=
  ⟨(g.guarding true).actions_set_self faultSignal _, hg.mask, rfl⟩

end Signals

/-- How code ends while certain signals are in force: with a result or by a memory fault, and with which data. -/
inductive Body.Ends (g : Signals σ) : Body σ α → σ → Attempt α → σ → Prop
  | finish (a : α) (s : σ) : Ends g (.finish a) s (.finished a) s
  | fault (s : σ) : Ends g .fault s .fault s
  | look {next : Signals σ → σ → Body σ α} {s t : σ} {r : Attempt α} (h : Ends g (next g s) s r t) :
    Ends g (.look next) s r t
  | change {next : Body σ α} {s t u : σ} {r : Attempt α} (h : Ends g next t r u) : Ends g (.change t next) s r u
  | ignored {signal : Int} {next : Body σ α} {s t : σ} {r : Attempt α} (hi : g.ignores signal) (h : Ends g next s r t) :
    Ends g (.raise signal next) s r t
  /-- A handler does something. -/
  | handled {signal : Int} {handler : Handler σ} {next : Body σ α} {s t u : σ} {r : Attempt α}
    (ht : g.Tells signal handler) (hh : handler signal s = (.finished (), t)) (h : Ends g next t r u) :
    Ends g (.raise signal next) s r u
  /-- A handler faults that does not hold back the signal of that. -/
  | tripped {signal : Int} {handler : Handler σ} {next : Body σ α} {s t : σ} (ht : g.Tells signal handler)
    (hm : (g.enter signal).mask faultSignal = false) (hh : handler signal s = (.fault, t)) :
    Ends g (.raise signal next) s .fault t
  /-- The signal of a memory fault comes without one. -/
  | raised (next : Body σ α) (s : σ) : Ends g (.raise faultSignal next) s .fault s

/-- Where control is when code has ended that somebody guards. -/
def Attempt.control : Attempt α → Process σ → Control σ α
  | .finished a, p => .onward a p
  | .fault, p => .back faultSignal p

namespace Process

variable {g : Signals σ} {signal : Int} {s : σ} {events : Array Event}

theorem jump_recovers {mask : Mask} (hg : g.Recovers) : (⟨{ g with mask }, s, events⟩ : Process σ).jump faultSignal =
    (.back faultSignal ⟨g, s, events⟩ : Control σ α) := by
  unfold jump
  split
  · next point hpoint =>
    obtain rfl : g.mask = point := Option.some.inj (hg.savePoint.symm.trans hpoint)
    rfl
  · next hpoint => cases hg.savePoint.symm.trans hpoint

/-- A fault takes control back with the mask of the save point, whatever is held back besides its own signal. -/
theorem fault_recovers {mask : Mask} (hg : g.Recovers) (hm : mask faultSignal = false) :
    (⟨{ g with mask }, s, events⟩ : Process σ).fault = (.back faultSignal ⟨g, s, events⟩ : Control σ α) := by
  unfold fault
  rw [if_neg (by simp [hm]), hg.action]
  exact jump_recovers hg

theorem deliver_ignored (hi : g.ignores signal) :
    (⟨g, s, events⟩ : Process σ).deliver signal = .onward () ⟨g, s, events⟩ := by
  unfold deliver
  split
  · rfl
  · next hmask =>
    unfold Signals.ignores at hi
    rw [Bool.not_eq_true] at hmask
    rw [hmask, Bool.false_or] at hi
    split <;> simp_all

theorem deliver_told {h : Handler σ} (ht : g.Tells signal h) : (⟨g, s, events⟩ : Process σ).deliver signal =
    match h signal s with
    | (.finished (), data) => .onward () ⟨g, data, events⟩
    | (.fault, data) => (⟨g.enter signal, data, events⟩ : Process σ).fault := by
  unfold deliver
  rw [ht.isSignal, ht.mask, ht.response]
  rfl

/-- The signal of a fault is held back while control is taken away, and not any more behind the save point. -/
theorem deliver_fault (hg : g.Recovers) : (⟨g, s, events⟩ : Process σ).deliver faultSignal =
    .back faultSignal ⟨g, s, events⟩ := by
  have hsignal : isSignal faultSignal := by decide
  unfold deliver
  rw [hsignal, hg.mask, hg.action]
  exact jump_recovers hg

end Process

/-- Running code comes to the end that it has. -/
theorem Body.run_of_ends {g : Signals σ} (hg : g.Recovers) {body : Body σ α} {s t : σ} {r : Attempt α}
    (he : body.Ends g s r t) (events : Array Event) : body.run ⟨g, s, events⟩ = r.control ⟨g, t, events⟩ := by
  induction he with
  | finish a s => rfl
  | fault s => exact Process.fault_recovers hg hg.mask
  | look _ ih => exact ih
  | change _ ih => exact ih
  | ignored hi _ ih =>
    rw [run, Process.deliver_ignored hi]
    exact ih
  | handled ht hh _ ih =>
    rw [run, Process.deliver_told ht, hh]
    exact ih
  | @tripped signal _ next _ t ht hm hh =>
    have hfault : (⟨g.enter signal, t, events⟩ : Process σ).fault = (.back faultSignal ⟨g, t, events⟩ : Control σ Unit) :=
      Process.fault_recovers hg hm
    rw [run, Process.deliver_told ht, hh]
    dsimp only
    rw [hfault]
    rfl
  | raised next s =>
    rw [run, Process.deliver_fault hg]
    rfl

/-! ## Operations -/

/-- A guarded call, in any number of handlers that are installed meanwhile. -/
inductive Operation (σ α : Type)
  | guard (body : Body σ α)
  | safeCall (fallback : α) (body : Body σ α)
  | withHandler (signal : Int) (h : Handler σ) (inner : Operation σ α)

/-- What an operation answers. -/
inductive Answer (α : Type)
  | outcome (g : Guarded α)
  | result (a : α)

namespace Operation

def run : Operation σ α → Program σ (Except FileError (Answer α))
  | guard body => return (← Native.guard body).map .outcome
  | safeCall fallback body => return .ok (.result (← Native.safeCall fallback body))
  | withHandler signal h inner => return (← Native.withHandler signal h inner.run).bind id

def body : Operation σ α → Body σ α
  | guard body | safeCall _ body => body
  | withHandler _ _ inner => inner.body

/-- The signals that are in force while the body runs. -/
def inForce : Operation σ α → Signals σ → Signals σ
  | guard _, g | safeCall _ _, g => g.armed
  | withHandler signal h inner, g => inner.inForce (g.set signal { response := .handler h })

/-- Whether all handlers can be installed. -/
def IsInstallable : Operation σ α → Prop
  | guard _ | safeCall _ _ => True
  | withHandler signal _ inner => isHandleable signal ∧ inner.IsInstallable

/-- The answer to the end of a body. -/
def answer : Operation σ α → Attempt α → Answer α
  | guard _, .finished a => .outcome (.completed a)
  | guard _, .fault => .outcome (.crashed faultSignal)
  | safeCall _ _, .finished a => .result a
  | safeCall fallback _, .fault => .result fallback
  | withHandler _ _ inner, r => inner.answer r

/-- While the body runs, memory faults are recovered from, even within a handler for their signal. -/
theorem recovers_inForce (o : Operation σ α) : ∀ {g : Signals σ}, g.IsReady → (o.inForce g).Recovers := by
  induction o with
  | guard body => exact fun hg => hg.armed
  | safeCall fallback body => exact fun hg => hg.armed
  | withHandler signal h inner ih => exact fun hg => ih (hg.set signal _)

/-- An operation answers as its body ends, and puts back what it changed about signals. -/
theorem run_of_ends {r : Attempt α} (o : Operation σ α) : ∀ {p : Process σ} {t : σ}, p.signals.IsReady → o.IsInstallable →
    o.body.Ends (o.inForce p.signals) p.data r t →
    ∃ events, o.run.run p = some (.ok (o.answer r), ⟨p.signals, t, events⟩) := by
  induction o with
  | guard body =>
    intro p t hp _ he
    have hrun : body.run (p.withSignals p.signals.armed) = r.control ⟨p.signals.armed, t, p.events⟩ :=
      Body.run_of_ends hp.armed he p.events
    refine ⟨p.events, ?_⟩
    rw [run, StateT.run_bind, run_guard hp, hrun]
    cases r <;> rfl
  | safeCall fallback body =>
    intro p t hp _ he
    have hrun : body.run (p.withSignals p.signals.armed) = r.control ⟨p.signals.armed, t, p.events⟩ :=
      Body.run_of_ends hp.armed he p.events
    rw [run, StateT.run_bind, run_safeCall hp, hrun]
    cases r with
    | finished a => exact ⟨_, rfl⟩
    | fault => exact ⟨_, rfl⟩
  | withHandler signal h inner ih =>
    intro p t hp hi he
    obtain ⟨events, hinner⟩ := ih (p := p.withSignals (p.signals.set signal { response := .handler h }))
      (hp.set signal _) hi.2 he
    refine ⟨events, ?_⟩
    rw [run, StateT.run_bind, run_withHandler hi.1 h hinner rfl]
    rfl

end Operation

/-! ## Sequences -/

/-- A process after several operations. -/
def Process.after (p : Process σ) : List ((α : Type) × Operation σ α) → Option (Process σ)
  | [] => some p
  | ⟨_, o⟩ :: os => (o.run.run p).bind fun r => r.2.after os

/-- Whether operations can install their handlers, and their bodies end one after another, from some data to other. -/
inductive Settle (g : Signals σ) : σ → List ((α : Type) × Operation σ α) → σ → Prop
  | nil (s : σ) : Settle g s [] s
  | cons {α : Type} {o : Operation σ α} {os : List ((α : Type) × Operation σ α)} {r : Attempt α} {s t u : σ}
    (hi : o.IsInstallable) (he : o.body.Ends (o.inForce g) s r t) (h : Settle g t os u) : Settle g s (⟨α, o⟩ :: os) u

theorem Settle.run_after {g : Signals σ} (hg : g.IsReady) {os : List ((α : Type) × Operation σ α)} {s t : σ}
    (h : Settle g s os t) : ∀ events, ∃ events', (⟨g, s, events⟩ : Process σ).after os = some ⟨g, t, events'⟩ := by
  induction h with
  | nil s => exact fun events => ⟨events, rfl⟩
  | @cons _ o os r s t u hi he _ ih =>
    intro events
    obtain ⟨events', hrun⟩ := o.run_of_ends (p := ⟨g, s, events⟩) hg hi he
    obtain ⟨events'', hafter⟩ := ih events'
    refine ⟨events'', ?_⟩
    rw [Process.after, hrun]
    exact hafter

/-- A handler that keeps the number of the last signal. -/
def noteSignal : Handler Nat := fun signal _ => (.finished (), signal.toNat)

/-- A fault within a handler for its signal, and the signal of a fault without one. -/
def sampleCrashes : List ((β : Type) × Operation Nat β) :=
  [⟨Nat, .withHandler faultSignal noteSignal (.guard .fault)⟩, ⟨Bool, .safeCall false (.raise faultSignal (.finish true))⟩]

/-- A body that raises a signal and answers with what its handler has kept. -/
def sampleRaise : Operation Nat Nat := .withHandler 10 noteSignal (.guard (.raise 10 (.look fun _ n => .finish n)))

end PluginHost.Native
