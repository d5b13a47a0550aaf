import PluginHost.CommandLine.Tasks
import PluginHost.Proofs.Configured

/-!
# The calls of a run

A run has a schedule, which depends on its plugins' need of the guard and on the number of rounds only (`schedule`). What is
called is a list of calls, each made in what the one before it left (`Makes`). `run_calls` says that a run makes the calls of
its schedule, whatever they answer, and that it counts those that fail.
-/

namespace PluginHost.CommandLine

/-- A call to make in one of several plugins, which have the numbers of their places. -/
structure PlannedCall where
  plugin : Nat
  name : String
  args : List (Ty × Datum)
  isGuarded : Bool

/-- A call that was made, and what it answered. -/
structure MadeCall extends PlannedCall where
  answer : Except CallError Datum

/-- How many calls failed. -/
def countFailed (made : List MadeCall) : Nat := made.countP fun c => !c.answer.isOk

/-- The function with a name in each plugin, in order. Of each it is known whether it is called under the guard. -/
def inEach (guards : List Bool) (name : String) (args : List (Ty × Datum)) : List PlannedCall :=
  guards.mapIdx fun i isGuarded => ⟨i, name, args, isGuarded⟩

/-- The calls of a round: the plugins get its number, or the greatest that they can take. -/
def roundCalls (guards : List Bool) (r : Nat) : List PlannedCall :=
  inEach guards "loop" [(.int .i32, .int (min (r : Int) IntTy.i32.max))]

/-- The calls of a run with so many rounds. -/
def schedule (guards : List Bool) (rounds : Nat) : List PlannedCall :=
  inEach guards "initialize" [] ++ (List.range rounds).flatMap (roundCalls guards)

/-- A world in which it is reported if a call failed. -/
def reportAnswer (w : World) : Except CallError Datum → World
  | .ok _ => w
  | .error _ => { w with events := w.events.push ⟨.error, Drive.eventTarget, "plugin call failed"⟩ }

/-- Whether calls lead from some plugins and a world to others. Each is made on the plugin of its number as the calls
before it have left that, and a failure is reported before the next one. -/
inductive Makes : List ConfiguredPlugin → World → List MadeCall → List ConfiguredPlugin → World → Prop
  | nothing (ps : List ConfiguredPlugin) (w : World) : Makes ps w [] ps w
  | plainly {ps ps' : List ConfiguredPlugin} {p : ConfiguredPlugin} {q : Plugin} {w w₁ w' : World} {c : MadeCall}
      {made : List MadeCall} (hguard : c.isGuarded = false) (hp : ps[c.plugin]? = some p)
      (hcall : (p.plugin.call c.name c.args .unit).run w = ((c.answer, q), w₁))
      (hrest : Makes (ps.set c.plugin { p with plugin := q }) (reportAnswer w₁ c.answer) made ps' w') :
    Makes ps w (c :: made) ps' w'
  | guarded {ps ps' : List ConfiguredPlugin} {p : ConfiguredPlugin} {q : Plugin} {w w₁ w' : World} {c : MadeCall}
      {made : List MadeCall} (hguard : c.isGuarded = true) (hp : ps[c.plugin]? = some p)
      (hcall : (p.plugin.safeCall c.name c.args .unit).run w = ((c.answer, q), w₁))
      (hrest : Makes (ps.set c.plugin { p with plugin := q }) (reportAnswer w₁ c.answer) made ps' w') :
    Makes ps w (c :: made) ps' w'

theorem Makes.append {ps ps' ps'' : List ConfiguredPlugin} {w w' w'' : World} {made made' : List MadeCall}
    (h : Makes ps w made ps' w') (h' : Makes ps' w' made' ps'' w'') : Makes ps w (made ++ made') ps'' w'' := by
  induction h with
  | nothing => exact h'
  | plainly hguard hp hcall _ ih => exact .plainly hguard hp hcall (ih h')
  | guarded hguard hp hcall _ ih => exact .guarded hguard hp hcall (ih h')

/-! ## One function in each plugin -/

/-- A plugin of a manifest is called as its entry says, and stays that of its entry. -/
theorem run_call (p : ConfiguredPlugin) (name : String) (args : List (Ty × Datum)) (w : World) :
    ∃ answer q w₁, (p.call name args .unit).run w = ((answer, { p with plugin := q }), w₁) ∧
      (if p.crashGuard then p.plugin.safeCall name args .unit else p.plugin.call name args .unit).run w =
        ((answer, q), w₁) := by
  obtain ⟨entry, plugin, guard⟩ := p
  cases guard <;> exact ⟨_, _, _, rfl, rfl⟩

/-- One call leads on to the calls after it. -/
theorem exists_call (before after : List ConfiguredPlugin) (p : ConfiguredPlugin) (name : String)
    (args : List (Ty × Datum)) (w : World) : ∃ answer q w₁,
    (p.call name args .unit).run w = ((answer, { p with plugin := q }), w₁) ∧ ∀ {made ps' w'},
      Makes (before ++ { p with plugin := q } :: after) (reportAnswer w₁ answer) made ps' w' →
      Makes (before ++ p :: after) w (⟨⟨before.length, name, args, p.crashGuard⟩, answer⟩ :: made) ps' w' := by
  obtain ⟨answer, q, w₁, hrun, hcall⟩ := run_call p name args w
  refine ⟨answer, q, w₁, hrun, fun hrest => ?_⟩
  have hp : (before ++ p :: after)[before.length]? = some p := by simp
  have hset : (before ++ p :: after).set before.length { p with plugin := q } =
      before ++ { p with plugin := q } :: after := by simp
  rw [← hset] at hrest
  cases hguard : p.crashGuard with
  | false =>
    rw [hguard] at hcall
    exact .plainly rfl hp hcall hrest
  | true =>
    rw [hguard] at hcall
    exact .guarded rfl hp hcall hrest

theorem countFailed_cons (c : MadeCall) (made : List MadeCall) :
    countFailed (c :: made) = (if c.answer.isOk then 0 else 1) + countFailed made := by
  rw [countFailed, List.countP_cons, Nat.add_comm, countFailed]
  cases c.answer.isOk <;> rfl

theorem countFailed_append (made made' : List MadeCall) :
    countFailed (made ++ made') = countFailed made + countFailed made' := List.countP_append

/-- What a call answers decides what is counted and reported, and nothing else. -/
theorem run_callEach_cons {p p' : ConfiguredPlugin} {name : String} {args : List (Ty × Datum)} {w w₁ : World}
    {answer : Except CallError Datum} (hrun : (p.call name args .unit).run w = ((answer, p'), w₁))
    (ps : List ConfiguredPlugin) : (Drive.callEach name args (p :: ps)).run w =
      let rest := (Drive.callEach name args ps).run (reportAnswer w₁ answer)
      (((if answer.isOk then 0 else 1) + rest.1.1, p' :: rest.1.2), rest.2) := by
  rw [Drive.callEach, StateT.run_bind, hrun]
  cases answer <;> rfl

/-- Who is called under the guard. -/
def guardsOf (ps : List ConfiguredPlugin) : List Bool := ps.map (·.crashGuard)

/-- Calling the function with a name in each plugin makes one call in each, in order. -/
theorem run_callEach (name : String) (args : List (Ty × Datum)) : ∀ (ps before : List ConfiguredPlugin) (w : World),
    ∃ made ps' w', (Drive.callEach name args ps).run w = ((countFailed made, ps'), w') ∧
      Makes (before ++ ps) w made (before ++ ps') w' ∧ guardsOf ps' = guardsOf ps ∧
      made.map (·.toPlannedCall) = (guardsOf ps).mapIdx fun i guard => ⟨before.length + i, name, args, guard⟩
  | [], before, w => ⟨[], [], w, rfl, .nothing _ _, rfl, rfl⟩
  | p :: ps, before, w => by
    obtain ⟨answer, q, w₁, hrun, hmakes⟩ := exists_call before ps p name args w
    obtain ⟨made, ps', w', hrest, hmade, hguards, hcalls⟩ :=
      run_callEach name args ps (before ++ [{ p with plugin := q }]) (reportAnswer w₁ answer)
    rw [List.append_assoc, List.append_assoc] at hmade
    refine ⟨_, { p with plugin := q } :: ps', w', ?_, hmakes hmade, congrArg (p.crashGuard :: ·) hguards, ?_⟩
    · rw [run_callEach_cons hrun, hrest, countFailed_cons]
    · have hguards : guardsOf (p :: ps) = p.crashGuard :: guardsOf ps := rfl
      rw [List.map_cons, hcalls, hguards, List.mapIdx_cons, List.length_append]
      simp only [List.length_singleton, Nat.add_assoc, Nat.add_comm 1]
      rfl

theorem run_callAll (d : Drive) (name : String) (args : List (Ty × Datum)) (w : World) :
    ∃ made ps' w', (d.callAll name args).run w = ({ d with plugins := ps', failures := d.failures + countFailed made }, w') ∧
      Makes d.plugins w made ps' w' ∧ guardsOf ps' = guardsOf d.plugins ∧
      made.map (·.toPlannedCall) = inEach (guardsOf d.plugins) name args := by
  obtain ⟨made, ps', w', hrun, hmakes, hguards, hcalls⟩ := run_callEach name args d.plugins [] w
  refine ⟨made, ps', w', ?_, hmakes, hguards, ?_⟩
  · rw [Drive.callAll, StateT.run_bind, hrun]
    rfl
  · simp only [hcalls, List.length_nil, Nat.zero_add, inEach]

/-! ## Rounds -/

theorem run_rounds (count : Nat) : ∀ (n : Nat) (d : Drive) (w : World), ∃ made ps' w',
    (d.rounds n count).run w = ({ d with plugins := ps', failures := d.failures + countFailed made }, w') ∧
      Makes d.plugins w made ps' w' ∧
      made.map (·.toPlannedCall) = (List.range' n count).flatMap (roundCalls (guardsOf d.plugins)) := by
  induction count with
  | zero => exact fun n d w => ⟨[], d.plugins, w, rfl, .nothing _ _, rfl⟩
  | succ count ih =>
    intro n d w
    obtain ⟨made, ps₁, w₁, hround, hmakes, hguards, hcalls⟩ := run_callAll d "loop" [(.int .i32, Drive.counter n)] w
    obtain ⟨made', ps', w', hrest, hmakes', hcalls'⟩ :=
      ih (n + 1) { d with plugins := ps₁, failures := d.failures + countFailed made } w₁
    refine ⟨made ++ made', ps', w', ?_, hmakes.append hmakes', ?_⟩
    · rw [Drive.rounds, StateT.run_bind, Drive.round, hround]
      refine hrest.trans ?_
      rw [countFailed_append, Nat.add_assoc]
    · rw [List.map_append, hcalls, hcalls', List.range'_succ, List.flatMap_cons]
      dsimp only
      rw [hguards]
      rfl

/-- The first calls and the rounds, with any plugins. -/
theorem run_schedule (d : Drive) (rounds : Nat) (w : World) : ∃ made ps' w',
    (do (← d.callAll "initialize" []).rounds 0 rounds : Host Drive).run w =
        ({ d with plugins := ps', failures := d.failures + countFailed made }, w') ∧
      Makes d.plugins w made ps' w' ∧ made.map (·.toPlannedCall) = schedule (guardsOf d.plugins) rounds := by
  obtain ⟨made, ps₁, w₁, hfirst, hmakes, hguards, hcalls⟩ := run_callAll d "initialize" [] w
  obtain ⟨made', ps', w', hrest, hmakes', hcalls'⟩ :=
    run_rounds rounds 0 { d with plugins := ps₁, failures := d.failures + countFailed made } w₁
  refine ⟨made ++ made', ps', w', ?_, hmakes.append hmakes', ?_⟩
  · rw [StateT.run_bind, hfirst]
    refine hrest.trans ?_
    rw [countFailed_append, Nat.add_assoc]
  · rw [List.map_append, hcalls, hcalls', schedule, List.range_eq_range']
    dsimp only
    rw [hguards]

/-! ## Whole runs -/

/-- The world after the plugins of a run were announced. -/
def announced (c : Manifest.Config) (w : World) : World := ((Host.print (announce c)).run w).2

theorem run_beginRun (c : Manifest.Config) (w : World) : (beginRun c).run w =
    let started := (Drive.start c).run (announced c w)
    (started.1.mapError (Failure.during "Failed to load plugins"), started.2) := rfl

theorem run_of_error {c : Manifest.Config} {w w₁ : World} {e : Error} {m : Manager}
    (hload : ((Manager.ofConfig c).loadConfigured c).run (announced c w) = ((.error e, m), w₁)) (rounds : Nat) :
    (run c rounds).run w = (.error (.during "Failed to load plugins" e), (m.close.run w₁).2) := by
  have hstart : (Drive.start c).run (announced c w) = (.error e, (m.close.run w₁).2) := by
    rw [Drive.start, StateT.run_bind, hload]
    rfl
  rw [run, StateT.run_bind, run_beginRun, hstart]
  rfl

theorem run_of_ok {c : Manifest.Config} {w w₁ w₂ : World} {ps : List ConfiguredPlugin} {m : Manager} {rounds : Nat}
    {d : Drive} (hload : ((Manager.ofConfig c).loadConfigured c).run (announced c w) = ((.ok ps, m), w₁))
    (hrun : (do (← ({ manager := m, plugins := ps } : Drive).callAll "initialize" []).rounds 0 rounds : Host Drive).run
      w₁ = (d, w₂)) :
    (run c rounds).run w = (.ok (), ((endRun d rounds).run w₂).2) := by
  rcases hfirst : (({ manager := m, plugins := ps } : Drive).callAll "initialize" []).run w₁ with ⟨d₀, w₀⟩
  rw [StateT.run_bind, hfirst] at hrun
  have hrounds : (d₀.rounds 0 rounds).run w₀ = (d, w₂) := hrun
  have hstart : (Drive.start c).run (announced c w) = (.ok d₀, w₀) := by
    rw [Drive.start, StateT.run_bind, hload]
    exact congrArg (fun r : Drive × World => ((.ok r.1 : Except Error Drive), r.2)) hfirst
  rw [run, StateT.run_bind, run_beginRun, hstart]
  show (do endRun (← d₀.rounds 0 rounds) rounds; return .ok () : Host (Except Failure Unit)).run w₀ = _
  rw [StateT.run_bind, hrounds]
  rfl

/-- Two plugins in two rounds. -/
example : (schedule [false, true] 2).map (fun c => (c.plugin, c.name, c.isGuarded)) =
    [(0, "initialize", false), (1, "initialize", true), (0, "loop", false), (1, "loop", true),
      (0, "loop", false), (1, "loop", true)] := rfl

end PluginHost.CommandLine
