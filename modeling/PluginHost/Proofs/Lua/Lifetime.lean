import PluginHost.Proofs.Lua.Globals

/-!
# The life of a plugin

Until the top level of a plugin runs, its function is alone on the stack, where `LuaPlugin.run` looks for it; afterwards
the stack is empty. `after_life` says so of a plugin that was loaded and then answered requests of any kind, in any
order: a request does to the stack what `holds_perform` says, whatever the functions of the script do. The top level
therefore runs once at most, while the plugin is loaded or when it is first asked for.
-/

namespace PluginHost

namespace Lua

namespace Vm

/-- The answer to a run of the top level that goes a certain way. -/
def Course.outcome : Course → Except CallError Unit
  | .returned _ _ => .ok ()
  | .raised v => .error (.unknown (errorMessage v))
  | _ => .error (.unknown "the call did not end")

theorem Course.outcome_endless : Course.endless.outcome = .error (.unknown "the call did not end") := rfl

end Vm

end Lua

namespace LuaPlugin

open Lua

/-! ## Requests -/

/-- What a host asks of a plugin that is loaded. -/
inductive Request
  | run
  | call (name : String) (args : List Datum) (result : Ty) (fewArgs : args.length ≤ 8)
      (fewResults : Vm.resultCount result ≤ 8)
  | global (name : String) (t : Ty)
  | setGlobal (name : String) (d : Datum)

/-- Answers a request. -/
def perform (p : LuaPlugin) : Request → Host (Except CallError Datum × LuaPlugin)
  | .run => do
    let (answer, p) ← p.run
    return (answer.map fun () => .unit, p)
  | .call name args result _ _ => p.call name args result
  | .global name t => p.global name t
  | .setGlobal name d => do
    let (answer, p) ← p.setGlobal name d
    return (answer.map fun () => .unit, p)

/-- The plugin after requests. Each is answered in a world of its own, which other plugins may have changed. -/
def after (p : LuaPlugin) : List (Request × World) → LuaPlugin
  | [] => p
  | (r, w) :: rs => after ((p.perform r).run w).1.2 rs

/-- How often the top level runs while requests are answered: once for each run of a plugin that is pending. -/
def topLevelRuns (p : LuaPlugin) : List (Request × World) → Nat
  | [] => 0
  | (.run, w) :: rs => (if p.isPending then 1 else 0) + topLevelRuns ((p.perform .run).run w).1.2 rs
  | (r, w) :: rs => topLevelRuns ((p.perform r).run w).1.2 rs

/-- Where the function of the top level is: alone on the stack until it runs, and then nowhere. -/
def Holds (f : Value) (p : LuaPlugin) : Prop := p.vm.stack = if p.isPending then #[f] else #[]

variable {p : LuaPlugin} {f : Value}

theorem Holds.stack (hf : p.Holds f) (hp : p.isPending) : p.vm.stack = #[f] := by
  rw [hf, if_pos hp]

theorem isPending_call (p : LuaPlugin) (name : String) (args : List Datum) (result : Ty) (w : World) :
    ((p.call name args result).run w).1.2.isPending = p.isPending := by
  rw [run_call]
  split
  · rfl
  · split <;> rfl

theorem isPending_global (p : LuaPlugin) (name : String) (t : Ty) (w : World) :
    ((p.global name t).run w).1.2.isPending = p.isPending := by
  rw [run_global]
  split <;> rfl

theorem isPending_setGlobal (p : LuaPlugin) (name : String) (d : Datum) (w : World) :
    ((p.setGlobal name d).run w).1.2.isPending = p.isPending := by
  rw [run_setGlobal]
  split <;> rfl

/-! ## Runs -/

/-- A plugin whose top level has run does nothing when it is asked for that again. -/
theorem run_of_not_isPending (hp : ¬p.isPending) (w : World) :
    p.run.run w = ((.error (.unknown "script has already been executed"), p), w) := by
  unfold run
  rw [if_neg hp]
  rfl

theorem run_of_isPending (hp : p.isPending) (w : World) : (p.run.run w).1 =
    let (result, vm) := (p.vm.pushValue (p.vm.stack.getD 0 .nil)).protectedCall 0 0
    (result.mapError fun e => .unknown e.message,
      { p with vm := (vm.resize 0).takeOutput.2, isPending := false }) := by
  unfold run
  rw [if_pos hp]
  dsimp only
  rcases (p.vm.pushValue (p.vm.stack.getD 0 .nil)).protectedCall 0 0 with ⟨result, vm⟩
  rfl

/-- A plugin that is pending runs its top level, and whatever that does, the stack is empty afterwards. -/
theorem run_pending (hf : p.Holds f) (hp : p.isPending) (w : World) :
    (p.run.run w).1.1 = ((p.vm.pushValue f).courseOf f []).outcome ∧ (p.run.run w).1.2.isPending = false ∧
      (p.run.run w).1.2.vm.stack = #[] := by
  have hstack : (p.vm.pushValue f).stack = #[f].push f ++ ([] : List Value).toArray := by
    simp [Vm.pushValue, hf.stack hp]
  have hget : p.vm.stack.getD 0 .nil = f := by simp [hf.stack hp]
  obtain ⟨vm, -, -, hcall⟩ := Vm.protectedCall_cases (k := 0) hstack (by decide : (0 : Int32).toInt = _)
  have hempty : (vm.resize 0).stack = #[] := by simp [Vm.resize]
  rw [run_of_isPending hp, hget]
  rcases hcall with ⟨vs, hcourse, hcall, -⟩ | ⟨e, hcall, -, ⟨v, hcourse, hm⟩ | ⟨hcourse, hm⟩⟩ <;> rw [hcall, hcourse]
  · exact ⟨rfl, rfl, hempty⟩
  · rw [Vm.Course.outcome, ← hm]
    exact ⟨rfl, rfl, hempty⟩
  · rw [Vm.Course.outcome_endless, ← hm]
    exact ⟨rfl, rfl, hempty⟩

/-! ## Steps -/

theorem run_perform_run (p : LuaPlugin) (w : World) : ((p.perform .run).run w).1.2 = (p.run.run w).1.2 := by
  unfold perform
  rfl

/-- A request to run the top level has it run; any other leaves the stack and the top level alone. -/
theorem holds_perform (hf : p.Holds f) (r : Request) (w : World) : ((p.perform r).run w).1.2.Holds f ∧
    (((p.perform r).run w).1.2.isPending ↔ p.isPending ∧ r ≠ .run) := by
  have hkeeps : ∀ {q : LuaPlugin}, q.vm.stack = p.vm.stack → q.isPending = p.isPending → r ≠ .run →
      q.Holds f ∧ (q.isPending ↔ p.isPending ∧ r ≠ .run) := by
    intro q hs hp hr
    exact ⟨by rw [Holds, hs, hp]; exact hf, by simp [hp, hr]⟩
  cases r with
  | run =>
    rw [run_perform_run]
    by_cases hp : p.isPending
    · obtain ⟨-, hpending, hs⟩ := run_pending hf hp w
      rw [Holds, hpending]
      exact ⟨hs, by simp⟩
    · rw [run_of_not_isPending hp]
      exact ⟨hf, by simp [hp]⟩
  | call name args result fewArgs fewResults =>
    exact hkeeps (call_course p name args result w fewArgs fewResults).1 (isPending_call p name args result w) nofun
  | global name t => exact hkeeps (stack_global p name t w) (isPending_global p name t w) nofun
  | setGlobal name d => exact hkeeps (stack_setGlobal p name d w) (isPending_setGlobal p name d w) nofun

/-- Whatever is asked of a plugin, its stack holds the function of the top level until that runs, which the first
request to run it does. -/
theorem holds_after (rs : List (Request × World)) : ∀ {p : LuaPlugin}, p.Holds f → (p.after rs).Holds f ∧
    ((p.after rs).isPending ↔ p.isPending ∧ ∀ r ∈ rs, r.1 ≠ .run) ∧
    p.topLevelRuns rs + (if (p.after rs).isPending then 1 else 0) = if p.isPending then 1 else 0 := by
  induction rs with
  | nil => exact fun hf => ⟨hf, by simp [after], Nat.zero_add _⟩
  | cons e rs ih =>
    obtain ⟨r, w⟩ := e
    intro p hf
    obtain ⟨hstep, hpending⟩ := holds_perform hf r w
    obtain ⟨hholds, hiff, hcount⟩ := ih hstep
    refine ⟨hholds, ?_, ?_⟩
    · rw [List.forall_mem_cons, ← and_assoc, ← hpending]
      exact hiff
    · cases r with
      | run =>
        have hran : ¬((p.perform .run).run w).1.2.isPending := fun h => (hpending.1 h).2 rfl
        rw [if_neg hran] at hcount
        rw [topLevelRuns, after]
        omega
      | _ =>
        simp only [ne_eq, reduceCtorEq, not_false_iff, and_true] at hpending
        simp only [hpending] at hcount
        exact hcount

/-! ## Loading -/

/-- Whether a plugin is a script that was compiled and has not run, with a function as its top level. -/
structure IsCompiled (path : Path) (options : LuaOptions) (files : FileTree) (f : Value) (p : LuaPlugin) : Prop where
  isPending : p.isPending
  stack : p.vm.stack = #[f]
  compiled : ∃ source body, files.readBytes path = .ok source ∧ parseChunk? (Bytes.toChars source) = some body ∧
    (f, p.vm.heap) = (if options.opensLibraries then ({} : Vm).openLibraries else {}).heap.addChunk body
      (Bytes.ofString ("@" ++ path.text))

theorem IsCompiled.holds {path : Path} {options : LuaOptions} {files : FileTree}
    (hc : IsCompiled path options files f p) : p.Holds f := by
  rw [Holds, hc.stack, if_pos hc.isPending]

/-- Compiling a chunk puts its function on the stack. -/
theorem loadChunk_ok {vm vm₁ : Vm} {source : ByteArray} {name : String} (h : vm.loadChunk source name = (.ok (), vm₁)) :
    ∃ body f, parseChunk? (Bytes.toChars source) = some body ∧
      (f, vm₁.heap) = vm.heap.addChunk body (Bytes.ofString name) ∧ vm₁.stack = vm.stack.push f := by
  unfold Vm.loadChunk at h
  split at h
  · cases h
  · split at h
    · next body hbody =>
      cases h
      exact ⟨body, _, hbody, rfl, rfl⟩
    · cases h

/-- What is asked of a plugin while it is loaded. -/
def startup (options : LuaOptions) (w : World) : List (Request × World) :=
  if options.runsOnLoad then [(.run, w)] else []

/-- A plugin that was loaded is a script that was compiled and, depending on the options, has run. -/
theorem load_ok {path : Path} {options : LuaOptions} {w w₁ : World} (h : (load path options).run w = (.ok p, w₁)) :
    ∃ fresh f, IsCompiled path options w.files f fresh ∧ p = fresh.after (startup options w) := by
  unfold load at h
  simp only [Host.files, StateT.run_bind, StateT.run_get, pure_bind, StateT.run_pure] at h
  split at h
  · cases h
  · next source hsource =>
    split at h
    · cases h
    · next vm hvm =>
      obtain ⟨body, f, hbody, hheap, hstack⟩ := loadChunk_ok hvm
      have hempty : (if options.opensLibraries then ({} : Vm).openLibraries else {}).stack = #[] := by
        split <;> rfl
      refine ⟨{ vm, path, isPending := true }, f, ⟨rfl, ?_, source, body, hsource, hbody, hheap⟩, ?_⟩
      · rw [hstack, hempty]
        rfl
      · rw [startup]
        split at h
        · next hruns =>
          rw [if_pos hruns]
          simp only [StateT.run_bind] at h
          rcases hr : (LuaPlugin.run { vm, path, isPending := true }).run w with ⟨⟨_ | ⟨⟩, q⟩, w₂⟩ <;> rw [hr] at h
          · cases h
          · cases h
            exact ((run_perform_run _ w).trans (congrArg (fun r => r.1.2) hr)).symm
        · next hruns =>
          rw [if_neg hruns]
          cases h
          rfl

/-- Loading a script that compiles, without running it. -/
theorem load_deferred {path : Path} (options : LuaOptions) {w : World} {source : ByteArray} {vm : Vm}
    (hs : w.files.readBytes path = .ok source) (ho : ¬options.runsOnLoad)
    (hc : (if options.opensLibraries then ({} : Vm).openLibraries else {}).loadChunk source ("@" ++ path.text) =
      (.ok (), vm)) : ∃ w₁, (load path options).run w = (.ok { vm, path, isPending := true }, w₁) := by
  unfold load
  simp only [Host.files, StateT.run_bind, StateT.run_get, pure_bind, StateT.run_pure, hs, hc, if_neg ho]
  exact ⟨_, rfl⟩

theorem after_append (rs ss : List (Request × World)) : ∀ p : LuaPlugin,
    p.after (rs ++ ss) = (p.after rs).after ss := by
  induction rs with
  | nil => exact fun _ => rfl
  | cons e rs ih => exact fun p => ih _

/-- The life of a plugin that was loaded, whatever is asked of it: the function `f` of its top level stays alone on
the stack until it runs, and then the stack is empty. The first request to run it does so, unless it ran while the
plugin was loaded, and answers as it goes; after that such a request does nothing but fail. -/
theorem after_life {path : Path} {options : LuaOptions} {w w₁ : World}
    (hload : (load path options).run w = (.ok p, w₁)) :
    ∃ fresh f, IsCompiled path options w.files f fresh ∧ p = fresh.after (startup options w) ∧ ∀ rs,
      (p.after rs).vm.stack = (if (p.after rs).isPending then #[f] else #[]) ∧
      ((p.after rs).isPending ↔ ¬options.runsOnLoad ∧ ∀ r ∈ rs, r.1 ≠ .run) ∧
      fresh.topLevelRuns (startup options w ++ rs) = (if (p.after rs).isPending then 0 else 1) ∧
      ∀ w', if (p.after rs).isPending then
          ((p.after rs).run.run w').1.1 = (((p.after rs).vm.pushValue f).courseOf f []).outcome
        else (p.after rs).run.run w' = ((.error (.unknown "script has already been executed"), p.after rs), w') := by
  obtain ⟨fresh, f, hc, rfl⟩ := load_ok hload
  refine ⟨fresh, f, hc, rfl, fun rs => ?_⟩
  obtain ⟨hholds, hpending, hcount⟩ := holds_after (startup options w ++ rs) hc.holds
  rw [← after_append]
  refine ⟨hholds, ?_, ?_, fun w' => ?_⟩
  · rw [hpending, and_iff_right hc.isPending, startup]
    split <;> simp_all
  · rw [if_pos hc.isPending] at hcount
    split at hcount <;> simp_all
  · split
    · next hp => exact (run_pending hholds hp w').1
    · next hp => exact run_of_not_isPending hp w'

/-- A directory with a script. -/
def sampleWorld : World := { files := ⟨[(["a.lua"], .file "x = 1".toUTF8)], []⟩ }

theorem readBytes_sampleWorld : sampleWorld.files.readBytes ⟨"a.lua"⟩ = .ok "x = 1".toUTF8 := by
  have hlocate : sampleWorld.files.locate ⟨"a.lua"⟩ = .ok ["a.lua"] := by
    have hpieces : (Path.mk "a.lua").pieces = ["a.lua"] := by cbv
    have habsolute : (Path.mk "a.lua").isAbsolute = false := by simp [Path.isAbsolute]
    rw [FileTree.locate, hpieces, habsolute, if_neg (by simp), if_neg (by decide), if_neg (by decide)]
    rfl
  rw [FileTree.readBytes, FileTree.node, hlocate]
  rfl

/-- A script that waits is run by the first request for that. -/
theorem after_life_deferred : ∃ p w₁,
    (load ⟨"a.lua"⟩ { opensLibraries := false, runsOnLoad := false }).run sampleWorld = (.ok p, w₁) ∧ p.isPending ∧
      (p.after [(.setGlobal "x" (.int 2), w₁), (.run, w₁), (.global "x" .nil, w₁)]).vm.stack = #[] := by
  have hchunk : ∃ vm, ({} : Vm).loadChunk "x = 1".toUTF8 "@a.lua" = (.ok (), vm) := by
    have hbody : (parseChunk? (Bytes.toChars "x = 1".toUTF8)).isSome := by decide +kernel
    obtain ⟨body, hbody⟩ := Option.isSome_iff_exists.1 hbody
    rw [Vm.loadChunk, if_neg (by decide), hbody]
    exact ⟨_, rfl⟩
  obtain ⟨vm, hvm⟩ := hchunk
  obtain ⟨w₁, hload⟩ := load_deferred { opensLibraries := false, runsOnLoad := false }
    readBytes_sampleWorld (by decide) hvm
  obtain ⟨fresh, f, hc, hfresh, hlife⟩ := after_life hload
  refine ⟨_, w₁, hload, rfl, ?_⟩
  obtain ⟨hs, hp, -⟩ := hlife [(.setGlobal "x" (.int 2), w₁), (.run, w₁), (.global "x" .nil, w₁)]
  rw [hs, if_neg]
  simp [hp]

end LuaPlugin

end PluginHost
