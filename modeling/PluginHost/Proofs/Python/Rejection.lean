import PluginHost.Proofs.Python.Exceptions
import PluginHost.Proofs.Python.Globals

/-!
# Rejected requests

A plugin that rejects a request is what it was (`perform_rejected`). What a name stands for in an ordinary module is found
without running anything (`getAttr?_main_reads`), and what cannot be made or read leaves nothing behind.
-/

namespace PluginHost

namespace Python

variable {i : Interp} {name : String}

/-! ## Looking names up -/

/-- What every module has is found without making anything, apart from its names. -/
theorem computedAttr_reads {id names : Nat} (hid : (i.heap.getD id default).data = .module names)
    (hdict : name ≠ "__dict__") : (computedAttr (.ref id) name).Reads i := by
  unfold computedAttr
  split
  · exact ((Value.ref id).typeId_reads i).bind fun _ => .pure _ i
  · exact .pure _ i
  · dsimp only
    rw [Run.Reads, Run.bind_ok (Run.object_run id i)]
    simp only [hid]
    refine (hasAttrs_reads _ i).bind fun _ => ?_
    rw [if_neg fun h => hdict h.1]
    split
    · exact (classInfo_reads _ i).bind fun _ => .pure _ i
    · exact .pure _ i

theorem bindTo_native_reads (self : Value) (cls : Nat) (f : Native) (i : Interp) :
    ∃ bound, ∀ eng, bindTo eng self cls (.native f) i = (.ok bound, i) := by
  unfold bindTo
  dsimp only
  split
  · exact ⟨_, fun _ => rfl⟩
  · split <;> exact ⟨_, fun _ => rfl⟩

theorem mainAttr_reads (hm : i.HasPlainMain) (hdict : name ≠ "__dict__") (own : Option Value) {shared : Option Value}
    (hnative : ∀ a, shared = some a → ∃ f, a = .native f) :
    ∃ found, ∀ eng, mainAttr eng i name own shared i = (.ok found, i) := by
  obtain ⟨computed, hcomputed⟩ := computedAttr_reads hm.data hdict
  rcases own with _ | v
  · rcases shared with _ | a
    · exact ⟨computed, fun _ => hcomputed⟩
    · obtain ⟨f, rfl⟩ := hnative a rfl
      obtain ⟨bound, hbound⟩ := bindTo_native_reads (.ref i.main) (i.heap.getD i.main default).cls f i
      exact ⟨some bound, fun eng => Run.bind_ok (hbound eng)⟩
  · simp only [mainAttr]
    split
    · exact ⟨computed, fun _ => hcomputed⟩
    · exact ⟨some v, fun _ => rfl⟩

/-- What an ordinary module has under a name is found without running anything. -/
theorem plainAttr_main_reads (hm : i.HasPlainMain) (name : String) :
    ∃ found, ∀ eng, plainAttr eng (.ref i.main) name i = (.ok found, i) := by
  by_cases hdict : name = "__dict__"
  · refine ⟨some (.ref i.globals), fun eng => ?_⟩
    unfold plainAttr
    dsimp only
    rw [Run.bind_ok (Run.data_run i.main i)]
    simp only [hm.data, if_pos hdict]
    rfl
  · obtain ⟨shared, hshared, hnative⟩ := classAttr_run hm.cls name
    obtain ⟨found, hfound⟩ := mainAttr_reads hm hdict (i.global? name) hnative
    exact ⟨found, fun eng => (plainAttr_main_run eng hm hdict hshared hnative).trans (hfound eng)⟩

/-- What a name stands for in an ordinary module without a function for missing names is found without running
anything. -/
theorem getAttr?_main_reads (hm : i.HasPlainMain) (hstandIn : i.global? "__getattr__" = none) (name : String) :
    ∃ found, ∀ eng, getAttr? eng (.ref i.main) name i = (.ok found, i) := by
  obtain ⟨found, hfound⟩ := plainAttr_main_reads hm name
  refine ⟨found, fun eng => ?_⟩
  have hlook : lookName i.globals "__getattr__" i = (.ok (i.global? "__getattr__"), i) :=
    lookName_run i.globals "__getattr__" i
  unfold getAttr?
  rw [Run.bind_ok (special?_main hm "__getattr__")]
  dsimp only
  rw [Run.bind_ok (Run.data_run i.main i)]
  simp only [hm.data]
  rw [Run.bind_ok hlook, hstandIn]
  exact hfound eng

namespace Session

variable {s : Session} {t : Ty} {d : Datum}

theorem getAttr?_main_run (hs : s.pending = none) (hm : s.interp.HasPlainMain)
    (hstandIn : s.interp.global? "__getattr__" = none) (name : String) :
    ∃ found, getAttr? (.ref s.interp.main) name s = (found, s) := by
  obtain ⟨found, hfound⟩ := getAttr?_main_reads hm hstandIn name
  unfold getAttr?
  split
  · exact ⟨none, rfl⟩
  · refine ⟨found, ?_⟩
    have hattempt := attempt_ok (hfound engine)
    cases found with
    | some v => exact orClear_some (bind_eq hattempt)
    | none =>
      refine (orClear_none ((bind_eq hattempt).trans (refuse_run _ _ _))).trans ?_
      rw [← hs]

/-- Reading a global changes nothing, whatever it gives. -/
theorem global_reads (hs : s.pending = none) (hm : s.interp.HasPlainMain)
    (hstandIn : s.interp.global? "__getattr__" = none) (name : String) (t : Ty) :
    ∃ answer, global name t s = (answer, s) := by
  obtain ⟨_ | v, hfound⟩ := getAttr?_main_run hs hm hstandIn name <;> rw [global, bind_eq (main_run s), bind_eq hfound]
  · exact ⟨_, rfl⟩
  · dsimp only
    rw [bind_eq (get_run s), bind_eq ((read_gives s.interp.heap t v).run hs)]
    cases decode s.interp.heap t v <;> exact ⟨_, rfl⟩

theorem setGlobal_unmade (hs : s.pending = none) (hd : Draft.ofDatum? t d = none) (name : String) :
    setGlobal name t d s = (.error (.incorrectType "value cannot be converted to a Python object"), s) := by
  have hbuild := build_refused (s := s) (x := encode t d) (congrArg (Option.map _) hd)
  rw [← hs] at hbuild
  rw [setGlobal, make, bind_eq hbuild]
  rfl

end Session

end Python

namespace PythonPlugin

open Python

/-- What is asked of a plugin. -/
inductive Request
  | call (name : String) (args : List (Ty × Datum)) (result : Ty)
  | global (name : String) (t : Ty)
  | setGlobal (name : String) (t : Ty) (d : Datum)

/-- Answers a request. -/
def perform (p : PythonPlugin) : Request → Except CallError Datum × PythonPlugin
  | .call name args result => p.call name args result
  | .global name t => p.global name t
  | .setGlobal name t d =>
    let (answer, p) := p.setGlobal name t d
    (answer.map fun () => .unit, p)

/-- The plugin after requests. -/
def after (p : PythonPlugin) (rs : List Request) : PythonPlugin := rs.foldl (fun p r => (p.perform r).2) p

theorem after_append (p : PythonPlugin) (rs ss : List Request) : p.after (rs ++ ss) = (p.after rs).after ss :=
  List.foldl_append

/-- What a plugin answers to requests. -/
def answers (p : PythonPlugin) : List Request → List (Except CallError Datum)
  | [] => []
  | r :: rs => (p.perform r).1 :: answers (p.perform r).2 rs

variable {p : PythonPlugin}

/-- What a name stands for. -/
def found? (p : PythonPlugin) (name : String) : Option Value :=
  (p.run (Session.getAttr? (.ref p.interp.main) name)).1

/-- Whether a value can be called. -/
def isCallable (p : PythonPlugin) (f : Value) : Bool := (p.run (Session.isCallable f)).1

/-- The requests that a plugin rejects, with the error that it answers. -/
inductive Rejects (p : PythonPlugin) : Request → CallError → Prop
  | missing {name : String} {args : List (Ty × Datum)} {result : Ty} (hf : p.found? name = none) :
    Rejects p (.call name args result) (.symbolNotFound name)
  | notCallable {name : String} {args : List (Ty × Datum)} {result : Ty} {f : Value} (hf : p.found? name = some f)
      (hcallable : ¬p.isCallable f) : Rejects p (.call name args result) (.symbolNotFound name)
  /-- There is something to call, but an argument cannot be made. -/
  | unmade {name : String} {args : List (Ty × Datum)} {result : Ty} {f : Value} (hf : p.found? name = some f)
      (hcallable : p.isCallable f) (hargs : ∃ a ∈ args, Draft.ofDatum? a.1 a.2 = none) :
    Rejects p (.call name args result) (.incorrectType "arguments cannot be converted to Python objects")
  | unread {name : String} {t : Ty} {e : CallError} (h : (p.global name t).1 = .error e) : Rejects p (.global name t) e
  | unset {name : String} {t : Ty} {d : Datum} (hd : Draft.ofDatum? t d = none) :
    Rejects p (.setGlobal name t d) (.incorrectType "value cannot be converted to a Python object")

/-! ## No exception is set -/

theorem pending_perform (hp : p.interpreter.session.pending = none) (r : Request) :
    (p.perform r).2.interpreter.session.pending = none := by
  cases r with
  | call name args result => exact Session.settles_call name args result _ hp
  | global name t => exact Session.settles_global name t _ hp
  | setGlobal name t d => exact Session.settles_setGlobal name t d _ hp

theorem pending_requests (rs : List Request) : ∀ {p : PythonPlugin}, p.interpreter.session.pending = none →
    (p.after rs).interpreter.session.pending = none := by
  induction rs with
  | nil => exact fun hp => hp
  | cons r rs ih => exact fun hp => ih (pending_perform hp r)

theorem pending_start (options : PythonOptions) (w : World) :
    ((PythonInterpreter.start options).run w).1.session.pending = none := by
  unfold PythonInterpreter.start
  simp only [StateT.run_bind, StateT.run_get, pure_bind]
  split <;> rfl

theorem pending_load {path : Path} {options : PythonOptions} {w w₁ : World}
    (hload : (load path options).run w = (.ok p, w₁)) : p.interpreter.session.pending = none := by
  unfold load at hload
  simp only [Host.files, StateT.run_bind, StateT.run_get, pure_bind, StateT.run_pure] at hload
  split at hload
  · cases hload
  · next source _ =>
    have hexecute := PythonInterpreter.pending_execute (pending_start options w) source path
      ((PythonInterpreter.start options).run w).2
    simp only [StateT.run_bind] at hload
    dsimp only [bind] at hload
    rcases hran : (((PythonInterpreter.start options).run w).1.execute source path).run
      ((PythonInterpreter.start options).run w).2 with ⟨⟨_ | ⟨⟩, q⟩, w₂⟩ <;> rw [hran] at hload hexecute
    · cases hload
    · cases hload
      exact hexecute

/-! ## Rejections -/

/-- How a value can be called is found by looking at it. -/
theorem isCallable_run (p : PythonPlugin) (f : Value) : Python.isCallable f p.interp = (.ok (p.isCallable f), p.interp) := by
  obtain ⟨b, hb⟩ := isCallable_reads f p.interp
  have hcallable : p.isCallable f = b := congrArg Prod.fst (run_eq (Session.isCallable_run hb))
  rw [hcallable]
  exact hb

section Rejections

variable (hs : p.interpreter.session.pending = none) (hm : p.interp.HasPlainMain)
  (hstandIn : p.interp.global? "__getattr__" = none)
include hs hm hstandIn

theorem found?_run (name : String) : Session.getAttr? (.ref p.interp.main) name p.interpreter.session =
    (p.found? name, p.interpreter.session) := by
  obtain ⟨found, hget⟩ := Session.getAttr?_main_run hs hm hstandIn name
  have hfound : p.found? name = found := congrArg Prod.fst (run_eq hget)
  rw [hfound]
  exact hget

/-- A plugin that rejects a request is what it was. -/
theorem perform_rejects {r : Request} {e : CallError} (hr : p.Rejects r e) : p.perform r = (.error e, p) := by
  have hcalls : ∀ {name args result} {answer : Except CallError Datum},
      Session.Calls p.interpreter.session name args result answer p.interpreter.session →
        p.perform (.call name args result) = (answer, p) := fun h => run_eq (h.run hs)
  have hfound : ∀ {name found}, p.found? name = found →
      Session.getAttr? (.ref p.interp.main) name p.interpreter.session = (found, p.interpreter.session) := by
    rintro name _ rfl
    exact found?_run hs hm hstandIn name
  cases hr with
  | missing hf => exact hcalls (.missing (hfound hf))
  | @notCallable name args result f hf hcallable =>
    have hno : Python.isCallable f p.interp = (.ok false, p.interp) := by
      rw [isCallable_run, Bool.eq_false_iff.2 hcallable]
    exact hcalls (.notCallable (hfound hf) hno)
  | @unmade name args result f hf hcallable hargs =>
    have hyes : Python.isCallable f p.interp = (.ok true, p.interp) := by
      rw [isCallable_run, hcallable]
    exact hcalls (.notMade (hfound hf) hyes hargs)
  | @unread name t e h =>
    obtain ⟨answer, hglobal⟩ := Session.global_reads hs hm hstandIn name t
    have hrun : p.global name t = (answer, p) := run_eq hglobal
    rw [hrun] at h
    show p.global name t = _
    rw [hrun, show answer = .error e from h]
  | @unset name t d hd =>
    have hrun : p.setGlobal name t d = (_, p) := run_eq (Session.setGlobal_unmade hs hd name)
    rw [perform, hrun]
    rfl

end Rejections

/-- A request that a plugin rejects in the course of its life leaves it as it was, and the names that are looked up have
nothing run, whatever would run functions. Whatever is asked of it next is answered as it would have been. -/
theorem perform_rejected {path : Path} {options : PythonOptions} {w w₁ : World}
    (hload : (load path options).run w = (.ok p, w₁)) (rs : List Request) (hm : (p.after rs).interp.HasPlainMain)
    (hstandIn : (p.after rs).interp.global? "__getattr__" = none) {r : Request} {e : CallError}
    (hr : (p.after rs).Rejects r e) : (p.after rs).perform r = (.error e, p.after rs) ∧
      (∀ name, ∃ found, ∀ eng, Python.getAttr? eng (.ref (p.after rs).interp.main) name (p.after rs).interp =
        (.ok found, (p.after rs).interp)) ∧
      ∀ ss, (p.after (rs ++ [r])).answers ss = (p.after rs).answers ss ∧
        p.after (rs ++ r :: ss) = p.after (rs ++ ss) := by
  have hrun := perform_rejects (pending_requests rs (pending_load hload)) hm hstandIn hr
  have hstep : (p.after rs).after [r] = p.after rs := congrArg Prod.snd hrun
  refine ⟨hrun, getAttr?_main_reads hm hstandIn, fun ss => ⟨?_, ?_⟩⟩
  · rw [after_append, hstep]
  · rw [after_append, after_append]
    exact congrArg (after · ss) hstep

end PythonPlugin

end PluginHost
