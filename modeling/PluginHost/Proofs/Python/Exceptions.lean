import PluginHost.Backend.PythonPlugin
import PluginHost.Proofs.Python.Computations
import PluginHost.Proofs.Python.Keys
import PluginHost.Proofs.Python.Sessions

/-!
# Exceptions

An operation of the interpreter that raises an exception leaves it set, and one that is forgotten there would be taken
for the failure of the next. `pending_after` says that none is: whatever a host does with an interpreter, and whatever
the functions of a script raise, no exception is set afterwards. A call says what became of it, in one of the ways that
`Session.Calls` lists.
-/

namespace PluginHost

namespace Python.Session

variable {α β : Type}

/-! ## What becomes of the exception that is set -/

/-- Whether no exception is set after an operation if none was before. -/
def Settles (x : StateM Session α) : Prop := ∀ s, s.pending = none → (x s).2.pending = none

/-- Whether no exception is set after an operation, whatever was before. -/
def Clears (x : StateM Session α) : Prop := ∀ s, (x s).2.pending = none

/-- Whether an operation may set an exception only if it gives nothing. -/
def Signals (x : StateM Session (Option α)) : Prop :=
  ∀ s, s.pending = none → (x s).1.isSome → (x s).2.pending = none

theorem Clears.settles {x : StateM Session α} (hx : Clears x) : Settles x := fun s _ => hx s

theorem Settles.pure (a : α) : Settles (pure a) := fun _ hs => hs

theorem Settles.get : Settles (get : StateM Session Session) := fun _ hs => hs

theorem Settles.bind {x : StateM Session α} {f : α → StateM Session β} (hx : Settles x) (hf : ∀ a, Settles (f a)) :
    Settles (x >>= f) :=
  fun s hs => hf _ _ (hx s hs)

theorem Clears.clear : Clears clear := fun _ => rfl

theorem Clears.bind {x : StateM Session α} {f : α → StateM Session β} (hx : Clears x) (hf : ∀ a, Settles (f a)) :
    Clears (x >>= f) :=
  fun s => hf _ _ (hx s)

theorem Clears.of_rest {x : StateM Session α} {f : α → StateM Session β} (hf : ∀ a, Clears (f a)) : Clears (x >>= f) :=
  fun _ => hf _ _

theorem Gives.settles {x : StateM Session (Option α)} {r : Option α} (hx : Gives x r) : Settles x := fun s hs => by
  rw [hx.run hs]
  exact hs

/-- A computation sets an exception only if it raises it. -/
theorem Signals.attempt (x : Run α) : Signals (attempt x) := by
  intro s hs
  rcases hx : x s.interp with ⟨(⟨e, isNoted⟩ | _) | a, i⟩
  · rw [attempt_error hx]
    nofun
  · rw [attempt_exhausted hx]
    exact fun _ => hs
  · rw [attempt_ok hx]
    exact fun _ => hs

/-- What is done with the result of an operation that may set an exception. -/
theorem Signals.bind {x : StateM Session (Option α)} {f : Option α → StateM Session β} (hx : Signals x)
    (hsome : ∀ a, Settles (f (some a))) (hnone : Clears (f none)) : Settles (x >>= f) := by
  intro s hs
  rcases h : x s with ⟨_ | a, s'⟩ <;> rw [bind_eq h]
  · exact hnone s'
  · have hs' := hx s hs
    rw [h] at hs'
    exact hsome a s' (hs' rfl)

theorem Signals.settles_orClear {x : StateM Session (Option α)} (hx : Signals x) : Settles (orClear x) :=
  hx.bind (fun _ => .pure _) (Clears.clear.bind fun _ => .pure _)

theorem settles_attemptClear (x : Run α) : Settles (attemptClear x) := (Signals.attempt x).settles_orClear

/-! ## Operations -/

theorem settles_getAttr? (v : Value) (name : String) : Settles (getAttr? v name) := by
  unfold getAttr?
  split
  · exact .pure _
  · refine Signals.settles_orClear fun s hs => ?_
    have hattempt := Signals.attempt (Python.getAttr? engine v name) s hs
    rcases h : attempt (Python.getAttr? engine v name) s with ⟨_ | _ | a, s'⟩ <;> rw [bind_eq h] <;> rw [h] at hattempt
    · nofun
    · nofun
    · exact fun _ => hattempt rfl

theorem settles_isCallable (v : Value) : Settles (isCallable v) :=
  (settles_attemptClear _).bind fun _ => .pure _

theorem settles_typeName (v : Value) : Settles (typeName v) :=
  (settles_attemptClear _).bind fun _ => .pure _

theorem settles_str? (v : Value) : Settles (str? v) := by
  refine (settles_attemptClear _).bind fun r => ?_
  cases r with
  | none => exact .pure _
  | some t => exact (characters?_gives t).settles

theorem settles_build (x : Heap → Option (α × Heap)) : Settles (build x) := by
  intro s hs
  cases hx : x s.interp.heap with
  | none => rw [build_refused hx]
  | some made => rw [build_run hx]; exact hs

theorem settles_read (h : Heap) (t : Ty) (v : Value) : Settles (read h t v) := (read_gives h t v).settles

theorem settles_reportTraceback (trace : List TraceEntry) : Settles (reportTraceback trace) := by
  refine (settles_attemptClear _).bind fun module => ?_
  cases module with
  | none => exact .pure _
  | some module =>
    refine (settles_getAttr? _ _).bind fun f => ?_
    cases f with
    | none => exact .pure _
    | some f =>
      refine (settles_attemptClear _).bind fun lines => ?_
      cases lines with
      | none => exact .pure _
      | some v =>
        refine Settles.get.bind fun s => (settles_read _ _ _).bind fun texts => ?_
        split <;> exact .pure _

theorem settles_normalized (p : Pending) : Settles (normalized p) := by
  refine (Signals.attempt _).bind (fun _ => .pure _) ?_
  refine .of_rest fun s => Clears.clear.bind fun _ => ?_
  split
  · exact settles_attemptClear _
  · exact .pure _

theorem settles_nameOf (kind : Value) : Settles (nameOf kind) := by
  refine (settles_getAttr? _ _).bind fun n => ?_
  cases n with
  | none => exact .pure _
  | some n => exact settles_str? n

theorem settles_tracebackOf (e : Value) : Settles (tracebackOf e) := by
  refine (settles_attemptClear _).bind fun trace => ?_
  split
  · exact .pure _
  · exact .pure _
  · exact settles_reportTraceback _

theorem settles_describe (kind e : Value) : Settles (describe kind e) :=
  (settles_nameOf kind).bind fun _ => (settles_str? e).bind fun _ => (settles_tracebackOf e).bind fun _ => .pure _

/-- Taking the exception that is set leaves none, though its text and the report of its places are made by running more
of the script. -/
theorem clears_fetch : Clears fetch := by
  intro s
  rw [fetch, bind_eq (get_run s)]
  cases hp : s.pending with
  | none => exact hp
  | some p =>
    refine Clears.clear.bind (fun _ => (settles_normalized p).bind fun made => ?_) s
    cases made with
    | none => exact .pure _
    | some made => exact (settles_describe made.1 made.2).bind fun _ => Clears.clear.settles.bind fun _ => .pure _

theorem clears_fetchAny : Clears fetchAny := clears_fetch.bind fun _ => .pure _

theorem settles_setAttr (v : Value) (name : String) (new : Value) : Settles (setAttr v name new) := by
  unfold setAttr
  split
  · exact .pure _
  · exact (Signals.attempt _).bind (fun _ => .pure _) (clears_fetchAny.bind fun _ => .pure _)

theorem settles_callValue (f : Value) (args : List Value) : Settles (callValue f args) :=
  (Signals.attempt _).bind (fun _ => .pure _) (clears_fetchAny.bind fun _ => .pure _)

theorem settles_runModule (body : List Stmt) (path : String) : Settles (runModule body path) :=
  (Signals.attempt _).bind (fun _ => .pure _) (clears_fetchAny.bind fun _ => .pure _)

theorem settles_main : Settles main := fun _ hs => hs

theorem settles_call (name : String) (args : List (Ty × Datum)) (result : Ty) : Settles (call name args result) := by
  refine settles_main.bind fun module => (settles_getAttr? _ _).bind fun f => ?_
  cases f with
  | none => exact .pure _
  | some f =>
    refine (settles_isCallable f).bind fun callable => ?_
    split
    · refine (settles_build _).bind fun vs => ?_
      cases vs with
      | none => exact .pure _
      | some vs =>
        refine (settles_callValue f vs).bind fun answer => ?_
        cases answer with
        | error e => exact .pure _
        | ok v =>
          refine Settles.get.bind fun s => (readResult_gives _ _ _).settles.bind fun d => ?_
          cases d <;> exact .pure _
    · exact .pure _

theorem settles_global (name : String) (t : Ty) : Settles (global name t) := by
  refine settles_main.bind fun module => (settles_getAttr? _ _).bind fun v => ?_
  cases v with
  | none => exact .pure _
  | some v =>
    refine Settles.get.bind fun s => (settles_read _ _ _).bind fun d => ?_
    cases d <;> exact .pure _

theorem settles_setGlobal (name : String) (t : Ty) (d : Datum) : Settles (setGlobal name t d) := by
  refine (settles_build _).bind fun v => ?_
  cases v with
  | none => exact .pure _
  | some v =>
    refine settles_main.bind fun module => (settles_setAttr _ _ _).bind fun r => ?_
    cases r <;> exact .pure _

/-! ## Calls -/

/-- How a call of what has a name ends, and what it leaves. The name is looked up, then the arguments are made, then the
function runs, and at last its result is read; what comes later does not happen if something goes wrong before. -/
inductive Calls (s : Session) (name : String) (args : List (Ty × Datum)) (result : Ty) :
    Except CallError Datum → Session → Prop
  | missing {s' : Session} (hf : getAttr? (.ref s.interp.main) name s = (none, s')) :
    Calls s name args result (.error (.symbolNotFound name)) s'
  | notCallable {f : Value} {s' : Session} (hf : getAttr? (.ref s.interp.main) name s = (some f, s'))
      (hcallable : Python.isCallable f s'.interp = (.ok false, s'.interp)) :
    Calls s name args result (.error (.symbolNotFound name)) s'
  /-- The function does not run. -/
  | notMade {f : Value} {s' : Session} (hf : getAttr? (.ref s.interp.main) name s = (some f, s'))
      (hcallable : Python.isCallable f s'.interp = (.ok true, s'.interp))
      (hargs : ∃ a ∈ args, Draft.ofDatum? a.1 a.2 = none) :
    Calls s name args result (.error (.incorrectType "arguments cannot be converted to Python objects")) s'
  | raised {f e : Value} {isNoted : Bool} {s' s'' : Session} {vs : List Value} {heap : Heap} {i : Interp}
      {report : ExceptionReport} (hf : getAttr? (.ref s.interp.main) name s = (some f, s'))
      (hcallable : Python.isCallable f s'.interp = (.ok true, s'.interp))
      (hargs : encodeAll args s'.interp.heap = some (vs, heap))
      (hrun : engine.call f vs [] { s'.interp with heap } = (.error (.error e isNoted), i))
      (hreport : fetchAny { interp := i, pending := some (.raised e) } = (report, s'')) :
    Calls s name args result (.error (.unknown report.message)) s''
  /-- The fuel of the evaluation runs out: the function does not end. -/
  | endless {f : Value} {s' : Session} {vs : List Value} {heap : Heap} {i : Interp}
      (hf : getAttr? (.ref s.interp.main) name s = (some f, s'))
      (hcallable : Python.isCallable f s'.interp = (.ok true, s'.interp))
      (hargs : encodeAll args s'.interp.heap = some (vs, heap))
      (hrun : engine.call f vs [] { s'.interp with heap } = (.error .exhausted, i)) :
    Calls s name args result (.error (.unknown ({} : ExceptionReport).message)) { interp := i }
  | notRead {f v : Value} {s' : Session} {vs : List Value} {heap : Heap} {i : Interp}
      (hf : getAttr? (.ref s.interp.main) name s = (some f, s'))
      (hcallable : Python.isCallable f s'.interp = (.ok true, s'.interp))
      (hargs : encodeAll args s'.interp.heap = some (vs, heap))
      (hrun : engine.call f vs [] { s'.interp with heap } = (.ok v, i)) (hread : decodeResult i.heap result v = none) :
    Calls s name args result (.error (.incorrectType "returned value does not match the requested type")) { interp := i }
  | returned {f v : Value} {d : Datum} {s' : Session} {vs : List Value} {heap : Heap} {i : Interp}
      (hf : getAttr? (.ref s.interp.main) name s = (some f, s'))
      (hcallable : Python.isCallable f s'.interp = (.ok true, s'.interp))
      (hargs : encodeAll args s'.interp.heap = some (vs, heap))
      (hrun : engine.call f vs [] { s'.interp with heap } = (.ok v, i)) (hread : decodeResult i.heap result v = some d) :
    Calls s name args result (.ok d) { interp := i }

section Calls

variable {s s' : Session} {name : String} {args : List (Ty × Datum)} {result : Ty} {f : Value}

theorem settled_of_getAttr? {v : Value} {r : Option Value} (hs : s.pending = none) (h : getAttr? v name s = (r, s')) :
    s'.pending = none := by
  have hsettled := settles_getAttr? v name s hs
  rwa [h] at hsettled

theorem isCallable_run {b : Bool} (h : Python.isCallable f s.interp = (.ok b, s.interp)) : isCallable f s = (b, s) := by
  have hattempt : attemptClear (Python.isCallable f) s = (some b, s) := orClear_some (attempt_ok h)
  rw [isCallable, bind_eq hattempt]
  cases b <;> rfl

theorem encodeAll_eq_none_iff : ∀ {args : List (Ty × Datum)} {h : Heap},
    encodeAll args h = none ↔ ∃ a ∈ args, Draft.ofDatum? a.1 a.2 = none
  | [], h => by simp [encodeAll]
  | (t, d) :: args, h => by
    rw [encodeAll, encode]
    cases hd : Draft.ofDatum? t d with
    | none => simp [hd]
    | some x =>
      simp only [Option.map_some, List.mem_cons, exists_eq_or_imp, hd, reduceCtorEq, false_or]
      rw [← encodeAll_eq_none_iff (h := (x.place h).2)]
      cases encodeAll args (x.place h).2 <;> simp

/-- What a call does once there is something to call. -/
theorem call_found (hf : getAttr? (.ref s.interp.main) name s = (some f, s'))
    (hcallable : Python.isCallable f s'.interp = (.ok true, s'.interp)) : call name args result s = (do
      match ← makeAll args with
      | none => return .error (.incorrectType "arguments cannot be converted to Python objects")
      | some vs => match ← callValue f vs with
        | .error e => return .error (.unknown e.message)
        | .ok v => match ← readResult (← get).interp.heap result v with
          | some d => return .ok d
          | none => return .error (.incorrectType "returned value does not match the requested type") :
      StateM Session (Except CallError Datum)) s' := by
  rw [call, bind_eq (main_run s), bind_eq hf]
  dsimp only
  rw [bind_eq (isCallable_run hcallable)]
  exact congrFun (if_pos rfl) s'

theorem callValue_raised {e : Value} {isNoted : Bool} {vs : List Value} {i : Interp} {report : ExceptionReport}
    (hrun : engine.call f vs [] s.interp = (.error (.error e isNoted), i))
    (hreport : fetchAny { interp := i, pending := some (.raised e) } = (report, s')) :
    callValue f vs s = (.error report, s') := by
  rw [callValue, bind_eq (attempt_error hrun)]
  dsimp only
  rw [bind_eq hreport]
  rfl

theorem callValue_returned {v : Value} {vs : List Value} {i : Interp} (hrun : engine.call f vs [] s.interp = (.ok v, i)) :
    callValue f vs s = (.ok v, { s with interp := i }) := by
  rw [callValue, bind_eq (attempt_ok hrun)]
  rfl

theorem callValue_endless {vs : List Value} {i : Interp} (hs : s.pending = none)
    (hrun : engine.call f vs [] s.interp = (.error .exhausted, i)) : callValue f vs s = (.error {}, { interp := i }) := by
  have hfetch : fetchAny { interp := i } = ({}, { interp := i }) := rfl
  rw [callValue, bind_eq (attempt_exhausted hrun)]
  dsimp only
  rw [hs, bind_eq hfetch]
  rfl

section Found

variable {vs : List Value} {heap : Heap} {i : Interp} (hf : getAttr? (.ref s.interp.main) name s = (some f, s'))
  (hcallable : Python.isCallable f s'.interp = (.ok true, s'.interp))
  (hargs : encodeAll args s'.interp.heap = some (vs, heap))
include hf hcallable hargs

theorem call_failed {e : ExceptionReport} {s'' : Session}
    (hrun : callValue f vs { s' with interp := { s'.interp with heap } } = (.error e, s'')) :
    call name args result s = (.error (.unknown e.message), s'') := by
  rw [call_found hf hcallable, makeAll, bind_eq (build_run hargs)]
  dsimp only
  rw [bind_eq hrun]
  rfl

theorem call_ended {v : Value} (hs : s'.pending = none)
    (hrun : engine.call f vs [] { s'.interp with heap } = (.ok v, i)) :
    call name args result s = (match decodeResult i.heap result v with
      | some d => .ok d
      | none => .error (.incorrectType "returned value does not match the requested type"), { interp := i }) := by
  rw [call_found hf hcallable, makeAll, bind_eq (build_run hargs)]
  dsimp only
  rw [bind_eq (callValue_returned hrun)]
  dsimp only
  rw [hs, bind_eq (get_run _), bind_eq ((readResult_gives i.heap result v).run rfl)]
  cases decodeResult i.heap result v <;> rfl

end Found

variable {r : Except CallError Datum}

theorem Calls.run (hs : s.pending = none) (h : Calls s name args result r s') : call name args result s = (r, s') := by
  cases h with
  | missing hf =>
    rw [call, bind_eq (main_run s), bind_eq hf]
    rfl
  | notCallable hf hcallable =>
    rw [call, bind_eq (main_run s), bind_eq hf]
    dsimp only
    rw [bind_eq (isCallable_run hcallable)]
    rfl
  | notMade hf hcallable hargs =>
    rw [call_found hf hcallable, makeAll, bind_eq (build_refused (encodeAll_eq_none_iff.2 hargs)),
      ← settled_of_getAttr? hs hf]
    rfl
  | raised hf hcallable hargs hrun hreport =>
    exact call_failed hf hcallable hargs (callValue_raised hrun hreport)
  | endless hf hcallable hargs hrun =>
    have hs' := settled_of_getAttr? hs hf
    exact call_failed hf hcallable hargs (callValue_endless hs' hrun)
  | notRead hf hcallable hargs hrun hread =>
    rw [call_ended hf hcallable hargs (settled_of_getAttr? hs hf) hrun, hread]
  | returned hf hcallable hargs hrun hread =>
    rw [call_ended hf hcallable hargs (settled_of_getAttr? hs hf) hrun, hread]

/-- A call ends in one of the ways. -/
theorem exists_calls (s : Session) (name : String) (args : List (Ty × Datum)) (result : Ty) :
    ∃ r s', Calls s name args result r s' := by
  rcases hf : getAttr? (.ref s.interp.main) name s with ⟨_ | f, s'⟩
  · exact ⟨_, _, .missing hf⟩
  · obtain ⟨_ | _, hcallable⟩ := isCallable_reads f s'.interp
    · exact ⟨_, _, .notCallable hf hcallable⟩
    · cases hargs : encodeAll args s'.interp.heap with
      | none => exact ⟨_, _, .notMade hf hcallable (encodeAll_eq_none_iff.1 hargs)⟩
      | some made =>
        rcases hrun : engine.call f made.1 [] { s'.interp with heap := made.2 } with ⟨(⟨e, isNoted⟩ | _) | v, i⟩
        · exact ⟨_, _, .raised hf hcallable hargs hrun rfl⟩
        · exact ⟨_, _, .endless hf hcallable hargs hrun⟩
        · cases hread : decodeResult i.heap result v with
          | none => exact ⟨_, _, .notRead hf hcallable hargs hrun hread⟩
          | some d => exact ⟨_, _, .returned hf hcallable hargs hrun hread⟩

/-- A call ends as `Calls` says, and in no other way. -/
theorem call_eq_iff (hs : s.pending = none) : call name args result s = (r, s') ↔ Calls s name args result r s' := by
  refine ⟨fun h => ?_, Calls.run hs⟩
  obtain ⟨r', s'', hcalls⟩ := exists_calls s name args result
  obtain ⟨rfl, rfl⟩ := Prod.mk.inj ((hcalls.run hs).symm.trans h)
  exact hcalls

end Calls

/-! ## Reports -/

/-- A text that a host gets; the empty one if there is none, or none that is made of characters only. -/
def textOf : Except Raised Text → String
  | .ok t => t.string?.getD ""
  | .error _ => ""

/-- The name of a class is an attribute of it, whatever stands in for those that it lacks. -/
theorem getAttr?_name {i : Interp} {k : Nat} {c : ClassInfo} (hk : (i.heap.getD k default).data = .cls c) :
    Python.getAttr? engine (.ref k) "__name__" i = (.ok (some (.ofString c.name)), i) := by
  have hplain : plainAttr engine (.ref k) "__name__" i = (.ok (some (.ofString c.name)), i) := by
    unfold plainAttr
    dsimp only
    rw [Run.bind_ok (Run.data_run k i), hk]
    rfl
  have hattempt : Run.attempt (plainAttr engine (.ref k) "__name__") i = (.ok (.ok (some (.ofString c.name))), i) := by
    rw [Run.attempt, hplain]
  obtain ⟨f, hf⟩ := Value.special?_reads (.ref k) "__getattr__" i
  unfold Python.getAttr?
  rw [Run.bind_ok hf]
  cases f with
  | none =>
    dsimp only
    rw [Run.bind_ok (Run.data_run k i), hk]
    exact hplain
  | some f =>
    dsimp only
    rw [Run.bind_ok (Run.pure_run _ i)]
    dsimp only
    rw [Run.bind_ok hattempt]
    rfl

theorem nameOf_run {k : Nat} {c : ClassInfo} (hk : (s.interp.heap.getD k default).data = .cls c) :
    nameOf (.ref k) s = (some c.name, s) := by
  have hattr : getAttr? (.ref k) "__name__" s = (some (.ofString c.name), s) := by
    unfold getAttr?
    rw [if_neg (by simp)]
    exact orClear_some (bind_eq (attempt_ok (getAttr?_name hk)))
  have htext : attemptClear (str engine (.ofString c.name)) s = (some (.ofString c.name), s) :=
    orClear_some (attempt_ok rfl)
  have hchars := characters?_gives (Text.ofString c.name)
  rw [string?_ofString] at hchars
  rw [nameOf, bind_eq hattr]
  dsimp only
  rw [str?, bind_eq htext]
  exact hchars.some s

theorem str?_fst (v : Value) (s : Session) : ((str? v s).1).getD "" = textOf (str engine v s.interp).1 := by
  rcases hv : str engine v s.interp with ⟨(⟨e, isNoted⟩ | _) | t, i⟩
  · rw [str?, bind_eq (show attemptClear (str engine v) s = (none, _) from orClear_none (attempt_error hv))]
    rfl
  · rw [str?, bind_eq (show attemptClear (str engine v) s = (none, _) from orClear_none (attempt_exhausted hv))]
    rfl
  · rw [str?, bind_eq (show attemptClear (str engine v) s = (some t, _) from orClear_some (attempt_ok hv))]
    rcases characters?_gives t { s with interp := i } with h | ⟨hnone, h⟩
    · exact congrArg (fun r => (Prod.fst r).getD "") h
    · rw [textOf, hnone]
      exact congrArg (fun r => (Prod.fst r).getD "") h

/-- The report of an exception that was raised has the name of its type, its text and the places that it went through. -/
theorem fetchAny_raised {e : Value} {i : Interp} {k : Nat} {c : ClassInfo} (he : e.typeId i = (.ok k, i))
    (hk : (i.heap.getD k default).data = .cls c) : (fetchAny { interp := i, pending := some (.raised e) }).1 =
      { typeName := c.name, value := textOf (str engine e i).1
        traceback := (tracebackOf e (str? e { interp := i }).2).1 } := by
  have hnormal : normalize (.raised e) i = (.ok (.ref k, e), i) := Run.bind_ok he
  have hmade : normalized (.raised e) { interp := i } = (some (.ref k, e), { interp := i }) := by
    rw [normalized, bind_eq (attempt_ok hnormal)]
    rfl
  have hfetch : fetch { interp := i, pending := some (.raised e) } =
      (do let report ← describe (.ref k) e; clear; return some report : StateM Session _) { interp := i } := by
    rw [fetch, bind_eq (get_run _)]
    dsimp only
    rw [bind_eq (show clear _ = ((), { interp := i }) from rfl), bind_eq hmade]
  have hname : nameOf (.ref k) { interp := i } = (some c.name, { interp := i }) := nameOf_run hk
  have htext := str?_fst e { interp := i }
  rw [fetchAny, bind_eq (Prod.mk.eta (p := fetch _)).symm, hfetch, ← htext]
  show (describe (.ref k) e { interp := i }).1 = _
  rw [describe, bind_eq hname]
  rfl

end Python.Session

/-! ## Histories -/

namespace PythonInterpreter

open Python

/-- What a host does with an interpreter. -/
inductive Operation
  | execute (source : String) (path : Path)
  | call (name : String) (args : List (Ty × Datum)) (result : Ty)
  | global (name : String) (t : Ty)
  | setGlobal (name : String) (t : Ty) (d : Datum)
  | getAttr (v : Value) (name : String)
  | setAttr (v : Value) (name : String) (new : Value)
  | callObject (f : Value) (args : List Value)
  | str (v : Value)
  | typeName (v : Value)
  | isCallable (v : Value)
  | make (t : Ty) (d : Datum)
  | makeAll (args : List (Ty × Datum))
  | read (t : Ty) (v : Value)
  | fetch
  /-- Sets an exception and takes it. -/
  | fetchSet (kind value : Value)

variable {p : PythonInterpreter}

/-- Does something with an interpreter, which answers, and is not what it was. -/
def perform (p : PythonInterpreter) : Operation → Host PythonInterpreter
  | .execute source path => return (← p.execute source path).2
  | .call name args result => return (p.run (Session.call name args result)).2
  | .global name t => return (p.run (Session.global name t)).2
  | .setGlobal name t d => return (p.run (Session.setGlobal name t d)).2
  | .getAttr v name => return (p.run (Session.getAttr? v name)).2
  | .setAttr v name new => return (p.run (Session.setAttr v name new)).2
  | .callObject f args => return (p.run (Session.callValue f args)).2
  | .str v => return (p.run (Session.str? v)).2
  | .typeName v => return (p.run (Session.typeName v)).2
  | .isCallable v => return (p.run (Session.isCallable v)).2
  | .make t d => return (p.run (Session.make t d)).2
  | .makeAll args => return (p.run (Session.makeAll args)).2
  | .read t v => return (p.run (do Session.read (← get).interp.heap t v)).2
  | .fetch => return (p.run Session.fetch).2
  | .fetchSet kind value => return (p.run (do Session.setException kind value; Session.fetch)).2

/-- The interpreter after operations. Each is done in a world of its own, which others may have changed. -/
def after (p : PythonInterpreter) : List (Operation × World) → PythonInterpreter
  | [] => p
  | (o, w) :: os => after ((p.perform o).run w).1 os

theorem pending_execute (hp : p.session.pending = none) (source : String) (path : Path) (w : World) :
    ((p.execute source path).run w).1.2.session.pending = none := by
  unfold execute
  split
  · exact hp
  · split
    · exact Session.Clears.of_rest (x := (Session.refuse "SyntaxError" "invalid syntax" : StateM Session (Option Unit)))
        (fun _ => Session.clears_fetchAny) p.session
    · next body _ =>
      have hnamed :
          (p.run (do Session.setAttr (← Session.main) "__file__" (.ofString path.text))).2.session.pending = none :=
        Session.settles_main.bind (fun module => Session.settles_setAttr module _ _) p.session hp
      dsimp only
      generalize (p.run (do Session.setAttr (← Session.main) "__file__" (.ofString path.text))) = named at hnamed ⊢
      obtain ⟨answer, q⟩ := named
      have hran : (q.run (Session.runModule body path.text)).2.session.pending = none :=
        Session.settles_runModule body path.text _ hnamed
      dsimp only
      generalize q.run (Session.runModule body path.text) = ran at hran ⊢
      cases answer <;> rcases ran with ⟨_ | _, r⟩ <;> exact hran

/-- No operation leaves an exception set. -/
theorem pending_perform (hp : p.session.pending = none) (o : Operation) (w : World) :
    ((p.perform o).run w).1.session.pending = none := by
  cases o with
  | execute source path => exact pending_execute hp source path w
  | call name args result => exact Session.settles_call name args result _ hp
  | global name t => exact Session.settles_global name t _ hp
  | setGlobal name t d => exact Session.settles_setGlobal name t d _ hp
  | getAttr v name => exact Session.settles_getAttr? v name _ hp
  | setAttr v name new => exact Session.settles_setAttr v name new _ hp
  | callObject f args => exact Session.settles_callValue f args _ hp
  | str v => exact Session.settles_str? v _ hp
  | typeName v => exact Session.settles_typeName v _ hp
  | isCallable v => exact Session.settles_isCallable v _ hp
  | make t d => exact Session.settles_build _ _ hp
  | makeAll args => exact Session.settles_build _ _ hp
  | read t v => exact Session.Settles.get.bind (fun s => Session.settles_read _ t v) _ hp
  | fetch => exact Session.clears_fetch _
  | fetchSet kind value => exact Session.Clears.of_rest (fun _ => Session.clears_fetch) _

theorem pending_operations (hp : p.session.pending = none) (os : List (Operation × World)) :
    (p.after os).session.pending = none := by
  induction os generalizing p with
  | nil => exact hp
  | cons e os ih => exact ih (pending_perform hp e.1 e.2)

/-- Whatever is done with an interpreter, no exception is set in it afterwards. A call ends as `Session.Calls` says, and
what is reported of an exception that the function raises has the name of its type and its text. -/
theorem pending_after (hp : p.session.pending = none) (os : List (Operation × World)) :
    (p.after os).session.pending = none ∧
    (∀ name args result r s, (Session.call name args result).run (p.after os).session = (r, s) ↔
      Session.Calls (p.after os).session name args result r s) ∧
    ∀ e i k c, e.typeId i = (.ok k, i) → (i.heap.getD k default).data = .cls c →
      (Session.fetchAny { interp := i, pending := some (.raised e) }).1 =
        { typeName := c.name, value := Session.textOf (Python.str engine e i).1
          traceback := (Session.tracebackOf e (Session.str? e { interp := i }).2).1 } :=
  ⟨pending_operations hp os, fun _ _ _ _ _ => Session.call_eq_iff (pending_operations hp os),
    fun _ _ _ _ he hk => Session.fetchAny_raised he hk⟩

/-- An interpreter that has run nothing, with an exception as its last object. -/
def sampleRaised : Interp :=
  let i : Interp := .start ⟨[], []⟩
  { i with heap := i.heap.push { cls := exceptionId "ValueError", data := .exception { args := [.ofString "boom"] } } }

/-- What the class of that exception is called. -/
def sampleClassName : Option String :=
  match (sampleRaised.heap.getD (exceptionId "ValueError") default).data with
  | .cls c => some c.name
  | _ => none

/-- An interpreter that has run a script, and a function of it that raises an exception. -/
def sampleFailed : PythonInterpreter :=
  let w : World := { files := ⟨[], []⟩ }
  after { session := { interp := sampleRaised } }
    [(.execute "def f():\n    raise ValueError('boom')\n" ⟨"a.py"⟩, w), (.call "f" [] .unit, w)]

/-- The function may be called again, and the exception is reported under its name. -/
theorem pending_after_sampleFailed : sampleFailed.session.pending = none ∧
    (∀ r s, (Session.call "f" [] .unit).run sampleFailed.session = (r, s) ↔
      Session.Calls sampleFailed.session "f" [] .unit r s) ∧
    (Session.fetchAny { interp := sampleRaised
                        pending := some (.raised (.ref (sampleRaised.heap.size - 1))) }).1.typeName = "ValueError" := by
  obtain ⟨hpending, hcall, hreport⟩ := pending_after (p := { session := { interp := sampleRaised } }) rfl
    [(.execute "def f():\n    raise ValueError('boom')\n" ⟨"a.py"⟩, { files := ⟨[], []⟩ }),
      (.call "f" [] .unit, { files := ⟨[], []⟩ })]
  refine ⟨hpending, hcall "f" [] .unit, ?_⟩
  have htype : (Value.ref (sampleRaised.heap.size - 1)).typeId sampleRaised =
      (.ok (exceptionId "ValueError"), sampleRaised) := by
    have hcls : (sampleRaised.heap.getD (sampleRaised.heap.size - 1) default).cls = exceptionId "ValueError" := by
      decide +kernel
    rw [← hcls]
    rfl
  have hclass : sampleClassName = some "ValueError" := by decide +kernel
  unfold sampleClassName at hclass
  split at hclass
  · next c hc =>
    rw [hreport _ _ _ c htype hc]
    exact Option.some.inj hclass
  · cases hclass

end PythonInterpreter

end PluginHost
