import PluginHost.Script.PythonObject

/-!
# Computations of an interpreter

How computations run, and which of them only read: looking at an object, at its class or at what a class inherits always
gives something and changes nothing (`Run.Reads`).
-/

namespace PluginHost.Python

namespace Run

variable {α β : Type} {i i' : Interp}

theorem bind_ok {x : Run α} {f : α → Run β} {a : α} (hx : x i = (.ok a, i')) : (x >>= f) i = f a i' := by
  show (ExceptT.bindCont f (x i).1) (x i).2 = _
  rw [hx]
  rfl

theorem get_run (i : Interp) : (get : Run Interp) i = (.ok i, i) := rfl

theorem object_run (id : Nat) (i : Interp) : object id i = (.ok (i.heap.getD id default), i) := rfl

theorem data_run (id : Nat) (i : Interp) : data id i = (.ok (i.heap.getD id default).data, i) := rfl

theorem pure_run (a : α) (i : Interp) : (pure a : Run α) i = (.ok a, i) := rfl

theorem alloc_run (o : Object) (i : Interp) : alloc o i = (.ok (.ref i.heap.size), { i with heap := i.heap.push o }) :=
  rfl

theorem at_ok {env : Env} {span : Span} {x : Run α} {a : α} (hx : x i = (.ok a, i')) :
    at_ env span x i = (.ok a, i') := by
  unfold at_
  rw [hx]

theorem inFrame_ok {env : Env} {x : Run α} {a : α} (hdepth : i.depth < depthLimit)
    (hx : x { i with depth := i.depth + 1, frames := env :: i.frames } = (.ok a, i')) :
    inFrame env x i = (.ok a, { i' with depth := i.depth, frames := i.frames, handled := i.handled }) := by
  unfold inFrame
  rw [if_neg (Nat.not_le.2 hdepth), hx]

/-- Whether a computation raises an exception. -/
def Raises (x : Run α) (i : Interp) : Prop := ∃ e isNoted i', x i = (.error (.error e isNoted), i')

theorem raises_fail (name message : String) (i : Interp) : (fail name message : Run α).Raises i := ⟨_, _, _, rfl⟩

theorem Raises.of_bind_ok {x : Run α} {f : α → Run β} {a : α} (hx : x i = (.ok a, i')) (hf : (f a).Raises i') :
    (x >>= f).Raises i := by
  obtain ⟨e, isNoted, i'', hf⟩ := hf
  exact ⟨e, isNoted, i'', (bind_ok hx).trans hf⟩

/-- Whether a computation gives something and changes nothing. -/
def Reads (x : Run α) (i : Interp) : Prop := ∃ a, x i = (.ok a, i)

namespace Reads

theorem pure (a : α) (i : Interp) : (Pure.pure a : Run α).Reads i := ⟨a, rfl⟩

theorem bind {x : Run α} {f : α → Run β} (hx : x.Reads i) (hf : ∀ a, (f a).Reads i) : (x >>= f).Reads i := by
  obtain ⟨a, hx⟩ := hx
  obtain ⟨b, hf⟩ := hf a
  exact ⟨b, (bind_ok hx).trans hf⟩

theorem object (id : Nat) (i : Interp) : (object id).Reads i := ⟨_, object_run id i⟩

theorem data (id : Nat) (i : Interp) : (data id).Reads i := ⟨_, data_run id i⟩

theorem anyM {f : α → Run Bool} (hf : ∀ a, (f a).Reads i) : ∀ xs : List α, (xs.anyM f).Reads i
  | [] => .pure false i
  | a :: xs => (hf a).bind fun found => by
    cases found
    · exact anyM hf xs
    · exact .pure true i

end Reads

end Run

/-! ## Objects and their classes -/

open Run (Reads)

theorem Value.typeId_reads (v : Value) (i : Interp) : v.typeId.Reads i := by
  cases v <;> exact ⟨_, rfl⟩

theorem classInfo_reads (cls : Nat) (i : Interp) : (classInfo cls).Reads i := by
  refine (Reads.data cls i).bind fun d => ?_
  cases d <;> exact .pure _ i

theorem Value.typeName_reads (v : Value) (i : Interp) : v.typeName.Reads i :=
  (v.typeId_reads i).bind fun id => (classInfo_reads id i).bind fun _ => .pure _ i

theorem classAttr_reads (cls : Nat) (name : String) (i : Interp) : (classAttr cls name).Reads i := by
  refine (classInfo_reads cls i).bind fun c => ?_
  generalize c.mro = classes
  induction classes with
  | nil => exact .pure _ i
  | cons b classes ih =>
    refine (Reads.object b i).bind fun o => ?_
    split
    · exact .pure _ i
    · exact ih

theorem Value.special?_reads (v : Value) (name : String) (i : Interp) : (v.special? name).Reads i := by
  cases v with
  | ref id =>
    refine (Reads.object id i).bind fun o => (classAttr_reads o.cls name i).bind fun a => ?_
    split <;> exact .pure _ i
  | _ => exact .pure _ i

theorem hasAttrs_reads (cls : Nat) (i : Interp) : (hasAttrs cls).Reads i :=
  (classInfo_reads cls i).bind fun c =>
    .anyM (fun b => (classInfo_reads b i).bind fun _ => .pure _ i) c.mro

theorem isCallable_reads (v : Value) (i : Interp) : (isCallable v).Reads i := by
  cases v with
  | ref id =>
    refine (Reads.object id i).bind fun o => ?_
    split <;> first | exact .pure _ i | exact (classAttr_reads o.cls "__call__" i).bind fun _ => .pure _ i
  | _ => exact .pure _ i

end PluginHost.Python
