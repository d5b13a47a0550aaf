import PluginHost.Proofs.Data.Values
import PluginHost.Proofs.Python.Exceptions
import PluginHost.Proofs.Python.Globals

/-!
# Scalars through Python

A scalar becomes one object that the heap has no part in (`Value.ofScalar`). What comes back from a function that gives
back what it is called with (`PythonPlugin.call_identity`), and what a global reads as that was set to a scalar
(`PythonPlugin.global_of_scalar`), is therefore what that object reads as.
-/

namespace PluginHost

namespace Python

/-- What a scalar becomes. -/
def Value.ofScalar : Datum → Value
  | .int n => .int n
  | .f32 x => .float (Single.toDouble x)
  | .f64 x => .float x
  | .bool b => .bool b
  | _ => .none

variable {t result : Ty} {d : Datum} {name : String}

theorem encode_scalar (ht : t.isScalar) (hd : d.hasType t) (h : Heap) : encode t d h = some (.ofScalar d, h) := by
  cases t with
  | int => obtain ⟨n, rfl, -⟩ := Datum.hasType_int_iff.1 hd; rfl
  | f32 => obtain ⟨x, rfl⟩ := Datum.hasType_f32_iff.1 hd; rfl
  | f64 => obtain ⟨x, rfl⟩ := Datum.hasType_f64_iff.1 hd; rfl
  | bool => obtain ⟨b, rfl⟩ := Datum.hasType_bool_iff.1 hd; rfl
  | _ => cases ht

theorem encodeAll_scalar (ht : t.isScalar) (hd : d.hasType t) (h : Heap) :
    encodeAll [(t, d)] h = some ([.ofScalar d], h) := by
  rw [encodeAll, encode_scalar ht hd]
  rfl

theorem class?_ofScalar (ht : t.isScalar) (hd : d.hasType t) (i : Interp) :
    (Value.ofScalar d).class? i = (.ok none, i) := by
  cases t with
  | int => obtain ⟨n, rfl, -⟩ := Datum.hasType_int_iff.1 hd; rfl
  | f32 => obtain ⟨x, rfl⟩ := Datum.hasType_f32_iff.1 hd; rfl
  | f64 => obtain ⟨x, rfl⟩ := Datum.hasType_f64_iff.1 hd; rfl
  | bool => obtain ⟨b, rfl⟩ := Datum.hasType_bool_iff.1 hd; rfl
  | _ => cases ht

/-- Whether a function gives back what it is called with. -/
def Interp.IsIdentity (i : Interp) (f : Value) : Prop :=
  isCallable f i = (.ok true, i) ∧ ∀ v, ∃ i', engine.call f [v] [] i = (.ok v, i')

/-- Reading a global that stands for something. -/
theorem Session.global_found {s : Session} {v : Value} (hs : s.pending = none) (hm : s.interp.HasPlainMain)
    (hn : IsGlobalName name) (hv : s.interp.global? name = some v) : global name t s =
      ((decode s.interp.heap t v).elim
        (.error (.incorrectType ("global '" ++ name ++ "' does not match the requested type"))) .ok, s) := by
  rw [global, bind_eq (main_run _), bind_eq (getAttr?_global hm hn hv)]
  dsimp only
  rw [bind_eq (get_run s), bind_eq ((read_gives s.interp.heap t v).run hs)]
  cases decode s.interp.heap t v <;> rfl

end Python

namespace PythonPlugin

open Python

/-- Whether a name stands for a function that gives back what it is called with. -/
def HasIdentity (p : PythonPlugin) (name : String) : Prop :=
  ∃ f s, Session.getAttr? (.ref p.interp.main) name p.interpreter.session = (some f, s) ∧ s.interp.IsIdentity f

variable {p : PythonPlugin} {name : String} {t : Ty} {d : Datum}

/-- A function that gives back the scalar that it is called with answers with what that reads as. -/
theorem call_identity (hs : p.interpreter.session.pending = none) (hname : p.HasIdentity name) (ht : t.isScalar)
    (hd : d.hasType t) (result : Ty) : ∃ heap, (p.call name [(t, d)] result).1 =
      (decodeResult heap result (.ofScalar d)).elim
        (.error (.incorrectType "returned value does not match the requested type")) .ok := by
  obtain ⟨f, s, hf, hcallable, hidentity⟩ := hname
  obtain ⟨i, hrun⟩ := hidentity (.ofScalar d)
  have hargs := encodeAll_scalar ht hd s.interp.heap
  refine ⟨i.heap, ?_⟩
  cases hread : decodeResult i.heap result (.ofScalar d) with
  | none => exact congrArg Prod.fst (run_eq ((Session.Calls.notRead hf hcallable hargs hrun hread).run hs))
  | some e => exact congrArg Prod.fst (run_eq ((Session.Calls.returned hf hcallable hargs hrun hread).run hs))

/-- A global can be set to a scalar, and reads as what that becomes. -/
theorem global_of_scalar (hs : p.interpreter.session.pending = none) (hm : p.interp.HasPlainMain)
    (hn : IsGlobalName name) (ht : t.isScalar) (hd : d.hasType t) (result : Ty) :
    ∃ after, p.setGlobal name t d = (.ok (), after) ∧
      ∃ heap, (after.global name result).1 = (decode heap result (.ofScalar d)).elim
        (.error (.incorrectType ("global '" ++ name ++ "' does not match the requested type"))) .ok := by
  have hset := Session.setGlobal_run (s := p.interpreter.session) (encode_scalar ht hd _) hm hn
  have hread := Session.global_found
    (s := { p.interpreter.session with interp := p.interp.withGlobal name (.ofScalar d) }) (t := result) hs
    (hm.withGlobal name _) hn ((Interp.global?_withGlobal hm name _ name).trans (if_pos rfl))
  exact ⟨_, run_eq hset, _, congrArg Prod.fst (run_eq hread)⟩

/-- What is not the name of a global cannot be set. -/
theorem setGlobal_scalar_refused (hm : p.interp.HasPlainMain) (hn : ¬IsGlobalName name) (ht : t.isScalar)
    (hd : d.hasType t) : ∃ e after, p.setGlobal name t d = (.error e, after) := by
  obtain ⟨e, s, hset⟩ := Session.setAttr_refused (s := p.interpreter.session) hm (class?_ofScalar ht hd _) hn
  have hrun : Session.setGlobal name t d p.interpreter.session = (.error (.unknown e.message), s) := by
    rw [Session.setGlobal, Session.bind_eq (Session.make_run (encode_scalar ht hd _))]
    dsimp only
    rw [Session.bind_eq (Session.main_run _), Session.bind_eq hset]
    rfl
  exact ⟨_, _, run_eq hrun⟩

end PythonPlugin

end PluginHost
