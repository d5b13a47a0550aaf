import PluginHost.Plugin
import PluginHost.Proofs.Native.Mappings

/-!
# What native plugins write

Calls and the setting of globals write to the library that they go through (`callChange?`, `setChange?`) and do nothing
else to what is opened or in memory, however they end.
-/

namespace PluginHost

open Native

theorem Native.Loader.run_eq_write (l : Loader) (h : Handle) (f : Function) (args : List Datum) (result : Ty) :
    (l.run h f args result).2 = l.write h (.call f args result) := by
  rw [Loader.run, Loader.write, Write.apply]
  cases f.call (l.memoryOf h) args result <;> rfl

namespace NativePlugin

variable (p : NativePlugin) (name : String) (args : List Datum) (result : Ty) (w : World)

/-- What calling a function writes. -/
def callChange? (p : NativePlugin) (l : Loader) (name : String) (args : List Datum) (result : Ty) :
    Option (Handle × Write) :=
  match p.resolve l name with
  | .error _ => none
  | .ok (h, f) => some (h, .call f args result)

/-- What setting a global writes. -/
def setChange? (p : NativePlugin) (l : Loader) (name : String) (t : Ty) (d : Datum) : Option (Handle × Write) :=
  match p.library with
  | none => none
  | some h => match l.symbol h name with
    | .error _ => none
    | .ok (x, _) => some (h, .store x t d)

/-- How a plain call goes. -/
theorem run_call : ∃ events, (p.call name args result).run w = match p.resolve w.loader name with
    | .error e => (.error e, { w with events })
    | .ok (h, f) => match w.loader.run h f args result with
      | (.returned d, loader) => (.ok d, { w with loader, events })
      | (.fault, loader) => (.error (.unknown "segmentation fault"), { w with loader, events }) := by
  have hloader : Host.loader.run w = pure (w.loader, w) := rfl
  unfold call invoke
  simp only [StateT.run_bind, hloader, pure_bind]
  cases p.resolve w.loader name with
  | error e => exact ⟨w.events, rfl⟩
  | ok r =>
    obtain ⟨h, f⟩ := r
    rcases hrun : w.loader.run h f args result with ⟨d | _, l⟩
    · simp only [hrun]
      exact ⟨_, rfl⟩
    · simp only [hrun]
      exact ⟨_, rfl⟩

/-- How a guarded call goes, if functions are called by their symbols. -/
theorem run_safeCall (hp : p.linkage = .direct) : ∃ events, (p.safeCall name args result).run w =
    match p.resolve w.loader name with
    | .error e => (.error e, { w with events })
    | .ok (h, f) => match w.loader.run h f args result with
      | (.returned d, loader) => (.ok d, { w with loader, events })
      | (.fault, loader) => (.ok (.zero result), { w with loader, events }) := by
  have hloader : Host.loader.run w = pure (w.loader, w) := rfl
  unfold safeCall
  rw [hp]
  simp only [StateT.run_bind, hloader, pure_bind]
  cases p.resolve w.loader name with
  | error e => exact ⟨w.events, rfl⟩
  | ok r =>
    obtain ⟨h, f⟩ := r
    have hemit (level : LogLevel) (target message : String) : (Host.emit level target message).run w =
      pure ((), { w with events := w.events.push ⟨level, target, message⟩ }) := rfl
    simp only [StateT.run_bind, hemit, pure_bind, Host.run_safeCall_body]
    rcases w.loader.run h f args result with ⟨d | _, l⟩
    · exact ⟨_, rfl⟩
    · exact ⟨_, rfl⟩

theorem loader_call : ((p.call name args result).run w).2.loader =
    w.loader.writeAny (p.callChange? w.loader name args result) := by
  obtain ⟨events, hrun⟩ := p.run_call name args result w
  rw [hrun, callChange?]
  cases p.resolve w.loader name with
  | error e => rfl
  | ok r =>
    obtain ⟨h, f⟩ := r
    dsimp only
    rw [Loader.writeAny, ← Loader.run_eq_write]
    rcases w.loader.run h f args result with ⟨d | _, l⟩ <;> rfl

theorem loader_safeCall : ((p.safeCall name args result).run w).2.loader =
    w.loader.writeAny (p.callChange? w.loader name args result) := by
  cases hp : p.linkage with
  | «alias» =>
    rw [← p.loader_call name args result w, safeCall, hp]
  | direct =>
    obtain ⟨events, hrun⟩ := p.run_safeCall name args result w hp
    rw [hrun, callChange?]
    cases p.resolve w.loader name with
    | error e => rfl
    | ok r =>
      obtain ⟨h, f⟩ := r
      dsimp only
      rw [Loader.writeAny, ← Loader.run_eq_write]
      rcases w.loader.run h f args result with ⟨d | _, l⟩ <;> rfl

/-- A result that is bound to the library shares the handle once the call is over. -/
theorem loader_callBound : ((p.callBound name args result).run w).2.loader =
      w.loader.writeAny (p.callChange? w.loader name args result) ∨
    ∃ h, ((p.callBound name args result).run w).2.loader =
      (w.loader.writeAny (p.callChange? w.loader name args result)).retain h := by
  rw [← p.loader_call name args result w]
  unfold callBound
  rw [StateT.run_bind]
  rcases (p.call name args result).run w with ⟨e | d, w'⟩
  · exact .inl rfl
  · cases p.library with
    | none => exact .inl rfl
    | some h => exact .inr ⟨h, rfl⟩

theorem loader_global (t : Ty) : ((p.global name t).run w).2.loader = w.loader := by
  unfold global
  split <;> rfl

theorem loader_setGlobal (t : Ty) (d : Datum) : ((p.setGlobal name t d).run w).2.loader =
    w.loader.writeAny (p.setChange? w.loader name t d) := by
  have hloader : Host.loader.run w = pure (w.loader, w) := rfl
  unfold setGlobal setChange?
  cases p.library with
  | none => rfl
  | some h =>
    simp only [StateT.run_bind, hloader, pure_bind]
    rw [Loader.writeVariable]
    cases w.loader.symbol h name with
    | error e => rfl
    | ok s => rfl

end NativePlugin

/-- What calling a function through a bound value writes. -/
def BoundValue.change? (b : BoundValue) (l : Loader) (function : String) (args : List Datum) (result : Ty) :
    Option (Handle × Write) :=
  ((l.mappingOf? b.library).bind (·.image.internal? function)).map fun f => (b.library, .call f args result)

theorem BoundValue.loader_callThrough (b : BoundValue) (function : String) (args : List Datum) (result : Ty) (w : World) :
    ((b.callThrough function args result).run w).2.loader = w.loader.writeAny (b.change? w.loader function args result) := by
  have hloader : Host.loader.run w = pure (w.loader, w) := rfl
  unfold callThrough change?
  simp only [StateT.run_bind, hloader, pure_bind]
  cases (w.loader.mappingOf? b.library).bind (·.image.internal? function) with
  | none => rfl
  | some f => exact w.loader.run_eq_write b.library f args result

theorem BoundValue.sameOpenings_callThrough (b : BoundValue) (function : String) (args : List Datum) (result : Ty)
    (w : World) : w.loader.SameOpenings ((b.callThrough function args result).run w).2.loader := by
  rw [loader_callThrough]
  exact w.loader.sameOpenings_writeAny _

end PluginHost
