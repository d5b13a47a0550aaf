import PluginHost.Proofs.Native.Holdings

/-!
# What was reported before

No operation of a host looks at what was reported before it (`Host.Blind`). So two worlds that differ in their reports only
(`World.Matches`) stay so, and the same is answered in both, whatever a program does (`Holdings.after_matches`).
-/

namespace PluginHost

open Native

/-- Whether two worlds differ in what was reported only. -/
def World.Matches (w w' : World) : Prop := ∃ events, w' = { w with events }

namespace World.Matches

variable {w w' : World}

theorem refl (w : World) : w.Matches w := ⟨w.events, rfl⟩

theorem files (h : w.Matches w') : w'.files = w.files := by
  obtain ⟨events, rfl⟩ := h
  rfl

theorem loader (h : w.Matches w') : w'.loader = w.loader := by
  obtain ⟨events, rfl⟩ := h
  rfl

/-- A change of anything else. -/
theorem change {f : World → World} (hf : ∀ w events, f { w with events } = { f w with events }) (h : w.Matches w') :
    (f w).Matches (f w') := by
  obtain ⟨events, rfl⟩ := h
  exact ⟨events, hf w events⟩

end World.Matches

namespace Host

variable {α β : Type}

/-- Whether an operation does not look at what was reported before. -/
def Blind (x : Host α) : Prop :=
  ∀ ⦃w w' : World⦄, w.Matches w' → (x.run w').1 = (x.run w).1 ∧ (x.run w).2.Matches (x.run w').2

theorem Blind.pure (a : α) : Blind (pure a : Host α) := fun _ _ h => ⟨rfl, h⟩

theorem Blind.bind {x : Host α} {f : α → Host β} (hx : Blind x) (hf : ∀ a, Blind (f a)) : Blind (x >>= f) := by
  intro w w' h
  obtain ⟨hanswer, hmatches⟩ := hx h
  obtain ⟨hnext, hafter⟩ := hf (x.run w).1 hmatches
  rw [StateT.run_bind, StateT.run_bind]
  show ((f (x.run w').1).run (x.run w').2).1 = ((f (x.run w).1).run (x.run w).2).1 ∧
    ((f (x.run w).1).run (x.run w).2).2.Matches ((f (x.run w').1).run (x.run w').2).2
  rw [hanswer]
  exact ⟨hnext, hafter⟩

theorem Blind.files : Blind Host.files := fun _ _ h => ⟨h.files, h⟩

theorem Blind.loader : Blind Host.loader := fun _ _ h => ⟨h.loader, h⟩

theorem Blind.modifyLoader (f : Loader → Loader) : Blind (Host.modifyLoader f) :=
  fun _ _ h => ⟨rfl, h.change (f := fun w => { w with loader := f w.loader }) fun _ _ => rfl⟩

theorem Blind.emit (level : LogLevel) (target message : String) : Blind (Host.emit level target message) := by
  rintro w _ ⟨events, rfl⟩
  exact ⟨rfl, events.push ⟨level, target, message⟩, rfl⟩

theorem Blind.print (text : String) : Blind (Host.print text) := by
  refine fun _ _ h => ⟨rfl, h.change (f := fun w => if text = "" then w else { w with output := w.output.push text }) ?_⟩
  intro w events
  split <;> rfl

theorem Blind.forM {f : α → Host Unit} (hf : ∀ a, Blind (f a)) : ∀ as : List α, Blind (as.forM f)
  | [] => .pure ()
  | a :: as => .bind (hf a) fun _ => forM hf as

theorem Blind.carries : Carries fun _ => Blind where
  pure := .pure
  bind := .bind
  files := .files
  emit := .emit
  print := .print
  start options w w' h := by
    obtain ⟨_, rfl⟩ := h
    obtain ⟨_, hrun⟩ := PythonInterpreter.run_start options w
    obtain ⟨_, hrun'⟩ := PythonInterpreter.run_start options { w with events := _ }
    rw [hrun, hrun']
    exact ⟨rfl, _, rfl⟩

end Host

open Host

/-! ## Libraries and native plugins -/

namespace SharedLibrary

theorem blind_open (p : Path) : Blind (SharedLibrary.open p) := by
  rintro w _ ⟨events, rfl⟩
  cases hi : Loader.inspect w.files p with
  | error e =>
    obtain ⟨_, hrun⟩ := run_open_error hi
    obtain ⟨_, hrun'⟩ := run_open_error (w := { w with events }) hi
    rw [hrun, hrun']
    exact ⟨rfl, _, rfl⟩
  | ok r =>
    obtain ⟨found, place, image⟩ := r
    obtain ⟨_, hrun⟩ := run_open_ok hi
    obtain ⟨_, hrun'⟩ := run_open_ok (w := { w with events }) hi
    rw [hrun, hrun']
    exact ⟨rfl, _, rfl⟩

theorem blind_release (h : Handle) : Blind (SharedLibrary.release h) := by
  refine .bind .loader fun l => ?_
  split
  · exact .bind (.emit _ _ _) fun _ => .modifyLoader _
  · exact .modifyLoader _

end SharedLibrary

/-- What runs under the guard sees libraries only, and so does what comes after it. -/
theorem Host.blind_safeCall (fallback : Datum) (h : Handle) (f : Function) (args : List Datum) (result : Ty) :
    Blind (Host.safeCall fallback (Loader.body h f args result)) := by
  rintro w _ ⟨events, rfl⟩
  rw [Host.run_safeCall_body, Host.run_safeCall_body]
  rcases w.loader.run h f args result with ⟨d | _, l⟩
  · exact ⟨rfl, events, rfl⟩
  · exact ⟨rfl, _, rfl⟩

namespace NativePlugin

variable (p : NativePlugin) (name : String)

theorem blind_invoke (args : List Datum) (result : Ty) (event : String) : Blind (p.invoke name args result event) := by
  refine .bind .loader fun l => ?_
  split
  · exact .pure _
  · exact .bind (.emit _ _ _) fun _ => .bind (.modifyLoader _) fun _ => .pure _

theorem blind_call (args : List Datum) (result : Ty) : Blind (p.call name args result) := by
  refine .bind (p.blind_invoke name args result _) fun r => ?_
  split <;> exact .pure _

theorem blind_safeCall (args : List Datum) (result : Ty) : Blind (p.safeCall name args result) := by
  unfold safeCall
  split
  · exact p.blind_call name args result
  · refine .bind .loader fun l => ?_
    split
    · exact .pure _
    · refine .bind (.emit _ _ _) fun _ => .bind (Host.blind_safeCall _ _ _ _ _) fun r => ?_
      split <;> exact .pure _

theorem blind_callBound (args : List Datum) (result : Ty) : Blind (p.callBound name args result) := by
  refine .bind (p.blind_call name args result) fun r => ?_
  split
  · exact .pure _
  · split
    · exact .pure _
    · exact .bind (.modifyLoader _) fun _ => .pure _

theorem blind_global (t : Ty) : Blind (p.global name t) := by
  unfold global
  split
  · exact .pure _
  · exact .bind .loader fun _ => .pure _

theorem blind_setGlobal (t : Ty) (d : Datum) : Blind (p.setGlobal name t d) := by
  unfold setGlobal
  split
  · exact .pure _
  · refine .bind .loader fun l => ?_
    split
    · exact .pure _
    · exact .bind (.modifyLoader _) fun _ => .pure _

theorem blind_unload : Blind p.unload := by
  unfold unload
  split
  · exact .bind (SharedLibrary.blind_release _) fun _ => .pure _
  · exact .bind (.pure _) fun _ => .pure _

end NativePlugin

theorem BoundValue.blind_callThrough (b : BoundValue) (function : String) (args : List Datum) (result : Ty) :
    Blind (b.callThrough function args result) := by
  refine .bind .loader fun l => ?_
  split
  · exact .pure _
  · exact .bind (.modifyLoader _) fun _ => .pure _

/-! ## Plugins of any kind -/

namespace Plugin

variable (p : Plugin) (name : String)

theorem blind_call (args : List (Ty × Datum)) (result : Ty) : Blind (p.call name args result) := by
  cases p with
  | native q => exact .bind (q.blind_call _ _ _) fun _ => .pure _
  | lua q => exact .bind (Blind.carries.callLua q _ _ _) fun _ => .pure _
  | python q => exact .pure _
  | noop => exact .pure _

theorem blind_safeCall (args : List (Ty × Datum)) (result : Ty) : Blind (p.safeCall name args result) := by
  cases p with
  | native q => exact .bind (q.blind_safeCall _ _ _) fun _ => .pure _
  | lua q => exact blind_call (.lua q) _ _ _
  | python q => exact .pure _
  | noop => exact .pure _

theorem blind_global (t : Ty) : Blind (p.global name t) := by
  cases p with
  | native q => exact .bind (q.blind_global _ _) fun _ => .pure _
  | lua q => exact .bind (Blind.carries.globalLua q _ _) fun _ => .pure _
  | python q => exact .pure _
  | noop => exact .pure _

theorem blind_setGlobal (t : Ty) (d : Datum) : Blind (p.setGlobal name t d) := by
  cases p with
  | native q => exact .bind (q.blind_setGlobal _ _ _) fun _ => .pure _
  | lua q => exact .bind (Blind.carries.setGlobalLua q _ _) fun _ => .pure _
  | python q => exact .pure _
  | noop => exact .pure _

theorem blind_answer (r : Request) : Blind (p.answer r) := by
  cases r with
  | call name args result => exact .bind (p.blind_call name args result) fun _ => .pure _
  | safeCall name args result => exact .bind (p.blind_safeCall name args result) fun _ => .pure _
  | global name t => exact .bind (p.blind_global name t) fun _ => .pure _
  | setGlobal name t d => exact .bind (p.blind_setGlobal name t d) fun _ => .pure _

theorem blind_close : Blind p.close := by
  cases p with
  | native q => exact .bind q.blind_unload fun _ => .pure _
  | python q => exact Blind.carries.finish q.interpreter
  | lua _ | noop => exact .pure _

end Plugin

theorem Owner.blind_drop (o : Owner) : Blind o.drop := by
  cases o with
  | plugin p => exact p.blind_close
  | library h => exact SharedLibrary.blind_release h
  | bound b => exact SharedLibrary.blind_release b.library
  | gone => exact .pure _

/-! ## The manager -/

namespace Manager

variable (m : Manager)

theorem blind_loadNative (linkage : Linkage) (path : Path) : Blind (m.loadNative linkage path) := by
  refine .bind (.bind (SharedLibrary.blind_open path) fun r => ?_) fun _ => .pure _
  split
  · exact .pure _
  · exact .bind (.modifyLoader _) fun _ => .pure _

theorem blind_load (kind : PluginKind) (path : Path) : Blind (m.load kind path) := by
  refine .bind (.emit _ _ _) fun _ => ?_
  cases kind with
  | c => exact m.blind_loadNative _ _
  | cpp => exact m.blind_loadNative _ _
  | lua => exact .bind (.bind (Blind.carries.loadLua _ _) fun _ => .pure _) fun _ => .pure _
  | python => exact .bind (.bind (Blind.carries.loadPython _ _) fun _ => .pure _) fun _ => .pure _
  | noop => exact .pure _

theorem blind_loadOrNoop (kind : PluginKind) (path : Path) : Blind (m.loadOrNoop kind path) := by
  refine .bind (m.blind_load kind path) fun r => ?_
  split
  · exact .pure _
  · exact .bind (.emit _ _ _) fun _ => .pure _

/-- What becomes of an entry once it is settled which plugin it has. -/
theorem blind_ready (e : Manifest.Entry) (plugin : Except Error Plugin) : Blind (match plugin with
    | .error cause => Pure.pure (.error cause, m)
    | .ok plugin => do
      Host.emit .info eventTarget "plugin ready"
      return (.ok { name := e.name, plugin, crashGuard := e.crashGuard }, m) :
      Host (Except Error ConfiguredPlugin × Manager)) := by
  split
  · exact .pure _
  · exact .bind (.emit _ _ _) fun _ => .pure _

theorem blind_loadEntry (c : Manifest.Config) (e : Manifest.Entry) : Blind (m.loadEntry c e) := by
  refine .bind (m.blind_load _ _) fun r => ?_
  dsimp only
  split
  · exact .bind (.pure _) fun _ => blind_ready _ _ _
  · split
    · exact .bind (.emit _ _ _) fun _ => .bind (.pure _) fun _ => blind_ready _ _ _
    · exact .bind (.pure _) fun _ => blind_ready _ _ _

theorem blind_closeAll (ps : List ConfiguredPlugin) : Blind (ConfiguredPlugin.closeAll ps) :=
  .forM (fun p => p.plugin.blind_close) ps

theorem blind_loadEntries (c : Manifest.Config) (es : List Manifest.Entry) : ∀ (m : Manager)
    (loaded : List ConfiguredPlugin), Blind (m.loadEntries c loaded es) := by
  induction es with
  | nil => exact fun _ _ => .pure _
  | cons e es ih =>
    intro m loaded
    refine .bind (m.blind_loadEntry c e) fun r => ?_
    split
    · exact ih _ _
    · exact .bind (blind_closeAll loaded) fun _ => .pure _

theorem blind_releaseUnused : Blind m.releaseUnused := by
  refine .bind .loader fun l => ?_
  dsimp only
  refine .bind (.forM SharedLibrary.blind_release _) fun _ => ?_
  split
  · exact .bind (.emit _ _ _) fun _ => .pure _
  · exact .pure _

end Manager

/-! ## Programs -/

namespace Holdings

variable (s : Holdings)

theorem blind_share (source : Source) (make : Handle → Owner) : Blind (s.share source make) := by
  unfold share
  split
  · exact .pure _
  · exact .bind (.modifyLoader _) fun _ => .pure _

/-- Nothing that a program does depends on what was reported before. -/
theorem blind_perform (a : Action) : Blind (s.perform a) := by
  cases a with
  | load kind path =>
    refine .bind (s.manager.blind_load kind path) fun r => ?_
    split <;> exact .pure _
  | loadOrNoop kind path => exact .bind (s.manager.blind_loadOrNoop kind path) fun _ => .pure _
  | loadConfigured c =>
    refine .bind .loader fun _ => .bind (s.manager.blind_loadEntries c _ _) fun r => ?_
    split
    · exact .pure _
    · exact .bind .loader fun _ => .pure _
  | openAlone path =>
    refine .bind (SharedLibrary.blind_open path) fun r => ?_
    split <;> exact .pure _
  | clone source => exact s.blind_share _ _
  | adopt linkage source => exact s.blind_share _ _
  | bind d source => exact s.blind_share _ _
  | callBound i name args result =>
    rw [perform]
    split
    · next p _ =>
      refine .bind (p.blind_callBound name args result) fun r => ?_
      split <;> exact .pure _
    · exact .pure _
  | callThrough i function args result =>
    rw [perform]
    split
    · next b _ => exact .bind (b.blind_callThrough function args result) fun _ => .pure _
    · exact .pure _
  | request i r =>
    rw [perform]
    split
    · next p _ => exact .bind (p.blind_answer r) fun _ => .pure _
    · exact .pure _
  | unload i =>
    rw [perform]
    split
    · next p _ => exact .bind p.blind_unload fun _ => .pure _
    · exact .pure _
  | drop i =>
    rw [perform]
    split
    · next o _ => exact .bind o.blind_drop fun _ => .pure _
    · exact .pure _
  | releaseUnused => exact .bind s.manager.blind_releaseUnused fun _ => .pure _

/-- A program has the same and sees the same, whatever was reported before. -/
theorem after_matches (as : List (FileTree × Action)) : ∀ {s : Holdings} {w w' : World}, w.Matches w' →
    (s.after w' as).1 = (s.after w as).1 ∧ (s.after w as).2.Matches (s.after w' as).2 := by
  induction as with
  | nil => exact fun h => ⟨rfl, h⟩
  | cons a as ih =>
    intro s w w' h
    obtain ⟨hanswer, hmatches⟩ := s.blind_perform a.2 (h.change (f := fun w => { w with files := a.1 }) fun _ _ => rfl)
    rw [after, after, hanswer]
    exact ih hmatches

end Holdings

end PluginHost
