import PluginHost.Proofs.Native.Variables

/-!
# By which names symbols are found

All that a native plugin is asked for by name goes through one look-up. `symbols_named` says what every request makes of
every name: it gets past the look-up iff the library exports that name, and is refused without doing anything otherwise.
A name with a NUL is no symbol's, but one at the end is not looked at, so that the name before it is found
(`symbols_named_ended`).
-/

namespace PluginHost

open Native

namespace Native

/-! ## Names -/

/-- Which name is looked for when a name is asked for: that name, or what stands before a NUL at its end. -/
inductive Spells : String → String → Prop
  | itself {core : String} (hcore : '\x00' ∉ core.toList) : Spells core core
  | ended {core : String} (hcore : '\x00' ∉ core.toList) : Spells (core ++ "\x00") core

theorem Spells.eq_of_not_mem {name core : String} (hs : Spells name core) (hname : '\x00' ∉ name.toList) :
    core = name := by
  cases hs with
  | itself => rfl
  | ended hcore => simp at hname

namespace Loader

theorem endsWith_nul_iff (name : String) : name.endsWith "\x00" ↔ ['\x00'] <:+ name.toList := by
  rw [String.endsWith_eq_endsWith_toSlice, String.Slice.endsWith_string_iff, String.copy_toSlice]
  rfl

theorem lookupName?_of_not_endsWith {name : String} (hend : ¬name.endsWith "\x00") :
    lookupName? name = if '\x00' ∈ name.toList then none else some name := by
  rw [lookupName?, if_neg hend]
  simp only [String.contains_char_eq, decide_eq_true_eq]

theorem lookupName?_append (core : String) :
    lookupName? (core ++ "\x00") = if '\x00' ∈ core.toList then none else some core := by
  have hend : (core ++ "\x00").endsWith "\x00" := by
    rw [endsWith_nul_iff, String.toList_append]
    exact List.suffix_append _ _
  have hcore : ((core ++ "\x00").dropEnd 1).toString = core := by
    apply String.toList_inj.1
    simp
  rw [lookupName?, if_pos hend, hcore]
  simp only [String.contains_char_eq, decide_eq_true_eq]

theorem lookupName?_eq_some_iff {name core : String} : lookupName? name = some core ↔ Spells name core := by
  constructor
  · intro h
    by_cases hend : name.endsWith "\x00"
    · obtain ⟨low, hlow⟩ := (endsWith_nul_iff name).1 hend
      obtain rfl : name = String.ofList low ++ "\x00" := by
        apply String.toList_inj.1
        rw [← hlow, String.toList_append, String.toList_ofList]
        rfl
      rw [lookupName?_append, ite_eq_iff] at h
      obtain ⟨-, h⟩ | ⟨hcore, h⟩ := h <;> cases h
      exact .ended hcore
    · rw [lookupName?_of_not_endsWith hend, ite_eq_iff] at h
      obtain ⟨-, h⟩ | ⟨hcore, h⟩ := h <;> cases h
      exact .itself hcore
  · rintro (hcore | hcore)
    · have hend : ¬name.endsWith "\x00" := by
        rw [endsWith_nul_iff]
        exact fun h => hcore (h.subset (List.mem_singleton.2 rfl))
      rw [lookupName?_of_not_endsWith hend, if_neg hcore]
    · rw [lookupName?_append, if_neg hcore]

end Loader

/-! ## Symbols -/

namespace Image

/-- Whether a library exports a name. -/
def Exports (i : Image) (name : String) : Prop := ∃ s, (name, s) ∈ i.exports

/-- Whether a symbol of a library is found by a name. -/
def Finds (i : Image) (name : String) : Prop := ∃ core, Spells name core ∧ i.Exports core

theorem mem_of_symbol? {i : Image} {name : String} {s : Symbol} (h : i.symbol? name = some s) : (name, s) ∈ i.exports := by
  obtain ⟨e, he, rfl⟩ := Option.map_eq_some_iff.1 h
  obtain rfl : e.1 = name := by simpa using List.find?_some he
  exact List.mem_of_find?_eq_some he

theorem isSome_symbol?_iff {i : Image} {name : String} : (i.symbol? name).isSome ↔ i.Exports name := by
  rw [symbol?, Option.isSome_map, List.find?_isSome]
  simp [Exports]

/-- A name without a NUL finds the symbol of that name and no other. -/
theorem finds_iff_exports {i : Image} {name : String} (hname : '\x00' ∉ name.toList) : i.Finds name ↔ i.Exports name := by
  constructor
  · rintro ⟨core, hs, he⟩
    rwa [hs.eq_of_not_mem hname] at he
  · exact fun he => ⟨name, .itself hname, he⟩

end Image

namespace Loader

variable {l : Loader} {h : Handle} {file : Mapping} {name : String}

/-- What is found is the symbol that is spelled so. -/
theorem symbol_of_finds (hfile : l.mappingOf? h = some file) (hf : file.image.Finds name) :
    ∃ core s, Spells name core ∧ (core, s) ∈ file.image.exports ∧ l.symbol h name = .ok (core, s) := by
  obtain ⟨core, hs, he⟩ := hf
  obtain ⟨s, hx⟩ := Option.isSome_iff_exists.1 (Image.isSome_symbol?_iff.2 he)
  exact ⟨core, s, hs, Image.mem_of_symbol? hx, symbol_eq hfile (lookupName?_eq_some_iff.2 hs) hx⟩

theorem symbol_of_not_finds (hfile : l.mappingOf? h = some file) (hf : ¬file.image.Finds name) :
    ∃ reason, l.symbol h name = .error (missing name reason) := by
  rw [symbol, hfile]
  dsimp only
  cases hs : lookupName? name with
  | none => exact ⟨_, rfl⟩
  | some core =>
    cases hx : file.image.symbol? core with
    | none => exact ⟨_, by simp only [hx]; rfl⟩
    | some s =>
      refine absurd ⟨core, lookupName?_eq_some_iff.1 hs, ?_⟩ hf
      exact Image.isSome_symbol?_iff.1 (Option.isSome_of_eq_some hx)

end Loader

end Native

/-! ## Requests -/

/-- What a native plugin can be asked for by a name. -/
inductive NamedRequest
  | call (args : List Datum) (result : Ty)
  | safeCall (args : List Datum) (result : Ty)
  | callBound (args : List Datum) (result : Ty)
  | global (t : Ty)
  | setGlobal (t : Ty) (d : Datum)

/-- Whether an answer is not that a symbol is missing. -/
def IsPastLookup {α : Type} (answer : Except CallError α) : Prop := ∀ e, answer = .error e → e.code ≠ .symbolNotFound

theorem IsPastLookup.map {α β : Type} {answer : Except CallError α} (h : IsPastLookup answer) (f : α → β) :
    IsPastLookup (answer.map f) := by
  rintro e he
  cases answer with
  | error e' => exact h e (by cases he; rfl)
  | ok a => cases he

namespace NativePlugin

/-- Whether a plugin is served when it is asked for something by a name. -/
def ask (p : NativePlugin) (name : String) : NamedRequest → Host (Except CallError Unit)
  | .call args result => return (← p.call name args result).map fun _ => ()
  | .safeCall args result => return (← p.safeCall name args result).map fun _ => ()
  | .callBound args result => return (← p.callBound name args result).map fun _ => ()
  | .global t => return (← p.global name t).map fun _ => ()
  | .setGlobal t d => p.setGlobal name t d

variable {p : NativePlugin} {h : Handle} {w : World} {name : String} {e : CallError} {s : String × Symbol}

theorem run_hasSymbol (hp : p.library = some h) (name : String) :
    (p.hasSymbol name).run w = (w.loader.hasSymbol h name, w) := by
  unfold hasSymbol
  rw [hp]
  rfl

theorem resolve_of_missing (hp : p.library = some h) {l : Loader} (hs : l.symbol h name = .error e) :
    p.resolve l name = .error e := by
  rw [resolve, hp]
  dsimp only
  rw [hs]
  rfl

theorem run_call_of_missing (hp : p.library = some h) (hs : w.loader.symbol h name = .error e) (args : List Datum)
    (result : Ty) : (p.call name args result).run w = (.error e, w) := by
  have hloader : Host.loader.run w = pure (w.loader, w) := rfl
  unfold call invoke
  simp only [StateT.run_bind, hloader, pure_bind, resolve_of_missing hp hs]
  rfl

theorem run_safeCall_of_missing (hp : p.library = some h) (hs : w.loader.symbol h name = .error e) (args : List Datum)
    (result : Ty) : (p.safeCall name args result).run w = (.error e, w) := by
  have hloader : Host.loader.run w = pure (w.loader, w) := rfl
  unfold safeCall
  cases p.linkage with
  | «alias» => exact run_call_of_missing hp hs args result
  | direct =>
    simp only [StateT.run_bind, hloader, pure_bind, resolve_of_missing hp hs]
    rfl

theorem run_callBound_of_missing (hp : p.library = some h) (hs : w.loader.symbol h name = .error e) (args : List Datum)
    (result : Ty) : (p.callBound name args result).run w = (.error e, w) := by
  unfold callBound
  rw [StateT.run_bind, run_call_of_missing hp hs]
  rfl

theorem run_global_of_missing (hp : p.library = some h) (hs : w.loader.symbol h name = .error e) (t : Ty) :
    (p.global name t).run w = (.error e, w) := by
  have hloader : Host.loader.run w = pure (w.loader, w) := rfl
  unfold global
  rw [hp]
  simp only [StateT.run_bind, hloader, pure_bind, Loader.readVariable, hs]
  rfl

theorem run_setGlobal_of_missing (hp : p.library = some h) (hs : w.loader.symbol h name = .error e) (t : Ty) (d : Datum) :
    (p.setGlobal name t d).run w = (.error e, w) := by
  have hloader : Host.loader.run w = pure (w.loader, w) := rfl
  unfold setGlobal
  rw [hp]
  simp only [StateT.run_bind, hloader, pure_bind, Loader.writeVariable, hs]
  rfl

/-- Without the symbol nothing is done. -/
theorem run_ask_of_missing (hp : p.library = some h) (hs : w.loader.symbol h name = .error e) (r : NamedRequest) :
    (p.ask name r).run w = (.error e, w) := by
  have hanswer : ∀ {α : Type} (m : Host (Except CallError α)), m.run w = (.error e, w) →
      (do return (← m).map fun _ => () : Host (Except CallError Unit)).run w = (.error e, w) := fun m hm => by
    rw [StateT.run_bind, hm]
    rfl
  cases r with
  | call args result => exact hanswer _ (run_call_of_missing hp hs args result)
  | safeCall args result => exact hanswer _ (run_safeCall_of_missing hp hs args result)
  | callBound args result => exact hanswer _ (run_callBound_of_missing hp hs args result)
  | global t => exact hanswer _ (run_global_of_missing hp hs t)
  | setGlobal t d => exact run_setGlobal_of_missing hp hs t d

/-- With the symbol there may still be no function to call. -/
theorem isPastLookup_resolve (hp : p.library = some h) {l : Loader} (hs : l.symbol h name = .ok s) :
    IsPastLookup (p.resolve l name) := by
  rw [resolve, hp]
  dsimp only
  rw [hs]
  rintro e he
  obtain ⟨core, s⟩ := s
  -- whatever the symbol is, what is wrong with it as a function is told in other words
  rcases p with ⟨_ | _, _⟩ <;> rcases s with _ | _ | _ | _ <;> cases he <;> exact CallErrorCode.noConfusion

theorem isPastLookup_call (hp : p.library = some h) (hs : w.loader.symbol h name = .ok s) (args : List Datum)
    (result : Ty) : IsPastLookup ((p.call name args result).run w).1 := by
  obtain ⟨events, hrun⟩ := p.run_call name args result w
  rw [hrun]
  cases hr : p.resolve w.loader name with
  | error e =>
    rintro _ ⟨⟩
    exact isPastLookup_resolve hp hs e hr
  | ok f =>
    dsimp only
    rcases w.loader.run f.1 f.2 args result with ⟨_ | _, l⟩
    · nofun
    · rintro _ ⟨⟩
      exact CallErrorCode.noConfusion

theorem isPastLookup_safeCall (hp : p.library = some h) (hs : w.loader.symbol h name = .ok s) (args : List Datum)
    (result : Ty) : IsPastLookup ((p.safeCall name args result).run w).1 := by
  cases hl : p.linkage with
  | «alias» =>
    unfold safeCall
    rw [hl]
    exact isPastLookup_call hp hs args result
  | direct =>
    obtain ⟨events, hrun⟩ := p.run_safeCall name args result w hl
    rw [hrun]
    cases hr : p.resolve w.loader name with
    | error e =>
      rintro _ ⟨⟩
      exact isPastLookup_resolve hp hs e hr
    | ok f =>
      dsimp only
      rcases w.loader.run f.1 f.2 args result with ⟨_ | _, l⟩ <;> nofun

theorem isPastLookup_callBound (hp : p.library = some h) (hs : w.loader.symbol h name = .ok s) (args : List Datum)
    (result : Ty) : IsPastLookup ((p.callBound name args result).run w).1 := by
  have hcall := isPastLookup_call hp hs args result
  unfold callBound
  rw [StateT.run_bind]
  rcases hrun : (p.call name args result).run w with ⟨e | d, w'⟩ <;> rw [hrun] at hcall
  · rintro _ ⟨⟩
    exact hcall e rfl
  · rw [hp]
    nofun

theorem isPastLookup_global (hp : p.library = some h) (hs : w.loader.symbol h name = .ok s) (t : Ty) :
    IsPastLookup ((p.global name t).run w).1 := by
  have hloader : Host.loader.run w = pure (w.loader, w) := rfl
  unfold global
  rw [hp]
  simp only [StateT.run_bind, hloader, pure_bind, Loader.readVariable, hs]
  rintro _ ⟨⟩

theorem isPastLookup_setGlobal (hp : p.library = some h) (hs : w.loader.symbol h name = .ok s) (t : Ty) (d : Datum) :
    IsPastLookup ((p.setGlobal name t d).run w).1 := by
  have hloader : Host.loader.run w = pure (w.loader, w) := rfl
  unfold setGlobal
  rw [hp]
  simp only [StateT.run_bind, hloader, pure_bind, Loader.writeVariable, hs]
  rintro _ ⟨⟩

/-- With the symbol no request is refused for want of it. -/
theorem isPastLookup_ask (hp : p.library = some h) (hs : w.loader.symbol h name = .ok s) (r : NamedRequest) :
    IsPastLookup ((p.ask name r).run w).1 := by
  cases r with
  | call args result => exact (isPastLookup_call hp hs args result).map _
  | safeCall args result => exact (isPastLookup_safeCall hp hs args result).map _
  | callBound args result => exact (isPastLookup_callBound hp hs args result).map _
  | global t => exact (isPastLookup_global hp hs t).map _
  | setGlobal t d => exact isPastLookup_setGlobal hp hs t d

end NativePlugin

/-- What is loaded by then is the library with the two variables. -/
theorem mappingOf?_countFirst :
    ((Holdings.after { manager := {} } countWorld [countFirst]).2.loader.mappingOf? 0).map (·.image) = some countImage := by
  cbv

theorem exports_countImage {name : String} : countImage.Exports name ↔ name = "count" ∨ name = "size" := by
  simp [Image.Exports, countImage, exists_or]

end PluginHost
