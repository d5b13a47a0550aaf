import PluginHost.Backend.PythonPlugin
import PluginHost.Proofs.Python.Computations
import PluginHost.Proofs.Python.Placing
import PluginHost.Proofs.Python.Sessions

/-!
# Globals of Python plugins

A global is an attribute of the module that scripts run in. As long as that is an ordinary module, of a class whose
attributes are all built in, nothing comes between it and its dictionary of names: `Session.setGlobal_run` says what
setting a global does, `Session.setGlobal_refused` which names it refuses, and `PythonPlugin.global_of_setGlobal` that
what was set is read.
-/

namespace PluginHost

namespace Python

/-! ## Dictionaries of names -/

/-- The entries of a dictionary. -/
def entriesAt (h : Heap) (id : Nat) : List (Value × Value) :=
  match (h.getD id default).data with
  | .dict entries => entries
  | _ => []

theorem entriesOf_run (id : Nat) (i : Interp) : entriesOf id i = (.ok (entriesAt i.heap id), i) := by
  unfold entriesOf entriesAt
  rw [Run.bind_ok (Run.data_run id i)]
  cases (i.heap.getD id default).data <;> rfl

theorem lookName_run (names : Nat) (name : String) (i : Interp) :
    lookName names name i = (.ok (Dict.find? i.heap (entriesAt i.heap names) (.ofString name)), i) := by
  unfold lookName
  rw [Run.bind_ok (Run.get_run i), Run.bind_ok (entriesOf_run names i)]
  rfl

/-- A heap in which a dictionary of names has a value for a name. -/
def withName (h : Heap) (names : Nat) (name : String) (v : Value) : Heap :=
  h.modify names fun o => { o with data := .dict (Dict.insert h (entriesAt h names) (.ofString name) v) }

theorem setName_run (names : Nat) (name : String) (v : Value) (i : Interp) :
    setName names name v i = (.ok (), { i with heap := withName i.heap names name v }) := by
  unfold setName
  rw [Run.bind_ok (Run.get_run i), Run.bind_ok (entriesOf_run names i)]
  rfl

theorem sameKey_ofString_iff {v : Value} {name : String} : v.sameKey (.ofString name) ↔ v = .ofString name := by
  cases v with
  | float x => cases hx : Decimal.toInt? x <;> simp [Value.ofString, Value.sameKey, Value.integral?, Value.same, hx]
  | _ => simp [Value.ofString, Value.sameKey, Value.integral?, Value.same]

theorem keyOf_ofString (h : Heap) (name : String) : keyOf h (.ofString name) = .ofString name := rfl

theorem value_ofString_injective {name name' : String} (h : Value.ofString name = .ofString name') : name = name' :=
  ofString_injective (Value.str.inj h)

/-- Storing under a name changes what is found under it, and nothing else. -/
theorem find?_insert (h : Heap) (es : List (Value × Value)) (name : String) (v : Value) (other : String) :
    Dict.find? h (Dict.insert h es (.ofString name) v) (.ofString other) =
      if other = name then some v else Dict.find? h es (.ofString other) := by
  have hother : ∀ k, k = Value.ofString name → (k.sameKey (.ofString other) = true ↔ other = name) := by
    rintro k rfl
    rw [sameKey_ofString_iff]
    exact ⟨fun h => (value_ofString_injective h).symm, fun h => h ▸ rfl⟩
  unfold Dict.insert Dict.find?
  dsimp only
  rw [keyOf_ofString, keyOf_ofString]
  induction es with
  | nil =>
    rw [Dict.insert.put, List.find?_singleton]
    by_cases heq : other = name
    · rw [if_pos ((hother _ (keyOf_ofString h name)).2 heq), if_pos heq]
      rfl
    · rw [if_neg (mt (hother _ (keyOf_ofString h name)).1 heq), if_neg heq]
      rfl
  | cons e es ih =>
    rw [Dict.insert.put]
    by_cases hkey : (keyOf h e.1).sameKey (.ofString name)
    · have hkey' := hother _ (sameKey_ofString_iff.1 hkey)
      rw [if_pos hkey, List.find?_cons, List.find?_cons]
      by_cases heq : other = name
      · simp only [hkey'.2 heq, if_pos heq]
        rfl
      · simp only [Bool.eq_false_iff.2 (mt hkey'.1 heq), if_neg heq]
    · rw [if_neg hkey, List.find?_cons, List.find?_cons]
      cases hfound : (keyOf h e.1).sameKey (.ofString other) with
      | true =>
        have heq : other ≠ name := fun heq => hkey (heq ▸ hfound)
        rw [if_neg heq]
      | false => exact ih

variable {h : Heap} {names : Nat} {name : String} {v : Value}

/-- Whether an object is a dictionary. -/
def isDict (h : Heap) (id : Nat) : Bool :=
  match (h.getD id default).data with
  | .dict _ => true
  | _ => false

theorem isDict_iff {id : Nat} : isDict h id ↔ ∃ entries, (h.getD id default).data = .dict entries := by
  unfold isDict
  cases (h.getD id default).data <;> simp

theorem lt_of_isDict (hd : isDict h names) : names < h.size := by
  obtain ⟨entries, hd⟩ := isDict_iff.1 hd
  exact lt_of_data_ne (by rw [hd]; nofun)

theorem isDict_append (hd : isDict h names) (objects : Heap) : isDict (h ++ objects) names := by
  rw [isDict, getD_append_left (lt_of_isDict hd)]
  exact hd

theorem getD_withName (hd : isDict h names) : (withName h names name v).getD names default =
    { h.getD names default with
      data := .dict (Dict.insert h (entriesAt h names) (.ofString name) v) } :=
  getD_modify_self (lt_of_isDict hd) _

theorem getD_withName_of_ne {id : Nat} (hne : id ≠ names) :
    (withName h names name v).getD id default = h.getD id default :=
  getD_modify_of_ne hne _

theorem withName_append (hd : isDict h names) (objects : Heap) (name : String) (v : Value) :
    ∃ entries, withName (h ++ objects) names name v =
      h.modify names (fun o => { o with data := .dict entries }) ++ objects :=
  ⟨_, modify_append (lt_of_isDict hd) _ objects⟩

/-- Names do not matter to keys. -/
theorem alike_modify (hd : isDict h names) (entries : List (Value × Value)) :
    Alike h (h.modify names fun o => { o with data := .dict entries }) := by
  refine ⟨Array.size_modify, fun id => ?_⟩
  unfold plainOf
  dsimp only
  by_cases heq : id = names
  · rw [heq, getD_modify_self (lt_of_isDict hd)]
    obtain ⟨_, hdata⟩ := isDict_iff.1 hd
    rw [hdata]
  · rw [getD_modify_of_ne heq]

/-! ## The module that scripts run in -/

/-- Whether all attributes of a class, its own and those it inherits, are built in. -/
def isBuiltIn (h : Heap) (cls : Nat) : Bool :=
  match (h.getD cls default).data with
  | .cls c => c.mro.all fun b => decide (b < h.size) && (h.getD b default).attrs.all fun a => isNative a.2
  | _ => false
where
  /-- Whether a value is a function or method that is built in. -/
  isNative : Value → Bool
    | .native _ => true
    | _ => false

theorem isBuiltIn_iff {cls : Nat} : isBuiltIn h cls ↔ ∃ c, (h.getD cls default).data = .cls c ∧
    ∀ b ∈ c.mro, b < h.size ∧ ∀ a ∈ (h.getD b default).attrs, ∃ f, a.2 = .native f := by
  have hnative : ∀ v, isBuiltIn.isNative v ↔ ∃ f, v = .native f := by
    intro v
    cases v <;> simp [isBuiltIn.isNative]
  unfold isBuiltIn
  cases (h.getD cls default).data <;> simp [hnative]

/-- Whether an object is a module with a dictionary of names. -/
def isModule (h : Heap) (id names : Nat) : Bool :=
  match (h.getD id default).data with
  | .module n => n = names
  | _ => false

theorem isModule_iff {id : Nat} : isModule h id names ↔ (h.getD id default).data = .module names := by
  unfold isModule
  cases (h.getD id default).data <;> simp

/-- Whether the module that scripts run in is an ordinary one. -/
structure Interp.HasPlainMain (i : Interp) : Prop where
  main : isModule i.heap i.main i.globals
  names : isDict i.heap i.globals
  cls : isBuiltIn i.heap (i.heap.getD i.main default).cls

theorem Interp.HasPlainMain.data {i : Interp} (hm : i.HasPlainMain) :
    (i.heap.getD i.main default).data = .module i.globals :=
  isModule_iff.1 hm.main

/-- What a name in the module that scripts run in stands for. -/
def Interp.global? (i : Interp) (name : String) : Option Value :=
  Dict.find? i.heap (entriesAt i.heap i.globals) (.ofString name)

/-- An interpreter in which a name in that module stands for a value. -/
def Interp.withGlobal (i : Interp) (name : String) (v : Value) : Interp :=
  { i with heap := withName i.heap i.globals name v }

section Main

variable {i : Interp}

theorem classInfo_run (cls : Nat) (i : Interp) :
    ∃ c, classInfo cls i = (.ok c, i) ∧ ∀ c', (i.heap.getD cls default).data = .cls c' → c = c' := by
  unfold classInfo
  rw [Run.bind_ok (Run.data_run cls i)]
  cases (i.heap.getD cls default).data with
  | cls c => exact ⟨c, rfl, fun c' hc => Data.cls.inj hc⟩
  | _ => exact ⟨_, rfl, nofun⟩

theorem typeId_ref_run (id : Nat) (i : Interp) : (Value.ref id).typeId i = (.ok (i.heap.getD id default).cls, i) := rfl

theorem classAttr_run {cls : Nat} (hb : isBuiltIn i.heap cls) (name : String) :
    ∃ found, classAttr cls name i = (.ok found, i) ∧ ∀ a, found = some a → ∃ f, a = .native f := by
  obtain ⟨c, hc, hmro⟩ := isBuiltIn_iff.1 hb
  obtain ⟨c', hinfo, heq⟩ := classInfo_run cls i
  rw [classAttr, Run.bind_ok hinfo, heq c hc]
  generalize c.mro = classes at hmro
  induction classes with
  | nil => exact ⟨none, rfl, nofun⟩
  | cons b classes ih =>
    rw [List.forall_mem_cons] at hmro
    rw [classAttr.findIn, Run.bind_ok (Run.object_run b i)]
    cases hfound : (i.heap.getD b default).attrs.find? (·.1 = name) with
    | none => exact ih hmro.2
    | some a =>
      refine ⟨some a.2, rfl, ?_⟩
      rintro _ ⟨⟩
      exact hmro.1.2 a (List.mem_of_find?_eq_some hfound)

theorem special?_main (hm : i.HasPlainMain) (name : String) :
    (Value.ref i.main).special? name i = (.ok none, i) := by
  obtain ⟨found, hfound, hnative⟩ := classAttr_run hm.cls name
  unfold Value.special?
  dsimp only
  rw [Run.bind_ok (Run.object_run i.main i), Run.bind_ok hfound]
  rcases found with _ | a
  · rfl
  · obtain ⟨f, rfl⟩ := hnative a rfl
    rfl

theorem class?_of_decode {t : Ty} {d : Datum} (hd : decode i.heap t v = some d) :
    v.class? i = (.ok none, i) := by
  cases v with
  | ref id =>
    unfold Value.class?
    dsimp only
    rw [Run.bind_ok (Run.data_run id i)]
    cases hdata : (i.heap.getD id default).data with
    | cls c =>
      rw [decode_of_class hdata] at hd
      cases hd
    | _ => rfl
  | _ => rfl

/-- What is not a class cannot become the class of an object. -/
theorem raises_setClass {id : Nat} (hc : v.class? i = (.ok none, i)) : (setClass id v).Raises i := by
  obtain ⟨n, hname⟩ := v.typeName_reads i
  exact .of_bind_ok hc (.of_bind_ok hname (Run.raises_fail _ _ _))

/-- Setting an attribute of the module stores it in the dictionary of names. What every module has cannot be set. -/
theorem setAttr_main (eng : Engine) (hm : i.HasPlainMain) (name : String) (v : Value) :
    setAttr eng (.ref i.main) name v i =
      (if name = "__dict__" then Run.fail "AttributeError" "readonly attribute"
        else if name = "__class__" then setClass i.main v
        else setName i.globals name v : Run Unit) i := by
  obtain ⟨found, hfound, hnative⟩ := classAttr_run hm.cls name
  unfold setAttr
  rw [Run.bind_ok (special?_main hm "__setattr__")]
  unfold plainSetAttr
  dsimp only
  rw [Run.bind_ok (Run.object_run i.main i), Run.bind_ok hfound]
  rcases found with _ | a
  · dsimp only
    rw [Run.bind_ok (Run.pure_run _ i)]
    simp only [hm.data]
  · obtain ⟨f, rfl⟩ := hnative a rfl
    dsimp only
    rw [Run.bind_ok (Run.pure_run _ i)]
    simp only [hm.data]

/-- An attribute of the module, given what its dictionary of names and its class have: the names come first, and what every
object has comes last. -/
def mainAttr (eng : Engine) (i : Interp) (name : String) : Option Value → Option Value → Run (Option Value)
  | some v, _ => if name = "__class__" then computedAttr (.ref i.main) name else return some v
  | none, some a => return some (← bindTo eng (.ref i.main) (i.heap.getD i.main default).cls a)
  | none, none => computedAttr (.ref i.main) name

theorem plainAttr_main_run (eng : Engine) (hm : i.HasPlainMain) (hdict : name ≠ "__dict__") {shared : Option Value}
    (hshared : classAttr (i.heap.getD i.main default).cls name i = (.ok shared, i))
    (hnative : ∀ a, shared = some a → ∃ f, a = .native f) : plainAttr eng (.ref i.main) name i =
      mainAttr eng i name (i.global? name) shared i := by
  have hlook : lookName i.globals name i = (.ok (i.global? name), i) := lookName_run i.globals name i
  unfold plainAttr
  dsimp only
  rw [Run.bind_ok (Run.data_run i.main i)]
  simp only [hm.data, if_neg hdict]
  rw [Run.bind_ok hlook, Run.bind_ok (typeId_ref_run i.main i), Run.bind_ok hshared]
  rcases shared with _ | a
  · dsimp only
    rw [Run.bind_ok (Run.pure_run _ i)]
    cases i.global? name <;> simp [mainAttr, hdict]
  · obtain ⟨f, rfl⟩ := hnative a rfl
    dsimp only
    rw [Run.bind_ok (Run.pure_run _ i)]
    cases i.global? name <;> simp [mainAttr, hdict]

/-- An attribute that the dictionary of names has is found in it. -/
theorem plainAttr_main (eng : Engine) (hm : i.HasPlainMain) (hdict : name ≠ "__dict__") (hclass : name ≠ "__class__")
    (hv : i.global? name = some v) : plainAttr eng (.ref i.main) name i = (.ok (some v), i) := by
  obtain ⟨shared, hshared, hnative⟩ := classAttr_run hm.cls name
  rw [plainAttr_main_run eng hm hdict hshared hnative, hv, mainAttr, if_neg hclass]
  rfl

/-- A module may have a function for names that it lacks, but that is asked only if the plain way finds nothing. -/
theorem getAttr?_main (eng : Engine) (hm : i.HasPlainMain)
    (hplain : plainAttr eng (.ref i.main) name i = (.ok (some v), i)) :
    getAttr? eng (.ref i.main) name i = (.ok (some v), i) := by
  have hattempt : Run.attempt (plainAttr eng (.ref i.main) name) i = (.ok (.ok (some v)), i) := by
    rw [Run.attempt, hplain]
  unfold getAttr?
  rw [Run.bind_ok (special?_main hm "__getattr__")]
  dsimp only
  rw [Run.bind_ok (Run.data_run i.main i)]
  simp only [hm.data]
  rw [Run.bind_ok (lookName_run i.globals "__getattr__" i)]
  cases Dict.find? i.heap (entriesAt i.heap i.globals) (.ofString "__getattr__") with
  | none =>
    dsimp only
    rw [Run.bind_ok (Run.pure_run _ i)]
    exact hplain
  | some f =>
    dsimp only
    rw [Run.bind_ok (Run.pure_run _ i)]
    dsimp only
    rw [Run.bind_ok hattempt]
    rfl

/-- An interpreter with more objects, and with other names in its module. -/
theorem Interp.HasPlainMain.mono (hm : i.HasPlainMain) {heap : Heap} (hsize : i.heap.size ≤ heap.size)
    (hkept : ∀ id, id < i.heap.size → id ≠ i.globals → heap.getD id default = i.heap.getD id default)
    (hattrs : (heap.getD i.globals default).attrs = (i.heap.getD i.globals default).attrs)
    (hdict : isDict heap i.globals) : { i with heap }.HasPlainMain := by
  have hdata : ∀ id, isDict i.heap id = false → (i.heap.getD id default).data ≠ .plain →
      heap.getD id default = i.heap.getD id default := fun id hd hp =>
    hkept id (lt_of_data_ne hp) fun heq => absurd (heq ▸ hm.names) (by simp [hd])
  have hmain := hdata i.main (by rw [isDict, hm.data]) (by rw [hm.data]; nofun)
  obtain ⟨c, hc, hmro⟩ := isBuiltIn_iff.1 hm.cls
  have hcls := hdata _ (by rw [isDict, hc]) (by rw [hc]; nofun)
  refine ⟨isModule_iff.2 ((congrArg Object.data hmain).trans hm.data), hdict, isBuiltIn_iff.2 ⟨c, ?_, fun b hb => ?_⟩⟩
  · show (heap.getD (heap.getD i.main default).cls default).data = .cls c
    rw [hmain, hcls, hc]
  · obtain ⟨hlt, hall⟩ := hmro b hb
    refine ⟨Nat.lt_of_lt_of_le hlt hsize, fun a ha => hall a ?_⟩
    by_cases heq : b = i.globals
    · rw [heq] at ha ⊢
      rwa [← hattrs]
    · rwa [← hkept b hlt heq]

/-- A name that is given a value stands for it, and the other names stand for what they did. -/
theorem Interp.global?_withGlobal (hm : i.HasPlainMain) (name : String) (v : Value) (other : String) :
    (i.withGlobal name v).global? other = if other = name then some v else i.global? other := by
  have hentries : entriesAt (withName i.heap i.globals name v) i.globals =
      Dict.insert i.heap (entriesAt i.heap i.globals) (.ofString name) v := by
    rw [entriesAt, getD_withName hm.names]
  have halike : Alike i.heap (withName i.heap i.globals name v) := alike_modify hm.names _
  show Dict.find? (withName i.heap i.globals name v) (entriesAt (withName i.heap i.globals name v) i.globals) _ = _
  rw [hentries, halike.keys.find?, find?_insert]
  rfl

theorem Interp.global?_append (hm : i.HasPlainMain) {objects : Heap} (hk : KeysAlike i.heap (i.heap ++ objects))
    (name : String) : { i with heap := i.heap ++ objects }.global? name = i.global? name := by
  show Dict.find? (i.heap ++ objects) (entriesAt (i.heap ++ objects) i.globals) _ = _
  rw [hk.find?, entriesAt, getD_append_left (lt_of_isDict hm.names)]
  rfl

theorem Interp.HasPlainMain.append (hm : i.HasPlainMain) (objects : Heap) :
    { i with heap := i.heap ++ objects }.HasPlainMain := by
  refine hm.mono (by simp) (fun id hid _ => getD_append_left hid objects) ?_ (isDict_append hm.names objects)
  rw [getD_append_left (lt_of_isDict hm.names)]

theorem Interp.HasPlainMain.withGlobal (hm : i.HasPlainMain) (name : String) (v : Value) :
    (i.withGlobal name v).HasPlainMain := by
  refine hm.mono (by simp [withName]) (fun id _ hne => getD_withName_of_ne hne) ?_
    (isDict_iff.2 ⟨_, congrArg Object.data (getD_withName hm.names)⟩)
  rw [getD_withName hm.names]

end Main

/-! ## Globals -/

/-- The names that can be given a value. -/
def IsGlobalName (name : String) : Prop := '\x00' ∉ name.toList ∧ name ≠ "__dict__" ∧ name ≠ "__class__"

namespace Session

variable {s s' : Session}

theorem attempt_raises {α : Type} {x : Run α} (hx : x.Raises s.interp) : ∃ s', attempt x s = (none, s') := by
  obtain ⟨e, isNoted, i, hx⟩ := hx
  exact ⟨_, attempt_error hx⟩

theorem setAttr_run (hm : s.interp.HasPlainMain) (hn : IsGlobalName name) (v : Value) :
    setAttr (.ref s.interp.main) name v s = (.ok (), { s with interp := s.interp.withGlobal name v }) := by
  obtain ⟨hnul, hdict, hclass⟩ := hn
  have hset := setAttr_main engine hm name v
  rw [if_neg hdict, if_neg hclass, setName_run] at hset
  unfold setAttr
  rw [if_neg (by simpa using hnul), bind_eq (attempt_ok hset)]
  rfl

/-- Setting a global to what becomes an object. -/
theorem setGlobal_run {t : Ty} {d : Datum} {heap : Heap} (he : encode t d s.interp.heap = some (v, heap))
    (hm : { s.interp with heap }.HasPlainMain) (hn : IsGlobalName name) :
    setGlobal name t d s = (.ok (), { s with interp := { s.interp with heap }.withGlobal name v }) := by
  have hset := setAttr_run (s := { s with interp := { s.interp with heap } }) hm hn v
  rw [setGlobal, bind_eq (make_run he)]
  dsimp only
  rw [bind_eq (main_run _), bind_eq hset]
  rfl

theorem setAttr_refused (hm : s.interp.HasPlainMain) (hc : v.class? s.interp = (.ok none, s.interp))
    (hn : ¬IsGlobalName name) : ∃ e s', setAttr (.ref s.interp.main) name v s = (.error e, s') := by
  unfold setAttr
  by_cases hnul : name.contains '\x00'
  · rw [if_pos hnul]
    exact ⟨_, _, rfl⟩
  · have hraises : (Python.setAttr engine (.ref s.interp.main) name v).Raises s.interp := by
      rw [Run.Raises, setAttr_main engine hm name v]
      split
      · exact Run.raises_fail _ _ _
      · next hdict =>
        split
        · exact raises_setClass hc
        · next hclass => exact absurd ⟨by simpa using hnul, hdict, hclass⟩ hn
    obtain ⟨s', hs'⟩ := attempt_raises hraises
    rw [if_neg hnul, bind_eq hs']
    exact ⟨_, _, bind_eq (Prod.mk.eta (p := fetchAny s')).symm⟩

/-- What is not a global name is not given a value without a complaint. -/
theorem setGlobal_refused {t : Ty} {d : Datum} {heap : Heap} (he : encode t d s.interp.heap = some (v, heap))
    (hm : { s.interp with heap }.HasPlainMain) (hd : decode heap t v = some d.sorted) (hn : ¬IsGlobalName name) :
    ∃ e s', setGlobal name t d s = (.error e, s') := by
  obtain ⟨e, s', hset⟩ := setAttr_refused (s := { s with interp := { s.interp with heap } }) hm (class?_of_decode hd) hn
  rw [setGlobal, bind_eq (make_run he)]
  dsimp only
  rw [bind_eq (main_run _), bind_eq hset]
  exact ⟨_, _, rfl⟩

/-- A global that is there is found. -/
theorem getAttr?_global (hm : s.interp.HasPlainMain) (hn : IsGlobalName name) (hv : s.interp.global? name = some v) :
    getAttr? (.ref s.interp.main) name s = (some v, s) := by
  obtain ⟨hnul, hdict, hclass⟩ := hn
  have hfound := getAttr?_main engine hm (plainAttr_main engine hm hdict hclass hv)
  unfold getAttr?
  rw [if_neg (by simpa using hnul)]
  exact orClear_some (bind_eq (attempt_ok hfound))

/-- Reading a global that is there. -/
theorem global_run (hm : s.interp.HasPlainMain) (hn : IsGlobalName name) (hv : s.interp.global? name = some v)
    {t : Ty} {d : Datum} (hd : decode s.interp.heap t v = some d) : global name t s = (.ok d, s) := by
  have hread := read_gives s.interp.heap t v
  rw [hd] at hread
  rw [global, bind_eq (main_run _), bind_eq (getAttr?_global hm hn hv)]
  dsimp only
  rw [bind_eq (get_run s), bind_eq (hread.some s)]
  rfl

end Session

end Python

namespace PythonPlugin

open Python

variable {p after : PythonPlugin} {name : String} {t : Ty} {d : Datum}

/-- The interpreter of a plugin. -/
def interp (p : PythonPlugin) : Interp := p.interpreter.session.interp

theorem run_eq {α : Type} {x : StateM Session α} {a : α} {s : Session} (hx : x p.interpreter.session = (a, s)) :
    p.run x = (a, { p with interpreter := { p.interpreter with session := s } }) := by
  have hrun : p.interpreter.run x = (a, { p.interpreter with session := s }) := by
    rw [PythonInterpreter.run, StateT.run, hx]
  rw [run, hrun]

/-- A global that was given a value stands for it, and reads as the datum. No other name stands for anything else than
before, and of the objects that were there only the names of the module have changed. -/
theorem global_of_setGlobal (hm : p.interp.HasPlainMain) (ht : t.isPortable) (hd : d.hasType t) (hv : d.IsValue)
    (hset : p.setGlobal name t d = (.ok (), after)) :
    after.global name t = (.ok d.sorted, after) ∧
    (∀ other, other ≠ name → after.interp.global? other = p.interp.global? other) ∧
    ∀ id, id < p.interp.heap.size → id ≠ p.interp.globals →
      after.interp.heap.getD id default = p.interp.heap.getD id default := by
  obtain ⟨v, objects, he, hkeys, hread⟩ := encode_alike ht hd hv p.interp.heap
  have hplaced := hm.append objects
  by_cases hn : IsGlobalName name
  · have hrun := run_eq (p := p) (Session.setGlobal_run he hplaced hn)
    rw [setGlobal, hrun] at hset
    obtain rfl := (Prod.mk.inj hset).2
    have hmain : (Interp.withGlobal { p.interp with heap := p.interp.heap ++ objects } name v).HasPlainMain :=
      hplaced.withGlobal name v
    have hglobal := Interp.global?_withGlobal hplaced name v
    refine ⟨?_, fun other hother => ?_, fun id hid hne => ?_⟩
    · obtain ⟨entries, hheap⟩ := withName_append hm.names objects name v
      have hdecode := hread _ (alike_modify hm.names entries)
      rw [← hheap] at hdecode
      exact run_eq (Session.global_run hmain hn ((hglobal name).trans (if_pos rfl)) hdecode)
    · exact (hglobal other).trans ((if_neg hother).trans (Interp.global?_append hm hkeys other))
    · exact (getD_withName_of_ne hne).trans (getD_append_left hid objects)
  · obtain ⟨e, s', hrefused⟩ := Session.setGlobal_refused he hplaced (hread _ (.refl _)) hn
    rw [setGlobal, run_eq hrefused] at hset
    cases hset

end PythonPlugin

end PluginHost
