import PluginHost.Proofs.Lua.Capture
import PluginHost.Proofs.Lua.Globals

/-!
# Slots that are not there

The interpreter does not check whether a slot is there that it reads or removes; the host has to. `isIntact_perform` says
which of the host's operations do: all but one. Storing a global takes the topmost slot without asking whether there is one
(`topIndex_setGlobal_of_empty`), although the same operation asks if the name has a NUL. `slots_present` says what follows
for every sequence of operations: all slots were there iff no global was stored from an empty stack.
-/

namespace PluginHost.Lua

/-! ## Operations -/

/-- What a host can do to the stack of an interpreter. Arguments and results are no more than eight. -/
inductive Operation
  | openLibraries
  | loadChunk (source : ByteArray) (name : String)
  | push (d : Datum)
  | pushAll (args : List Datum)
  | top (t : Ty)
  | pop (t : Ty)
  | popAlways (t : Ty)
  | discard (count : Int32)
  | pushGlobal (name : String)
  | setGlobal (name : String)
  | call (args : List Datum) (result : Ty) (fits : args.length ≤ 8 ∧ Vm.resultCount result ≤ 8)
  | release

namespace Vm

variable {before after vm vm₁ vm₂ : Vm} {op : Operation} {n : Nat}

/-- An operation, carried out. Calling and letting go are about the function that is captured from the top, if there is
one. -/
def perform (vm : Vm) : Operation → Vm
  | .openLibraries => vm.openLibraries
  | .loadChunk source name => (vm.loadChunk source name).2
  | .push d => (vm.push d).2
  | .pushAll args => (vm.pushAll args).2
  | .top t => (vm.read t).2
  | .pop t => (vm.pop t).2
  | .popAlways t => (vm.popAlways t).2
  | .discard count => vm.discard count
  | .pushGlobal name => (vm.pushGlobal name).2
  | .setGlobal name => vm.setGlobal name
  | .call args result _ => match Captured.fromTop? vm with
    | some c => (c.call vm args result).2
    | none => vm
  | .release => match Captured.fromTop? vm with
    | some c => c.release vm
    | none => vm

/-- Operations, one after the other. -/
def performed (vm : Vm) (ops : List Operation) : Vm := ops.foldl perform vm

/-- A global is stored, under a name without a NUL, and there is no slot to take it from. -/
def Lacks (vm : Vm) (op : Operation) : Prop := ∃ name, op = .setGlobal name ∧ '\x00' ∉ name.toList ∧ vm.top = 0

/-! ## What asks first -/

/-- Between two states no slot was read or removed that was not there. -/
structure Careful (before after : Vm) : Prop where
  missing : after.missing = before.missing
  strays : after.strays = before.strays

theorem Careful.refl (vm : Vm) : Careful vm vm := ⟨rfl, rfl⟩

theorem Careful.trans (h₁ : Careful vm vm₁) (h₂ : Careful vm₁ vm₂) : Careful vm vm₂ :=
  ⟨h₂.missing.trans h₁.missing, h₂.strays.trans h₁.strays⟩

theorem Careful.isIntact_eq (h : Careful before after) : after.isIntact = before.isIntact := by
  rw [isIntact, isIntact, h.missing, h.strays]

theorem Undisturbed.careful (h : Undisturbed before after) : Careful before after := ⟨h.missing, h.strays⟩

theorem Grows.careful {p : Nat → Prop} {xs : List Value} (h : Grows p before after xs) : Careful before after :=
  ⟨h.missing, h.strays⟩

theorem careful_dropSlots (h : n ≤ vm.top) : Careful vm (vm.dropSlots n) := by
  refine ⟨?_, rfl⟩
  show vm.missing + (n - vm.top) = vm.missing
  omega

/-- No count removes more slots than there are. -/
theorem careful_discard (vm : Vm) (count : Int32) : Careful vm (vm.discard count) := by
  unfold discard
  dsimp only
  split
  · apply careful_dropSlots
    omega
  · exact .refl vm

theorem careful_resize (vm : Vm) (n : Nat) : Careful vm (vm.resize n) := by
  unfold resize
  split <;> exact ⟨rfl, rfl⟩

theorem careful_push (vm : Vm) (d : Datum) : Careful vm (vm.push d).2 := by
  rcases hp : vm.push d with ⟨e | ⟨⟩, vm₁⟩
  · rw [push_error hp]
    exact ⟨rfl, rfl⟩
  · obtain ⟨⟨x, hgrows, -⟩, -⟩ := push_ok hp
    exact hgrows.careful

theorem careful_pushAll (vm : Vm) (args : List Datum) : Careful vm (vm.pushAll args).2 := by
  rcases hp : vm.pushAll args with ⟨e | ⟨⟩, vm₁⟩
  · rw [pushAll_error hp]
    exact ⟨rfl, rfl⟩
  · obtain ⟨-, xs, hgrows, -⟩ := pushAll_ok hp
    exact hgrows.careful

theorem careful_pop (vm : Vm) (t : Ty) : Careful vm (vm.pop t).2 := by
  have hread : Careful vm (vm.read t).2 := (readTop_undisturbed t vm).careful
  unfold pop
  rcases hr : vm.read t with ⟨_ | d, vm₁⟩ <;> rw [hr] at hread
  · exact hread
  · exact hread.trans (careful_discard vm₁ 1)

theorem careful_popAlways (vm : Vm) (t : Ty) : Careful vm (vm.popAlways t).2 :=
  (readTop_undisturbed t vm).careful.trans (careful_discard (vm.read t).2 1)

theorem careful_pushGlobal (vm : Vm) (name : String) : Careful vm (vm.pushGlobal name).2 := by
  rcases vm.pushGlobal_cases name with hg | ⟨heap, ⟨hg, -⟩ | ⟨f, hg, -⟩⟩ <;> rw [hg] <;> exact ⟨rfl, rfl⟩

theorem careful_loadChunk (vm : Vm) (source : ByteArray) (name : String) : Careful vm (vm.loadChunk source name).2 := by
  unfold loadChunk
  split
  · exact .refl vm
  · split <;> exact ⟨rfl, rfl⟩

theorem careful_openLibraries (vm : Vm) : Careful vm vm.openLibraries := by
  unfold openLibraries
  exact ⟨rfl, rfl⟩

/-! ## Calls -/

theorem careful_protectedCall {below : Array Value} {f : Value} {xs : List Value} {k j : Int32}
    (hs : vm.stack = below.push f ++ xs.toArray) (hk : k.toInt = xs.length) :
    Careful vm (vm.protectedCall k j).2 := by
  rw [protectedCall_eq hs hk]
  split
  · exact ⟨rfl, rfl⟩
  · split <;> exact ⟨rfl, rfl⟩

/-- A call takes the function and its arguments, which are there; whatever it gives is cut off again. -/
theorem careful_run {below : Array Value} {f : Value} {args : List Datum} {result : Ty} {base : Nat}
    (hs : vm.stack = below.push f) (ha : args.length ≤ 8) : Careful vm (Captured.run base vm args result).2 := by
  have hpush := careful_pushAll vm args
  rw [Captured.run]
  rcases hp : vm.pushAll args with ⟨e | ⟨⟩, vm₁⟩ <;> rw [hp] at hpush
  · exact hpush.trans (careful_resize vm₁ base)
  · obtain ⟨xs, hs₁, -, hcount, -⟩ := pushAll_above hs ha hp
    have hcall := hpush.trans (careful_protectedCall (j := Int32.ofNat (resultCount result)) hs₁ hcount)
    dsimp only
    rcases hp₂ : vm₁.protectedCall (Int32.ofNat args.length) (Int32.ofNat (resultCount result)) with ⟨e | ⟨⟩, vm₂⟩ <;>
      rw [hp₂] at hcall
    · exact hcall.trans (careful_resize vm₂ base)
    · have hread := hcall.trans (readResults_undisturbed result vm₂).careful
      dsimp only
      rcases hr : vm₂.readResults result with ⟨_ | d, vm₃⟩ <;> rw [hr] at hread <;>
        exact hread.trans (careful_resize vm₃ base)

theorem careful_release (c : Captured) (vm : Vm) : Careful vm (c.release vm) := by
  unfold Captured.release
  split
  · exact careful_discard vm 1
  · exact .refl vm

theorem careful_call {c : Captured} (hc : Captured.fromTop? vm = some c) {args : List Datum} (ha : args.length ≤ 8)
    (result : Ty) : Careful vm (c.call vm args result).2 := by
  obtain ⟨f, hf, -, -⟩ := Captured.fromTop?_eq_some_iff.1 hc
  obtain ⟨below, hs⟩ := exists_push_of_topValue? hf
  have hvalid : c.isValid vm := (Captured.isValid_iff hf hc).2 ⟨rfl, hf⟩
  rw [Captured.call_of_isValid hvalid]
  exact careful_run hs ha

/-! ## What does not ask -/

/-- Storing a global is careful if there is something to store. With a NUL in the name nothing is stored, and then the
slot is asked for. -/
theorem careful_setGlobal {name : String} (h : '\x00' ∈ name.toList ∨ 0 < vm.top) : Careful vm (vm.setGlobal name) := by
  unfold setGlobal
  split
  · exact careful_discard vm 1
  · next hn =>
    have hpos : 1 ≤ vm.top := h.resolve_left (by simpa using hn)
    rw [touch_of_le hpos]
    dsimp only
    split
    · next heap _ =>
      have hdrop : Careful { vm with heap } ({ vm with heap }.dropSlots 1) := careful_dropSlots hpos
      exact ⟨hdrop.missing, hdrop.strays⟩
    · exact careful_dropSlots hpos

/-- What is stored from an empty stack is a slot that is not there, and it is removed. -/
theorem setGlobal_of_empty {name : String} (hn : '\x00' ∉ name.toList) (htop : vm.top = 0) :
    (vm.setGlobal name).missing = vm.missing + 1 ∧ (vm.setGlobal name).strays = vm.strays + 1 ∧
      (vm.setGlobal name).top = 0 := by
  have hdrop : ∀ heap, let after := { vm.touch 1 with heap }.dropSlots 1
      after.missing = vm.missing + 1 ∧ after.strays = vm.strays + 1 ∧ after.top = 0 := by
    intro heap
    have hsize : vm.stack.size = 0 := htop
    simp [dropSlots, touch, top, hsize]
  unfold setGlobal
  rw [if_neg (by simpa using hn)]
  dsimp only
  split
  · exact hdrop _
  · exact hdrop vm.heap

/-- The interpreter's count of slots falls below zero. -/
theorem topIndex_setGlobal_of_empty {name : String} (h : vm.isIntact) (hn : '\x00' ∉ name.toList) (htop : vm.top = 0) :
    (vm.setGlobal name).topIndex = -1 := by
  obtain ⟨hmissing, -, htop'⟩ := setGlobal_of_empty hn htop
  have hnone : vm.missing = 0 := by
    rw [isIntact, Bool.and_eq_true, beq_iff_eq] at h
    exact h.1
  rw [topIndex, hmissing, htop', hnone]
  rfl

/-! ## Runs -/

theorem careful_perform (h : ¬vm.Lacks op) : Careful vm (vm.perform op) := by
  cases op with
  | openLibraries => exact careful_openLibraries vm
  | loadChunk source name => exact careful_loadChunk vm source name
  | push d => exact careful_push vm d
  | pushAll args => exact careful_pushAll vm args
  | top t => exact (readTop_undisturbed t vm).careful
  | pop t => exact careful_pop vm t
  | popAlways t => exact careful_popAlways vm t
  | discard count => exact careful_discard vm count
  | pushGlobal name => exact careful_pushGlobal vm name
  | setGlobal name =>
    apply careful_setGlobal
    by_contra hboth
    obtain ⟨hn, htop⟩ := not_or.1 hboth
    exact h ⟨name, rfl, hn, by omega⟩
  | call args result fits =>
    simp only [perform]
    split
    · next c hc => exact careful_call hc fits.1 result
    · exact .refl vm
  | release =>
    simp only [perform]
    split
    · next c _ => exact careful_release c vm
    · exact .refl vm

/-- One operation: slots are there as long as none is taken from an empty stack. -/
theorem isIntact_perform (vm : Vm) (op : Operation) : (vm.perform op).isIntact ↔ vm.isIntact ∧ ¬vm.Lacks op := by
  by_cases h : vm.Lacks op
  · obtain ⟨name, rfl, hn, htop⟩ := h
    obtain ⟨hmissing, -, -⟩ := setGlobal_of_empty hn htop
    have hlost : ¬(vm.perform (.setGlobal name)).isIntact := by
      simp [perform, isIntact, hmissing]
    refine iff_of_false hlost fun hboth => ?_
    exact hboth.2 ⟨name, rfl, hn, htop⟩
  · rw [(careful_perform h).isIntact_eq]
    exact (and_iff_left h).symm

/-- A sequence of operations: what was not there once stays noted. -/
theorem isIntact_performed (ops : List Operation) : ∀ vm : Vm, (vm.performed ops).isIntact ↔
    vm.isIntact ∧ ∀ before op after, ops = before ++ op :: after → ¬(vm.performed before).Lacks op := by
  induction ops with
  | nil =>
    intro vm
    have hnone : ∀ before (op : Operation) after, [] = before ++ op :: after → ¬(vm.performed before).Lacks op := by
      intro before op after h
      simp at h
    exact (and_iff_left hnone).symm
  | cons op ops ih =>
    intro vm
    have hcons : ∀ ops, vm.performed (op :: ops) = (vm.perform op).performed ops := fun _ => rfl
    rw [hcons, ih, isIntact_perform]
    constructor
    · rintro ⟨⟨hvm, hop⟩, hops⟩
      refine ⟨hvm, fun before op' after h => ?_⟩
      cases before with
      | nil =>
        obtain ⟨rfl, -⟩ := List.cons.inj h
        exact hop
      | cons op'' before =>
        obtain ⟨rfl, hrest⟩ := List.cons.inj h
        rw [hcons]
        exact hops before op' after hrest
    · rintro ⟨hvm, hops⟩
      refine ⟨⟨hvm, hops [] op ops rfl⟩, fun before op' after h => ?_⟩
      have := hops (op :: before) op' after (congrArg (op :: ·) h)
      rwa [hcons] at this

theorem topIndex_of_isIntact (h : vm.isIntact) : vm.topIndex = vm.top := by
  rw [isIntact, Bool.and_eq_true, beq_iff_eq] at h
  rw [topIndex, h.1]
  simp

/-- A number that is pushed can be stored once. -/
def sampleStores : List Operation := [.push (.int 5), .setGlobal "x"]

end Vm

end PluginHost.Lua
