import Mathlib
import PluginHost.Native.Image
import PluginHost.Proofs.Data.Values

/-!
# Variables in memory

A scalar that is put into memory at its type reads as itself (`ofBytes_bytesOf`). What a variable holds after several
changes (`Write`, `Memory.after`) is what the last of them that concerns it has left there, or else what it held before
(`get_after_of_keeps`, `get_after_written`).
-/

namespace PluginHost.Native

/-! ## Scalars as bytes -/

theorem length_littleEndian (n : Int) (count : Nat) : (littleEndian n count).length = count := by
  simp [littleEndian]

theorem littleEndian_succ (n : Int) (count : Nat) :
    littleEndian n (count + 1) = UInt8.ofNat (n % 256).toNat :: littleEndian (n / 256) count := by
  rw [littleEndian, List.range_succ_eq_map, List.map_cons, List.map_map]
  refine congrArg₂ List.cons (by simp) (List.map_congr_left fun i _ => ?_)
  dsimp only [Function.comp_apply]
  rw [pow_succ', Int.ediv_ediv_of_nonneg (by decide)]

/-- The bytes of a number spell what of it fits. -/
theorem ofLittleEndian_littleEndian (n : Int) (count : Nat) :
    (ofLittleEndian (littleEndian n count) : Int) = n % 256 ^ count := by
  induction count generalizing n with
  | zero => simp [littleEndian, ofLittleEndian]
  | succ count ih =>
    have hbyte : ((UInt8.ofNat (n % 256).toNat).toNat : Int) = n % 256 := by
      rw [UInt8.toNat_ofNat']
      omega
    have htail := ih (n / 256)
    have hdiv : n / 256 / 256 ^ count = n / (256 * 256 ^ count) := Int.ediv_ediv_of_nonneg (by decide)
    rw [ofLittleEndian] at htail
    rw [littleEndian_succ, ofLittleEndian, List.foldr_cons, Nat.cast_add, Nat.cast_mul, hbyte, htail, pow_succ',
      Int.emod_def (n / 256), Int.emod_def n 256, Int.emod_def n (256 * 256 ^ count), hdiv]
    push_cast
    ring

/-- The first bytes of a number, whatever follows them in memory. -/
theorem take_littleEndian (n : Int) {k m : Nat} (hk : k ≤ m) (rest : List UInt8) :
    ((littleEndian n m).take k ++ rest).take k = littleEndian n k := by
  have htake : (littleEndian n m).take k = littleEndian n k := by
    rw [littleEndian, ← List.map_take, List.take_range, Nat.min_eq_left hk, littleEndian]
  rw [htake, List.take_left' (length_littleEndian n k)]

/-- A number of a type is what its bytes spell at that type. -/
theorem wrap_ofLittleEndian {t : IntTy} {n : Int} (hn : t.holds n) :
    t.wrap (ofLittleEndian (littleEndian n (t.bits / 8))) = n := by
  have hpow : (256 : Int) ^ (t.bits / 8) = 2 ^ t.bits := by cases t <;> rfl
  have hhalf : (2 : Int) ^ t.bits = 2 * 2 ^ (t.bits - 1) := by cases t <;> rfl
  obtain ⟨hmin, hmax⟩ := IntTy.holds_iff.1 hn
  rw [ofLittleEndian_littleEndian, hpow, IntTy.wrap]
  unfold IntTy.min at hmin
  unfold IntTy.max at hmax
  cases hsigned : t.signed with
  | true =>
    rw [hsigned, if_pos rfl] at hmin hmax
    have hbmod := Int.emod_bmod n (2 ^ t.bits)
    push_cast at hbmod
    rw [if_pos rfl, hbmod]
    refine Int.bmod_eq_of_le ?_ ?_ <;> push_cast <;> omega
  | false =>
    rw [hsigned, if_neg Bool.false_ne_true] at hmin hmax
    rw [if_neg Bool.false_ne_true, Int.emod_emod, Int.emod_eq_of_lt hmin (by omega)]

/-- A scalar reads at its type as itself. -/
theorem ofBytes_bytesOf {t : Ty} {d : Datum} (ht : t.isScalar) (hd : d.hasType t) (rest : List UInt8) :
    ofBytes t ((bytesOf d).take (sizeOfTy t) ++ rest) = d := by
  cases t with
  | int w =>
    obtain ⟨n, rfl, hn⟩ := Datum.hasType_int_iff.1 hd
    have hsize : w.bits / 8 ≤ 8 := by cases w <;> decide
    simp only [ofBytes, bytesOf, sizeOfTy, take_littleEndian n hsize, wrap_ofLittleEndian hn]
  | f32 =>
    obtain ⟨x, rfl⟩ := Datum.hasType_f32_iff.1 hd
    have hbits := ofLittleEndian_littleEndian x.toBits.toNat 4
    have hnat : ofLittleEndian (littleEndian x.toBits.toNat 4) = x.toBits.toNat := by
      have := x.toBits.toNat_lt
      omega
    simp only [ofBytes, bytesOf, sizeOfTy, take_littleEndian _ (Nat.le_refl 4), hnat, UInt32.ofNat_toNat,
      Float32.ofBits_toBits]
  | f64 =>
    obtain ⟨x, rfl⟩ := Datum.hasType_f64_iff.1 hd
    have hbits := ofLittleEndian_littleEndian x.toBits.toNat 8
    have hnat : ofLittleEndian (littleEndian x.toBits.toNat 8) = x.toBits.toNat := by
      have := x.toBits.toNat_lt
      omega
    simp only [ofBytes, bytesOf, sizeOfTy, take_littleEndian _ (Nat.le_refl 8), hnat, UInt64.ofNat_toNat,
      Float.ofBits_toBits]
  | bool =>
    obtain ⟨b, rfl⟩ := Datum.hasType_bool_iff.1 hd
    cases b <;> simp [ofBytes, bytesOf, sizeOfTy, ofLittleEndian]
  | _ => cases ht

/-! ## Variables -/

namespace Memory

variable {m : Memory} {x y : String}

theorem get_cons (e : String × List UInt8) (m : Memory) (x : String) :
    get (e :: m) x = if e.1 = x then e.2 else m.get x := by
  rw [get, List.find?_cons]
  by_cases he : e.1 = x <;> simp [he, get]

theorem set_cons (e : String × List UInt8) (m : Memory) (x : String) (bytes : List UInt8) :
    set (e :: m) x bytes = (e.1, if e.1 = x then bytes ++ e.2.drop bytes.length else e.2) :: m.set x bytes := by
  obtain ⟨n, old⟩ := e
  rw [set, List.map_cons]
  by_cases hn : n = x <;> simp [hn, set]

theorem get_set_of_ne (m : Memory) (h : y ≠ x) (bytes : List UInt8) : (m.set y bytes).get x = m.get x := by
  induction m with
  | nil => rfl
  | cons e m ih =>
    rw [set_cons, get_cons, get_cons, ih]
    by_cases he : e.1 = x
    · rw [if_pos he, if_pos he, if_neg (fun hy => h (hy.symm.trans he))]
    · rw [if_neg he, if_neg he]

theorem get_set_self (hx : x ∈ m.names) (bytes : List UInt8) :
    (m.set x bytes).get x = bytes ++ (m.get x).drop bytes.length := by
  induction m with
  | nil => cases hx
  | cons e m ih =>
    rw [set_cons, get_cons, get_cons]
    by_cases he : e.1 = x
    · rw [if_pos he, if_pos he, if_pos he]
    · have htail : x ∈ names m := (List.mem_cons.1 hx).resolve_left (Ne.symm he)
      rw [if_neg he, if_neg he, ih htail]

end Memory

/-- What an exported variable holds at the start. -/
theorem Image.get_initialMemory {i : Image} {x : String} {initial : List UInt8}
    (h : i.symbol? x = some (.variable initial)) : x ∈ i.initialMemory.names ∧ i.initialMemory.get x = initial := by
  obtain ⟨exports, hidden, internal⟩ := i
  rw [symbol?] at h
  rw [initialMemory]
  induction exports with
  | nil => cases h
  | cons e exports ih =>
    obtain ⟨name, s⟩ := e
    rw [List.find?_cons] at h
    by_cases hname : name = x
    · subst hname
      simp only [decide_true, Option.map_some, Option.some.injEq] at h
      subst h
      simp [Memory.names, Memory.get_cons]
    · simp only [hname, decide_false] at h
      obtain ⟨hmem, hget⟩ := ih h
      cases s with
      | «variable» bytes =>
        simp only [List.filterMap_cons, List.cons_append, Memory.get_cons, hname, if_false]
        exact ⟨List.mem_cons_of_mem _ hmem, hget⟩
      | function f => exact ⟨hmem, hget⟩
      | «alias» target => exact ⟨hmem, hget⟩

/-! ## Changes -/

/-- Something that changes the variables of a library. -/
inductive Write
  /-- A variable is given a value at a type. -/
  | store (name : String) (t : Ty) (d : Datum)
  /-- A function is called. -/
  | call (f : Function) (args : List Datum) (result : Ty)

/-- What a change leaves. -/
def Write.apply : Write → Memory → Memory
  | store name t d, m => m.set name ((bytesOf d).take (sizeOfTy t))
  | call f args result, m => (f.call m args result).memory

theorem Function.names_call (f : Function) (m : Memory) (args : List Datum) (result : Ty) :
    (f.call m args result).memory.names = m.names := by
  rw [← f.names_body m (List.zipWith recast f.params args), call]
  cases f.body m (List.zipWith recast f.params args) <;> rfl

@[simp] theorem Write.names_apply (w : Write) (m : Memory) : (w.apply m).names = m.names := by
  cases w with
  | store name t d => exact m.names_set _ _
  | call f args result => exact f.names_call m args result

namespace Memory

/-- The variables after several changes, the first one first. -/
def after (m : Memory) : List Write → Memory
  | [] => m
  | w :: ws => (w.apply m).after ws

/-- Whether several changes, one after another, all leave a variable as it is. -/
def Keeps (m : Memory) (x : String) : List Write → Prop
  | [] => True
  | w :: ws => (w.apply m).get x = m.get x ∧ (w.apply m).Keeps x ws

variable {m : Memory} {x y : String}

theorem after_append (m : Memory) (ws ws' : List Write) : m.after (ws ++ ws') = (m.after ws).after ws' := by
  induction ws generalizing m with
  | nil => rfl
  | cons w ws ih => exact ih (w.apply m)

theorem names_after (m : Memory) (ws : List Write) : (m.after ws).names = m.names := by
  induction ws generalizing m with
  | nil => rfl
  | cons w ws ih => exact (ih (w.apply m)).trans (w.names_apply m)

theorem keeps_cons_store (h : y ≠ x) (t : Ty) (d : Datum) (ws : List Write) :
    m.Keeps x (.store y t d :: ws) ↔ ((Write.store y t d).apply m).Keeps x ws :=
  and_iff_right (m.get_set_of_ne h _)

/-- What nothing changes stays. -/
theorem get_after_of_keeps {ws : List Write} (h : m.Keeps x ws) : (m.after ws).get x = m.get x := by
  induction ws generalizing m with
  | nil => rfl
  | cons w ws ih => exact (ih h.2).trans h.1

/-- The last change that concerns a variable decides what it holds. -/
theorem get_after_written {ws ws' : List Write} {w : Write} (h : (m.after (ws ++ [w])).Keeps x ws') :
    (m.after (ws ++ w :: ws')).get x = (w.apply (m.after ws)).get x := by
  rw [List.append_cons, after_append, get_after_of_keeps h, after_append]
  rfl

end Memory

/-! ## Reading -/

/-- Whether a variable reads, at every type, as what was written to it last, and as its initial value if nothing was. A
value that was stored reads as itself at the type at which it was stored. -/
structure ReadsLast {ε : Type} (read : Ty → Except ε Datum) (x : String) (initial : List UInt8) (m : Memory)
    (ws : List Write) : Prop where
  unchanged (hk : m.Keeps x ws) (t : Ty) : read t = .ok (ofBytes t initial)
  changed {before later : List Write} {w : Write} (hws : ws = before ++ w :: later)
    (hk : (m.after (before ++ [w])).Keeps x later) (t : Ty) : read t = .ok (ofBytes t ((w.apply (m.after before)).get x))
  stored {before later : List Write} {t : Ty} {d : Datum} (hws : ws = before ++ .store x t d :: later)
    (hk : (m.after (before ++ [.store x t d])).Keeps x later) (ht : t.isScalar) (hd : d.hasType t) : read t = .ok d

theorem readsLast {ε : Type} {read : Ty → Except ε Datum} {x : String} {m : Memory} {ws : List Write}
    (hx : x ∈ m.names) (hread : ∀ t, read t = .ok (ofBytes t ((m.after ws).get x))) :
    ReadsLast read x (m.get x) m ws where
  unchanged hk t := by rw [hread, Memory.get_after_of_keeps hk]
  changed hws hk t := by rw [hread, hws, Memory.get_after_written hk]
  stored {before _ t d} hws hk ht hd := by
    have hmem : x ∈ (m.after before).names := m.names_after before ▸ hx
    rw [hread, hws, Memory.get_after_written hk, Write.apply, Memory.get_set_self hmem, ofBytes_bytesOf ht hd]

end PluginHost.Native
