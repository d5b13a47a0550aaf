import PluginHost.Proofs.Data.Absent
import PluginHost.Proofs.Lua.Call

/-!
# What pushing asks for

Pushing asks for room at each step and for integers that Lua has, and nothing else can go wrong. `demands` lists what a
datum asks for, in order, from the height alone; a push ends as the first demand that is not met says, and succeeds if
all are (`pushDatum_meets`). `pushing_allOrNothing` puts this together with what becomes of the stack.
-/

namespace PluginHost

/-- A number of an integer type that is part of a datum of a type. -/
inductive Datum.HasNumber (t : IntTy) (n : Int) : Datum → Ty → Prop
  | whole : HasNumber t n (.int n) (.int t)
  | some {d : Datum} {s : Ty} : HasNumber t n d s → HasNumber t n (.some d) (.opt s)
  | item {d : Datum} {ds : List Datum} {s : Ty} : d ∈ ds → HasNumber t n d s → HasNumber t n (.list ds) (.vec s)
  | key {e : Datum × Datum} {es : List (Datum × Datum)} {k v : Ty} :
    e ∈ es → HasNumber t n e.1 k → HasNumber t n (.map es) (.map k v)
  | value {e : Datum × Datum} {es : List (Datum × Datum)} {k v : Ty} :
    e ∈ es → HasNumber t n e.2 v → HasNumber t n (.map es) (.map k v)

/-- A number that is too large for a signed integer of its size is part of a datum. -/
def Datum.HasOversized (n : Int) (d : Datum) (t : Ty) : Prop :=
  IntTy.i64.max < n ∧ (d.HasNumber .u64 n t ∨ d.HasNumber .usize n t)

/-- Numbers that exceed the signed integers are of one of two types. -/
theorem IntTy.eq_of_holds {t : IntTy} {n : Int} (h : t.holds n) (hn : ¬(-2 ^ 63 ≤ n ∧ n < 2 ^ 63)) :
    IntTy.i64.max < n ∧ (t = .u64 ∨ t = .usize) := by
  obtain ⟨hmin, hmax⟩ := holds_iff.1 h
  cases t <;> simp [IntTy.min, IntTy.max, signed, bits] at hmin hmax ⊢ <;> omega

namespace Lua

/-- Something that pushing asks for: a height of the stack, or that Lua has an integer. -/
inductive Demand
  | room (height : Nat)
  | integer (n : Int)

/-- What comes of a demand that is not met while the stack may have a height. -/
def Demand.error? (limit : Nat) : Demand → Option VmError
  | .room height => if height ≤ limit then none else some .stackOverflow
  | .integer n => if -2 ^ 63 ≤ n ∧ n < 2 ^ 63 then none else some (.conversion s!"{n} does not fit in a Lua integer")

/-- What comes of demands one after the other: the first that is not met decides. -/
def outcome (limit : Nat) : List Demand → Except VmError Unit
  | [] => .ok ()
  | d :: ds => match d.error? limit with
    | some e => .error e
    | none => outcome limit ds

mutual

/-- What a datum asks for that is pushed at a height, apart from room for its own slot. -/
def demands (height : Nat) : Datum → List Demand
  | .int n => [.integer n]
  | .some d => demands height d
  | .list ds => itemDemands (height + 1) ds
  | .map es => entryDemands (height + 1) es
  | _ => []
termination_by structural x => x

/-- What items ask for, whose table is on top. -/
def itemDemands (height : Nat) : List Datum → List Demand
  | [] => []
  | d :: ds => .room (height + 1) :: (demands height d ++ itemDemands height ds)
termination_by structural x => x

/-- What entries ask for, whose table is on top. -/
def entryDemands (height : Nat) : List (Datum × Datum) → List Demand
  | [] => []
  | (k, v) :: es => .room (height + 2) :: (demands height k ++ (demands (height + 1) v ++ entryDemands height es))
termination_by structural x => x

end

/-- What arguments ask for, apart from room for their slots. -/
def argDemands (height : Nat) : List Datum → List Demand
  | [] => []
  | d :: ds => demands height d ++ argDemands (height + 1) ds

/-! ## The first demand that is not met -/

section Outcome

variable {limit : Nat} {ds es : List Demand} {e : VmError}

theorem outcome_append : outcome limit (ds ++ es) =
    match outcome limit ds with
    | .ok () => outcome limit es
    | .error e => .error e := by
  induction ds with
  | nil => rfl
  | cons d ds ih =>
    simp only [List.cons_append, outcome]
    cases d.error? limit with
    | none => exact ih
    | some e => rfl

theorem outcome_eq_ok_iff : outcome limit ds = .ok () ↔ ∀ d ∈ ds, d.error? limit = none := by
  induction ds with
  | nil => simp [outcome]
  | cons d ds ih =>
    rw [outcome, List.forall_mem_cons]
    cases d.error? limit with
    | none => simpa using ih
    | some e => simp

/-- What fails is a demand, and all before it are met. -/
theorem exists_of_outcome_eq_error (h : outcome limit ds = .error e) : ∃ before d after,
    ds = before ++ d :: after ∧ (∀ d' ∈ before, d'.error? limit = none) ∧ d.error? limit = some e := by
  induction ds with
  | nil => cases h
  | cons d ds ih =>
    rw [outcome] at h
    cases hd : d.error? limit with
    | some e' =>
      rw [hd] at h
      cases h
      exact ⟨[], d, ds, rfl, fun _ h => absurd h List.not_mem_nil, hd⟩
    | none =>
      rw [hd] at h
      obtain ⟨before, d', after, rfl, hmet, hd'⟩ := ih h
      exact ⟨d :: before, d', after, rfl, List.forall_mem_cons.2 ⟨hd, hmet⟩, hd'⟩

theorem error?_room_eq_some_iff {height : Nat} :
    (Demand.room height).error? limit = some e ↔ limit < height ∧ e = .stackOverflow := by
  rw [Demand.error?]
  split <;> simp [eq_comm] <;> omega

theorem error?_integer_eq_some_iff {n : Int} : (Demand.integer n).error? limit = some e ↔
    ¬(-2 ^ 63 ≤ n ∧ n < 2 ^ 63) ∧ e = .conversion s!"{n} does not fit in a Lua integer" := by
  rw [Demand.error?]
  split <;> simp_all [eq_comm]

end Outcome

namespace Vm

variable {vm vm₁ : Vm} {n k : Nat} {ds es : List Demand}

/-- The height that the stack may have. -/
def limit (vm : Vm) : Nat := if vm.hasOverflowed then maxHeightAfterRefusal else maxHeight

theorem limit_eq_of_refusals (h : vm₁.refusals = vm.refusals) : vm₁.limit = vm.limit := by
  rw [limit, limit, hasOverflowed, hasOverflowed, h]

/-- An operation ends as its demands say; if they are met, the stack has a certain height, and no room was refused. -/
def Meets (m : Push Unit) (vm : Vm) (ds : List Demand) (height : Nat) : Prop :=
  (m.on vm).1 = outcome vm.limit ds ∧
    ∀ vm₁, m.on vm = (.ok (), vm₁) → vm₁.top = height ∧ vm₁.refusals = vm.refusals

theorem Meets.bind {m : Push Unit} {f : Unit → Push Unit} (hm : Meets m vm ds n)
    (hf : ∀ vm₁ : Vm, vm₁.top = n → vm₁.refusals = vm.refusals → Meets (f ()) vm₁ es k) :
    Meets (m >>= f) vm (ds ++ es) k := by
  obtain ⟨hout, hok⟩ := hm
  rcases hrun : m.on vm with ⟨e | ⟨⟩, vm₁⟩
  · rw [hrun] at hout
    refine ⟨?_, fun vm₂ h => ?_⟩
    · rw [on_bind_error hrun, outcome_append, ← hout]
    · rw [on_bind_error hrun] at h
      cases h
  · rw [hrun] at hout
    obtain ⟨htop, hrefusals⟩ := hok vm₁ hrun
    obtain ⟨hout₁, hok₁⟩ := hf vm₁ htop hrefusals
    rw [limit_eq_of_refusals hrefusals] at hout₁
    refine ⟨?_, fun vm₂ h => ?_⟩
    · rw [on_bind_ok hrun, outcome_append, ← hout]
      exact hout₁
    · rw [on_bind_ok hrun] at h
      obtain ⟨htop₂, hrefusals₂⟩ := hok₁ vm₂ h
      exact ⟨htop₂, hrefusals₂.trans hrefusals⟩

/-! ## Single steps -/

/-- What cannot fail asks for nothing. -/
theorem meets_of_ok {m : Push Unit} (h : m.on vm = (.ok (), vm₁)) (htop : vm₁.top = n)
    (hrefusals : vm₁.refusals = vm.refusals) : Meets m vm [] n := by
  refine ⟨by rw [h]; rfl, fun vm₂ h₂ => ?_⟩
  obtain rfl : vm₁ = vm₂ := congrArg Prod.snd (h.symm.trans h₂)
  exact ⟨htop, hrefusals⟩

theorem meets_raw (v : Value) (vm : Vm) : Meets (Push.raw v) vm [] (vm.top + 1) :=
  meets_of_ok rfl (by simp [top, pushValue]) rfl

theorem meets_newTable (values keys : Nat) (vm : Vm) : Meets (Push.newTable values keys) vm [] (vm.top + 1) :=
  meets_of_ok rfl (by simp [top, pushValue]) rfl

theorem top_dropSlots (vm : Vm) (n : Nat) : (vm.dropSlots n).top = vm.top - n := by
  simp [top, dropSlots]

theorem meets_setItem (place : Nat) (vm : Vm) : Meets (Push.setItem place) vm [] (vm.top - 1) := by
  refine meets_of_ok rfl ?_ ?_ <;> dsimp only <;> split
  · exact top_dropSlots _ 1
  · exact top_dropSlots vm 1
  · rfl
  · rfl

theorem meets_setEntry (vm : Vm) : Meets Push.setEntry vm [] (vm.top - 2) := by
  refine meets_of_ok rfl ?_ ?_ <;> dsimp only <;> split
  · split <;> exact top_dropSlots _ 2
  · exact top_dropSlots vm 2
  · split <;> rfl
  · rfl

theorem reserve_ofNat (hn : n < 2 ^ 31) (vm : Vm) : vm.reserve (Int32.ofNat n) =
    if vm.top + n ≤ vm.limit then (true, vm) else (false, vm.refuse 1) := by
  have hcount : (Int32.ofNat n).toInt = n := Int32.toInt_ofNat_of_lt hn
  unfold reserve limit
  rw [hcount]
  norm_cast

theorem meets_reserve (hn : n < 2 ^ 31) (vm : Vm) : Meets (Push.reserve n) vm [.room (vm.top + n)] vm.top := by
  have hreserve := reserve_ofNat hn vm
  by_cases hle : vm.top + n ≤ vm.limit
  · have hmet : (Demand.room (vm.top + n)).error? vm.limit = none := if_pos hle
    rw [if_pos hle] at hreserve
    refine ⟨by rw [on_reserve hreserve, outcome, hmet]; rfl, fun vm₁ h => ?_⟩
    rw [on_reserve hreserve] at h
    cases h
    exact ⟨rfl, rfl⟩
  · have herror : (Demand.room (vm.top + n)).error? vm.limit = some .stackOverflow := if_neg hle
    rw [if_neg hle] at hreserve
    refine ⟨by rw [on_reserve hreserve, outcome, herror]; rfl, fun vm₁ h => ?_⟩
    rw [on_reserve hreserve] at h
    cases h

/-! ## Data -/

mutual

/-- Pushing a datum ends as its demands say. -/
theorem pushDatum_meets : ∀ (d : Datum) (vm : Vm), Meets (pushDatum d) vm (demands vm.top d) (vm.top + 1)
  | .int n, vm => by
    rw [pushDatum, demands]
    by_cases h : -2 ^ 63 ≤ n ∧ n < 2 ^ 63
    · have hmet : (Demand.integer n).error? vm.limit = none := if_pos h
      rw [if_pos h]
      obtain ⟨hout, hok⟩ := meets_raw (.integer (Int64.ofInt n)) vm
      exact ⟨hout.trans (by simp only [outcome, hmet]), hok⟩
    · have herror : (Demand.integer n).error? vm.limit = some (.conversion s!"{n} does not fit in a Lua integer") :=
        if_neg h
      rw [if_neg h]
      refine ⟨by rw [outcome, herror]; rfl, fun vm₁ h => ?_⟩
      cases h
  | .f32 _, vm | .f64 _, vm | .bool _, vm | .str _, vm | .unit, vm | .none, vm => by
    rw [pushDatum]
    exact meets_raw _ vm
  | .some d, vm => by
    rw [pushDatum]
    exact pushDatum_meets d vm
  | .list ds, vm => by
    rw [pushDatum]
    exact (meets_newTable ds.length 0 vm).bind fun vm₁ htop _ => htop ▸ pushItems_meets 1 ds vm₁
  | .map es, vm => by
    rw [pushDatum]
    exact (meets_newTable 0 es.length vm).bind fun vm₁ htop _ => htop ▸ pushEntries_meets es vm₁

/-- Filling a table with items ends as their demands say. -/
theorem pushItems_meets : ∀ (place : Nat) (ds : List Datum) (vm : Vm),
    Meets (pushItems place ds) vm (itemDemands vm.top ds) vm.top
  | _, [], vm => by
    rw [pushItems]
    exact meets_of_ok rfl rfl rfl
  | place, d :: ds, vm => by
    rw [pushItems]
    refine (meets_reserve (n := 1) (by omega) vm).bind fun vm₁ htop₁ _ => ?_
    rw [← htop₁]
    refine (pushDatum_meets d vm₁).bind fun vm₂ htop₂ _ => ?_
    refine (meets_setItem place vm₂).bind fun vm₃ htop₃ _ => ?_
    have htop : vm₃.top = vm₁.top := by omega
    have hrest := pushItems_meets (place + 1) ds vm₃
    rwa [htop] at hrest

/-- Filling a table with entries ends as their demands say. -/
theorem pushEntries_meets : ∀ (es : List (Datum × Datum)) (vm : Vm),
    Meets (pushEntries es) vm (entryDemands vm.top es) vm.top
  | [], vm => by
    rw [pushEntries]
    exact meets_of_ok rfl rfl rfl
  | (k, v) :: es, vm => by
    rw [pushEntries]
    refine (meets_reserve (n := 2) (by omega) vm).bind fun vm₁ htop₁ _ => ?_
    rw [← htop₁]
    refine (pushDatum_meets k vm₁).bind fun vm₂ htop₂ _ => ?_
    rw [← htop₂]
    refine (pushDatum_meets v vm₂).bind fun vm₃ htop₃ _ => ?_
    refine (meets_setEntry vm₃).bind fun vm₄ htop₄ _ => ?_
    have htop : vm₄.top = vm₁.top := by omega
    have hrest := pushEntries_meets es vm₄
    rwa [htop] at hrest

end

theorem pushArgs_meets (args : List Datum) : ∀ vm : Vm,
    Meets (pushArgs args) vm (argDemands vm.top args) (vm.top + args.length) := by
  induction args with
  | nil => exact fun vm => meets_of_ok rfl rfl rfl
  | cons d args ih =>
    intro vm
    refine (pushDatum_meets d vm).bind fun vm₁ htop _ => ?_
    have hrest := ih vm₁
    rw [htop] at hrest
    rw [List.length_cons, Nat.add_comm args.length 1, ← Nat.add_assoc]
    exact hrest

/-! ## Numbers that do not fit -/

section Numbers

variable {m : Int} {height : Nat}

theorem exists_of_mem_itemDemands {items : List Datum} (h : Demand.integer m ∈ itemDemands height items) :
    ∃ d ∈ items, Demand.integer m ∈ demands height d := by
  induction items with
  | nil => cases h
  | cons d items ih =>
    simp only [itemDemands, List.mem_cons, List.mem_append, reduceCtorEq, false_or] at h
    rcases h with h | h
    · exact ⟨d, List.mem_cons_self, h⟩
    · obtain ⟨d', hd', h'⟩ := ih h
      exact ⟨d', List.mem_cons_of_mem d hd', h'⟩

theorem exists_of_mem_entryDemands {entries : List (Datum × Datum)}
    (h : Demand.integer m ∈ entryDemands height entries) :
    ∃ e ∈ entries, Demand.integer m ∈ demands height e.1 ∨ Demand.integer m ∈ demands (height + 1) e.2 := by
  induction entries with
  | nil => cases h
  | cons e entries ih =>
    simp only [entryDemands, List.mem_cons, List.mem_append, reduceCtorEq, false_or] at h
    rcases h with h | h | h
    · exact ⟨e, List.mem_cons_self, .inl h⟩
    · exact ⟨e, List.mem_cons_self, .inr h⟩
    · obtain ⟨e', he', h'⟩ := ih h
      exact ⟨e', List.mem_cons_of_mem e he', h'⟩

/-- An integer that is asked for is a number of the datum. -/
theorem exists_hasNumber : ∀ {t : Ty} {d : Datum} {height : Nat}, t.isPushable → d.hasType t →
    Demand.integer m ∈ demands height d → ∃ s : IntTy, s.holds m ∧ d.HasNumber s m t
  | .int s, d, height, _, hd, h => by
    obtain ⟨n, rfl, hn⟩ := Datum.hasType_int_iff.1 hd
    obtain rfl : m = n := by simpa [demands] using h
    exact ⟨s, hn, .whole⟩
  | .f32, d, _, _, hd, h => by
    obtain ⟨x, rfl⟩ := Datum.hasType_f32_iff.1 hd
    cases h
  | .f64, d, _, _, hd, h => by
    obtain ⟨x, rfl⟩ := Datum.hasType_f64_iff.1 hd
    cases h
  | .bool, d, _, _, hd, h => by
    obtain ⟨b, rfl⟩ := Datum.hasType_bool_iff.1 hd
    cases h
  | .str, d, _, _, hd, h => by
    obtain ⟨s, rfl⟩ := Datum.hasType_str_iff.1 hd
    cases h
  | .nil, d, _, _, hd, h => by
    obtain rfl := Datum.hasType_nil_iff.1 hd
    cases h
  | .opt t, d, height, ht, hd, h => by
    obtain rfl | ⟨e, rfl, he⟩ := Datum.hasType_opt_iff.1 hd
    · cases h
    · obtain ⟨s, hs, hn⟩ := exists_hasNumber (t := t) ht he h
      exact ⟨s, hs, .some hn⟩
  | .vec t, d, height, ht, hd, h => by
    obtain ⟨items, rfl, hitems⟩ := Datum.hasType_vec_iff.1 hd
    obtain ⟨e, he, h'⟩ := exists_of_mem_itemDemands h
    obtain ⟨s, hs, hn⟩ := exists_hasNumber (t := t) ht (hitems e he) h'
    exact ⟨s, hs, .item he hn⟩
  | .map k v, d, height, ht, hd, h => by
    simp only [Ty.isPushable, Bool.and_eq_true] at ht
    obtain ⟨entries, rfl, hentries⟩ := Datum.hasType_map_iff.1 hd
    obtain ⟨e, he, h' | h'⟩ := exists_of_mem_entryDemands h
    · obtain ⟨s, hs, hn⟩ := exists_hasNumber ht.1.1 (hentries e he).1 h'
      exact ⟨s, hs, .key he hn⟩
    · obtain ⟨s, hs, hn⟩ := exists_hasNumber ht.2 (hentries e he).2 h'
      exact ⟨s, hs, .value he hn⟩

end Numbers

/-! ## All or nothing -/

/-- Pushing data of some types puts one value on the stack for each, or fails and leaves all as it was. It fails because
of a number of a type without a sign that Lua has no integer for, or because of a request for room that exceeds what the
stack may have, after all demands before it were met. Otherwise it succeeds. -/
structure AllOrNothing (vm : Vm) (data : List (Datum × Ty)) (asked : List Demand) (r : Except VmError Unit × Vm) :
    Prop where
  ok : r.1 = .ok () → ∃ xs, xs.length = data.length ∧ Grows (fun _ => True) vm r.2 xs
  error : ∀ e, r.1 = .error e → r.2 = vm.refuse e.refusals
  reasons : ∀ e, r.1 = .error e → e = .stackOverflow ∨ ∃ m, e = .conversion m
  conversion : ∀ m, r.1 = .error (.conversion m) → ∃ n, m = s!"{n} does not fit in a Lua integer" ∧
    ∃ p ∈ data, p.1.HasOversized n p.2
  stackOverflow : r.1 = .error .stackOverflow → ∃ before height after, asked = before ++ .room height :: after ∧
    (∀ d ∈ before, d.error? vm.limit = none) ∧ vm.limit < height
  succeeds : (∀ p ∈ data, ∀ n, ¬p.1.HasOversized n p.2) → (∀ height, .room height ∈ asked → height ≤ vm.limit) →
    r.1 = .ok ()

theorem fst_undoing (vm : Vm) (r : Except VmError Unit × Vm) : (vm.undoing r).1 = r.1 := by
  rcases r with ⟨_ | _, _⟩ <;> rfl

/-- What ends as its demands say is all or nothing, if the integers it asks for are numbers of the data. -/
theorem allOrNothing_of_outcome {data : List (Datum × Ty)} {asked : List Demand} {r : Except VmError Unit × Vm}
    (hout : r.1 = outcome vm.limit asked) (hok : r.1 = .ok () → ∃ xs, xs.length = data.length ∧
      Grows (fun _ => True) vm r.2 xs) (herror : ∀ e, r.1 = .error e → r.2 = vm.refuse e.refusals)
    (hnumber : ∀ n, .integer n ∈ asked → ∃ p ∈ data, ∃ s : IntTy, s.holds n ∧ p.1.HasNumber s n p.2) :
    AllOrNothing vm data asked r := by
  have hoversized : ∀ n, .integer n ∈ asked → ¬(-2 ^ 63 ≤ n ∧ n < 2 ^ 63) → ∃ p ∈ data, p.1.HasOversized n p.2 := by
    intro n hn hlarge
    obtain ⟨p, hp, s, hs, hpart⟩ := hnumber n hn
    obtain ⟨hmax, rfl | rfl⟩ := IntTy.eq_of_holds hs hlarge
    · exact ⟨p, hp, hmax, .inl hpart⟩
    · exact ⟨p, hp, hmax, .inr hpart⟩
  refine ⟨hok, herror, fun e he => ?_, fun m hm => ?_, fun hover => ?_, fun hfits hroom => ?_⟩
  · obtain ⟨before, d, after, -, -, hd⟩ := exists_of_outcome_eq_error (hout.symm.trans he)
    cases d with
    | room height => exact .inl (error?_room_eq_some_iff.1 hd).2
    | integer n => exact .inr ⟨_, (error?_integer_eq_some_iff.1 hd).2⟩
  · obtain ⟨before, d, after, rfl, -, hd⟩ := exists_of_outcome_eq_error (hout.symm.trans hm)
    cases d with
    | room height => cases (error?_room_eq_some_iff.1 hd).2
    | integer n =>
      obtain ⟨hlarge, hmessage⟩ := error?_integer_eq_some_iff.1 hd
      cases hmessage
      exact ⟨n, rfl, hoversized n (by simp) hlarge⟩
  · obtain ⟨before, d, after, rfl, hbefore, hd⟩ := exists_of_outcome_eq_error (hout.symm.trans hover)
    cases d with
    | room height => exact ⟨before, height, after, rfl, hbefore, (error?_room_eq_some_iff.1 hd).1⟩
    | integer n => cases (error?_integer_eq_some_iff.1 hd).2
  · rw [hout, outcome_eq_ok_iff]
    intro d hd
    cases d with
    | room height => exact if_pos (hroom height hd)
    | integer n =>
      refine if_pos (by_contra fun hlarge => ?_)
      obtain ⟨p, hp, hpart⟩ := hoversized n hd hlarge
      exact hfits p hp n hpart

theorem push_allOrNothing {d : Datum} {t : Ty} (ht : t.isPushable) (hd : d.hasType t) :
    AllOrNothing vm [(d, t)] (.room (vm.top + 1) :: demands vm.top d) (vm.push d) := by
  have hmeets : Meets (Push.reserve 1 >>= fun _ => pushDatum d) vm (.room (vm.top + 1) :: demands vm.top d) _ :=
    (meets_reserve (n := 1) (by omega) vm).bind fun vm₁ htop _ => htop ▸ pushDatum_meets d vm₁
  have hfst : (vm.push d).1 = ((Push.reserve 1 >>= fun _ => pushDatum d).on vm).1 := fst_undoing vm _
  refine allOrNothing_of_outcome (hfst.trans hmeets.1) (fun hok => ?_) (fun e he => ?_) fun n hn => ?_
  · obtain ⟨⟨x, hg, -⟩, -⟩ := push_ok (Prod.ext hok rfl)
    exact ⟨[x], rfl, hg⟩
  · exact push_error (Prod.ext he rfl)
  · obtain ⟨s, hs, hpart⟩ := exists_hasNumber ht hd (by simpa using hn)
    exact ⟨(d, t), List.mem_singleton_self _, s, hs, hpart⟩

theorem length_of_haveTypes {args : List Datum} {ts : List Ty} (h : Datum.haveTypes args ts) :
    args.length = ts.length := by
  induction args generalizing ts with
  | nil =>
    cases ts with
    | nil => rfl
    | cons t ts => cases h
  | cons d args ih =>
    cases ts with
    | nil => cases h
    | cons t ts =>
      simp only [Datum.haveTypes, Bool.and_eq_true] at h
      rw [List.length_cons, List.length_cons, ih h.2]

/-- An integer that arguments ask for is a number of one of them. -/
theorem exists_hasNumber_arg {n : Int} : ∀ {args : List Datum} {ts : List Ty} {height : Nat}, (∀ t ∈ ts, t.isPushable) →
    Datum.haveTypes args ts → Demand.integer n ∈ argDemands height args →
    ∃ p ∈ args.zip ts, ∃ s : IntTy, s.holds n ∧ p.1.HasNumber s n p.2
  | d :: args, t :: ts, height, hts, h, hn => by
    simp only [Datum.haveTypes, Bool.and_eq_true] at h
    rw [argDemands, List.mem_append] at hn
    rcases hn with hn | hn
    · obtain ⟨s, hs, hpart⟩ := exists_hasNumber (hts t List.mem_cons_self) h.1 hn
      exact ⟨(d, t), List.mem_cons_self, s, hs, hpart⟩
    · obtain ⟨p, hp, hpart⟩ := exists_hasNumber_arg (fun t' ht' => hts t' (List.mem_cons_of_mem t ht')) h.2 hn
      exact ⟨p, List.mem_cons_of_mem _ hp, hpart⟩

theorem pushAll_allOrNothing {args : List Datum} {ts : List Ty} (ha : args.length ≤ 8) (hts : ∀ t ∈ ts, t.isPushable)
    (h : Datum.haveTypes args ts) :
    AllOrNothing vm (args.zip ts) (.room (vm.top + args.length) :: argDemands vm.top args) (vm.pushAll args) := by
  have hmeets : Meets (Push.reserve args.length >>= fun _ => pushArgs args) vm
      (.room (vm.top + args.length) :: argDemands vm.top args) _ :=
    (meets_reserve (by omega) vm).bind fun vm₁ htop _ => htop ▸ pushArgs_meets args vm₁
  have hfst : (vm.pushAll args).1 = ((Push.reserve args.length >>= fun _ => pushArgs args).on vm).1 := fst_undoing vm _
  have hlength : (args.zip ts).length = args.length := by
    rw [List.length_zip, ← length_of_haveTypes h, Nat.min_self]
  refine allOrNothing_of_outcome (hfst.trans hmeets.1) (fun hok => ?_) (fun e he => ?_) fun n hn => ?_
  · obtain ⟨-, xs, hg, hxs⟩ := pushAll_ok (Prod.ext hok rfl)
    exact ⟨xs, (length_of_representsItems hxs).trans hlength.symm, hg⟩
  · exact pushAll_error (Prod.ext he rfl)
  · exact exists_hasNumber_arg hts h (by simpa using hn)

/-- Pushing is all or nothing, be it one datum or the arguments of a call. -/
theorem pushing_allOrNothing (vm : Vm) :
    (∀ (d : Datum) (t : Ty), t.isPushable → d.hasType t → d.keysPresent →
      AllOrNothing vm [(d, t)] (.room (vm.top + 1) :: demands vm.top d) (vm.push d)) ∧
    ∀ (args : List Datum) (ts : List Ty), args.length ≤ 8 → (∀ t ∈ ts, t.isPushable) → Datum.haveTypes args ts →
      (∀ d ∈ args, d.keysPresent) →
      AllOrNothing vm (args.zip ts) (.room (vm.top + args.length) :: argDemands vm.top args) (vm.pushAll args) :=
  ⟨fun _ _ ht hd _ => push_allOrNothing ht hd, fun _ _ ha hts h _ => pushAll_allOrNothing ha hts h⟩

/-- A stack with one slot. -/
def sampleSlot : Vm := { stack := #[.boolean true] }

/-- A text is pushed; of two arguments none stays, as the second has a number that is too large in a sequence. -/
theorem pushing_sample : (sampleSlot.push (.str "a")).1 = .ok () ∧
    (sampleSlot.pushAll [.int 1, .list [.int (2 ^ 63)]]).2 = sampleSlot ∧
    ∃ n, ∃ p ∈ [(Datum.int 1, Ty.int .u8), (.list [.int (2 ^ 63)], .vec (.int .u64))], p.1.HasOversized n p.2 := by
  obtain ⟨hpush, hpushAll⟩ := pushing_allOrNothing sampleSlot
  have htext := hpush (.str "a") .str rfl rfl rfl
  have hargs := hpushAll [.int 1, .list [.int (2 ^ 63)]] [.int .u8, .vec (.int .u64)] (by decide) (by decide) (by decide)
    (by decide)
  have herror : (sampleSlot.pushAll [.int 1, .list [.int (2 ^ 63)]]).1 =
      .error (.conversion "9223372036854775808 does not fit in a Lua integer") := by
    rfl
  refine ⟨htext.succeeds ?_ ?_, hargs.error _ herror, ?_⟩
  · rintro p hp n ⟨-, hn | hn⟩ <;> obtain rfl := List.mem_singleton.1 hp <;> cases hn
  · intro height h
    obtain rfl : height = 2 := by simpa [demands, sampleSlot, top] using h
    decide
  · obtain ⟨n, -, hlarge⟩ := hargs.conversion _ herror
    exact ⟨n, hlarge⟩

end Vm

end Lua

end PluginHost
