import PluginHost.Script.PythonSession

/-!
# Operations of a session

How the operations of a session run, one by one: what they give, and what becomes of the interpreter and of the exception
that is set in it. Conversions read and make objects and run nothing: reading gives what `decode` gives (`read_gives`),
making what `encode` gives (`make_run`).
-/

namespace PluginHost.Python.Session

variable {α β : Type} {s s' : Session}

theorem bind_eq {x : StateM Session α} {f : α → StateM Session β} {a : α} (hx : x s = (a, s')) :
    (x >>= f) s = f a s' := by
  show f (x s).1 (x s).2 = _
  rw [hx]

theorem get_run (s : Session) : (get : StateM Session Session) s = (s, s) := rfl

theorem main_run (s : Session) : main s = (.ref s.interp.main, s) := rfl

theorem refuse_run (kind message : String) (s : Session) : (refuse kind message : StateM Session (Option α)) s =
    (none, { s with pending := some (.set (.ref (exceptionId kind)) (.ofString message)) }) := rfl

theorem orClear_some {x : StateM Session (Option α)} {a : α} (hx : x s = (some a, s')) : orClear x s = (some a, s') := by
  rw [orClear, bind_eq hx]
  rfl

theorem orClear_none {x : StateM Session (Option α)} (hx : x s = (none, s')) :
    orClear x s = (none, { s' with pending := none }) := by
  rw [orClear, bind_eq hx]
  rfl

/-! ## Reading -/

/-- Whether an operation gives something and changes nothing; if it gives nothing it may clear the exception that is set. -/
def Gives (x : StateM Session (Option α)) (r : Option α) : Prop :=
  ∀ s, x s = (r, s) ∨ r = none ∧ x s = (none, { s with pending := none })

namespace Gives

theorem pure (r : Option α) : Gives (pure r) r := fun _ => .inl rfl

theorem refuse (kind message : String) : Gives (orClear (refuse kind message : StateM Session (Option α))) none :=
  fun s => .inr ⟨rfl, (orClear_none (refuse_run kind message s) :)⟩

/-- What comes after an operation that gives nothing gives nothing either. -/
theorem bind {x : StateM Session (Option α)} {r : Option α} {f : Option α → StateM Session (Option β)} {q : Option β}
    (hx : Gives x r) (hf : Gives (f r) q) (hnone : r = none → q = none) : Gives (x >>= f) q := by
  intro s
  rcases hx s with h | ⟨rfl, h⟩
  · rw [bind_eq h]
    exact hf s
  · obtain rfl := hnone rfl
    rw [bind_eq h]
    rcases hf { s with pending := none } with h | ⟨-, h⟩ <;> exact .inr ⟨rfl, h⟩

theorem map {x : StateM Session (Option α)} {r : Option α} (hx : Gives x r) (f : α → β) :
    Gives (do return (← x).map f) (r.map f) :=
  hx.bind (.pure _) fun h => by rw [h]; rfl

theorem some {x : StateM Session (Option α)} {a : α} (hx : Gives x (some a)) (s : Session) : x s = (.some a, s) := by
  rcases hx s with h | ⟨h, -⟩
  · exact h
  · cases h

/-- Without an exception that is set, nothing changes at all. -/
theorem run {x : StateM Session (Option α)} {r : Option α} (hx : Gives x r) (hs : s.pending = none) : x s = (r, s) := by
  rcases hx s with h | ⟨rfl, h⟩
  · exact h
  · rw [h, ← hs]

end Gives

theorem characters?_gives (t : Text) : Gives (characters? t) t.string? := by
  unfold characters?
  cases t.string? with
  | none => exact .refuse _ _
  | some s => exact fun _ => .inl (orClear_some rfl)

theorem integer?_gives (t : IntTy) (n : Int) : Gives (integer? t n) (if t.holds n then some n else none) := by
  have hmin : (if t.signed then IntTy.i64 else .u64).min ≤ t.min := by cases t <;> decide
  have hmax : t.max ≤ (if t.signed then IntTy.i64 else .u64).max := by cases t <;> decide
  unfold integer?
  dsimp only
  by_cases hwide : (if t.signed then IntTy.i64 else .u64).holds n
  · rw [if_pos hwide]
    exact .bind (fun _ => .inl (orClear_some rfl)) (.pure _) nofun
  · have hn : ¬ t.holds n := fun h => by
      rw [IntTy.holds_iff] at h hwide
      omega
    rw [if_neg hwide, if_neg hn]
    exact .bind (.refuse _ _) (.pure _) fun _ => rfl

theorem readItems_gives {f : α → StateM Session (Option β)} {g : α → Option β} (hf : ∀ x, Gives (f x) (g x)) :
    ∀ xs, Gives (readItems f xs) (Draft.traverse g xs)
  | [] => .pure _
  | x :: xs => by
    rw [readItems, Draft.traverse]
    refine (hf x).bind ?_ fun h => by rw [h]
    cases g x with
    | none => exact .pure _
    | some y =>
      refine (readItems_gives hf xs).bind ?_ fun h => by rw [h]
      cases Draft.traverse g xs <;> exact .pure _

mutual

/-- Reading gives the datum of a type that a value is. -/
theorem read_gives (h : Heap) : ∀ (t : Ty) (v : Value), Gives (read h t v) (decode h t v)
  | .int t, v => by
    rw [read, decode]
    cases plainOf h v with
    | int n =>
      dsimp only
      have hmap := (integer?_gives t n).map Datum.int
      by_cases hn : t.holds n
      · rw [if_pos hn] at hmap ⊢
        exact hmap
      · rw [if_neg hn] at hmap ⊢
        exact hmap
    | _ => exact .pure _
  | .f32, v => by
    rw [read, decode]
    cases plainOf h v <;> exact .pure _
  | .f64, v => by
    rw [read, decode]
    cases plainOf h v <;> exact .pure _
  | .bool, v => by cases v <;> exact .pure _
  | .str, v => by
    rw [read, decode]
    cases plainOf h v with
    | str t => exact (characters?_gives t).map Datum.str
    | _ => exact .pure _
  | .nil, _ | .unit, _ => .pure _
  | .opt t, v => by
    cases v with
    | none => exact .pure _
    | _ => exact (read_gives h t _).map Datum.some
  | .vec t, v => by
    rw [read, decode]
    cases sequence? h v with
    | none => exact .pure _
    | some items => exact (readItems_gives (read_gives h t) items).map Datum.list
  | .tuple ts, v => by
    rw [read, decode]
    cases tuple? h v with
    | none => exact .pure _
    | some items => exact (readEach_gives h ts items).map Datum.list
  | .map k v, x => by
    rw [read, decode]
    cases mapping? h x with
    | none => exact .pure _
    | some entries =>
      refine (readItems_gives (fun e => ?_) entries).map Datum.mapOfEntries
      refine (read_gives h k e.1).bind ((read_gives h v e.2).bind ?_ fun hv => ?_) fun hk => ?_
      · cases decode h k e.1 <;> cases decode h v e.2 <;> exact .pure _
      · rw [hv]
        cases decode h k e.1 <;> rfl
      · rw [hk]
termination_by structural t => t

theorem readEach_gives (h : Heap) : ∀ (ts : List Ty) (vs : List Value), Gives (readEach h ts vs) (decodeEach h ts vs)
  | [], [] | [], _ :: _ | _ :: _, [] => .pure _
  | t :: ts, v :: vs => by
    rw [readEach, decodeEach]
    refine (read_gives h t v).bind ?_ fun h => by rw [h]
    cases decode h t v with
    | none => exact .pure _
    | some d =>
      refine (readEach_gives h ts vs).bind ?_ fun h => by rw [h]
      cases decodeEach h ts vs <;> exact .pure _
termination_by structural ts => ts

end

theorem readResult_gives (h : Heap) (t : Ty) (v : Value) : Gives (readResult h t v) (decodeResult h t v) := by
  cases t with
  | unit => exact .pure _
  | _ => exact read_gives h _ v

/-! ## Making -/

theorem build_run {x : Heap → Option (α × Heap)} {a : α} {heap : Heap} (hx : x s.interp.heap = some (a, heap)) :
    build x s = (some a, { s with interp := { s.interp with heap } }) := by
  rw [build, bind_eq (get_run s), hx]
  rfl

/-- What cannot be made leaves nothing behind. -/
theorem build_refused {x : Heap → Option (α × Heap)} (hx : x s.interp.heap = none) :
    build x s = (none, { s with pending := none }) := by
  rw [build, bind_eq (get_run s), hx]
  rfl

theorem make_run {t : Ty} {d : Datum} {v : Value} {heap : Heap} (he : encode t d s.interp.heap = some (v, heap)) :
    make t d s = (some v, { s with interp := { s.interp with heap } }) :=
  build_run he

/-! ## Running -/

theorem attempt_ok {x : Run α} {a : α} {i : Interp} (hx : x s.interp = (.ok a, i)) :
    attempt x s = (some a, { s with interp := i }) := by
  rw [attempt, hx]

theorem attempt_error {x : Run α} {e : Value} {isNoted : Bool} {i : Interp}
    (hx : x s.interp = (.error (.error e isNoted), i)) :
    attempt x s = (none, { interp := i, pending := some (.raised e) }) := by
  rw [attempt, hx]

theorem attempt_exhausted {x : Run α} {i : Interp} (hx : x s.interp = (.error .exhausted, i)) :
    attempt x s = (none, { s with interp := i }) := by
  rw [attempt, hx]

end PluginHost.Python.Session
