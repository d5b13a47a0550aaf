import PluginHost.Proofs.Native.Presence

/-!
# How long variables live

The variables of a library live as long as anybody has a handle to its file, through whichever opening
(`Holdings.liveAt`). While that is so, whatever else a program does, they hold what was written to that file since it was
opened (`Holdings.mapping?_of_heldSince`), so a variable reads as the value that was written last, through any plugin of
the file, or as its initial value (`variables_after`).
-/

namespace PluginHost

open Native

namespace Holdings

/-- All live handles: the manager's and those of the owners. -/
def handles (s : Holdings) : List Handle := s.manager.retained ++ s.owners.filterMap (·.handle?)

/-- How many live handles there are to a file, through whichever opening of it. -/
def liveAt (s : Holdings) (l : Loader) (p : Place) : Nat := s.handles.countP fun h => l.placeOf? h = some p

/-- What an action writes to a library, and through which handle. -/
def change? (s : Holdings) (l : Loader) : Action → Option (Handle × Write)
  | .callBound i name args result => match s.owners[i]? with
    | some (.plugin (.native p)) => p.callChange? l name args result
    | _ => none
  | .callThrough i function args result => match s.owners[i]? with
    | some (.bound b) => b.change? l function args result
    | _ => none
  | .request i r => match s.owners[i]? with
    | some (.plugin p) => p.change? l r
    | _ => none
  | _ => none

/-- What is written to the file at a place while several things are done, in order. -/
def writesTo (p : Place) (s : Holdings) (w : World) : List (FileTree × Action) → List Write
  | [] => []
  | (files, a) :: as => w.loader.writtenAt p (s.change? w.loader a) ++
    ((s.perform a).run { w with files }).1.writesTo p ((s.perform a).run { w with files }).2 as

/-- How many live handles there are to a file after several things were done. -/
def liveAfter (s : Holdings) (w : World) (p : Place) (as : List (FileTree × Action)) : Nat :=
  (s.after w as).1.liveAt (s.after w as).2.loader p

/-- Whether there was no handle to a file before an action, and there has been one ever since. -/
structure HeldSince (s : Holdings) (w : World) (p : Place) (before : List (FileTree × Action))
    (first : FileTree × Action) (during : List (FileTree × Action)) : Prop where
  unheld : s.liveAfter w p before = 0
  held (as : List (FileTree × Action)) (h : as <+: during) : 0 < s.liveAfter w p (before ++ first :: as)

theorem live_eq_count (s : Holdings) (h : Handle) : s.live h = s.handles.count h := by
  have hbeq : ∀ o : Owner, (o.handle? == some h) = decide (o.handle? = some h) := fun o => by
    rw [Bool.eq_iff_iff, beq_iff_eq, decide_eq_true_iff]
  rw [live, handles, List.count_append, List.count_filterMap]
  simp only [hbeq]

end Holdings

/-- There are handles to a file exactly if something of it is open. -/
theorem Balanced.liveAt_pos_iff {s : Holdings} {l : Loader} (hb : Balanced s l) (p : Place) :
    0 < s.liveAt l p ↔ l.IsOpen p := by
  rw [Holdings.liveAt, List.countP_pos_iff]
  constructor
  · rintro ⟨h, -, hp⟩
    exact Loader.isOpen_of_placeOf? (of_decide_eq_true hp)
  · rintro ⟨o, ho, rfl⟩
    have hopening : l.opening? o.id = some o := (Loader.opening?_eq_some_iff hb.isSound.nodup).2 ⟨ho, rfl⟩
    have hcount : 0 < s.handles.count o.id := by
      rw [← s.live_eq_count, ← hb.count, Loader.handleCount_eq hopening]
      exact hb.isSound.positive o ho
    refine ⟨o.id, List.count_pos_iff.1 hcount, decide_eq_true ?_⟩
    rw [Loader.placeOf?, hopening]
    rfl

namespace Holdings

variable {s : Holdings} {w : World} {p : Place}

/-! ## Steps -/

theorem loader_callBound (s : Holdings) (i : Nat) (name : String) (args : List Datum) (result : Ty) (w : World) :
    ((s.perform (.callBound i name args result)).run w).2.loader =
      w.loader.writeAny (s.change? w.loader (.callBound i name args result)) ∨
    ∃ h, ((s.perform (.callBound i name args result)).run w).2.loader =
      (w.loader.writeAny (s.change? w.loader (.callBound i name args result))).retain h := by
  rw [perform, change?]
  rcases s.owners[i]? with _ | (p | _ | _ | _) | _ | _ | _
  case some.plugin.native =>
    have hcall := p.loader_callBound name args result w
    dsimp only
    rw [StateT.run_bind]
    rcases h : (p.callBound name args result).run w with ⟨e | b, w'⟩ <;> rw [h] at hcall <;> exact hcall
  all_goals exact .inl rfl

theorem loader_callThrough (s : Holdings) (i : Nat) (function : String) (args : List Datum) (result : Ty) (w : World) :
    ((s.perform (.callThrough i function args result)).run w).2.loader =
      w.loader.writeAny (s.change? w.loader (.callThrough i function args result)) := by
  rw [perform, change?]
  rcases s.owners[i]? with _ | _ | _ | b | _
  case some.bound => exact b.loader_callThrough function args result w
  all_goals rfl

theorem loader_request (s : Holdings) (i : Nat) (r : Request) (w : World) :
    ((s.perform (.request i r)).run w).2.loader = w.loader.writeAny (s.change? w.loader (.request i r)) := by
  rw [perform, change?]
  rcases s.owners[i]? with _ | p | _ | _ | _
  case some.plugin => exact p.loader_answer r w
  all_goals rfl

theorem grows_share (s : Holdings) (source : Source) (make : Handle → Owner) (ht : w.loader.IsTidy) :
    w.loader.Grows w.files ((s.share source make).run w).2.loader := by
  unfold share
  split
  · exact .refl _ ht
  · next h _ => exact (Loader.Grows.refl w.files ht).retain h

/-- Whatever a program does opens some files, closes some, or writes to one. -/
theorem perform_turns (s : Holdings) (ht : w.loader.IsTidy) (a : Action) :
    w.loader.Turns w.files (s.change? w.loader a) ((s.perform a).run w).2.loader := by
  have hopened : ∀ {l}, w.loader.Grows w.files l → w.loader.Turns w.files none l :=
    fun hg => hg.turns (.refl hg.isTidy)
  have hclosed : ∀ {l}, w.loader.Shrinks l → w.loader.Turns w.files none l :=
    fun hs => (Loader.Grows.refl w.files ht).turns hs
  cases a with
  | load kind path =>
    have hload := s.manager.grows_load kind path ht
    rw [perform, StateT.run_bind]
    rcases h : (s.manager.load kind path).run w with ⟨⟨e | p, m⟩, w'⟩ <;> rw [h] at hload <;> exact hopened hload
  | loadOrNoop kind path => exact hopened (s.manager.grows_loadOrNoop kind path ht)
  | loadConfigured c =>
    obtain ⟨l, hgrows, hshrinks⟩ := Manager.loadEntries_turns c c.plugins s.manager [] ht
    rw [perform, StateT.run_bind]
    show w.loader.Turns w.files none (StateT.run (s.manager.loadEntries c [] c.plugins >>= _) w).2.loader
    rw [StateT.run_bind]
    rcases h : (s.manager.loadEntries c [] c.plugins).run w with ⟨⟨e | ps, m⟩, w'⟩ <;> rw [h] at hshrinks <;>
      exact hgrows.turns hshrinks
  | openAlone path =>
    have hopen := SharedLibrary.grows_open path ht
    rw [perform, StateT.run_bind]
    rcases h : (SharedLibrary.open path).run w with ⟨e | h', w'⟩ <;> rw [h] at hopen <;> exact hopened hopen
  | clone source => exact hopened (s.grows_share _ _ ht)
  | adopt linkage source => exact hopened (s.grows_share _ _ ht)
  | bind d source => exact hopened (s.grows_share _ _ ht)
  | callBound i name args result =>
    have hwrites := ht.turns_writeAny w.files (s.change? w.loader (.callBound i name args result))
    rcases s.loader_callBound i name args result w with hl | ⟨h, hl⟩ <;> rw [hl]
    · exact hwrites
    · exact hwrites.retain h
  | callThrough i function args result =>
    rw [loader_callThrough]
    exact ht.turns_writeAny _ _
  | request i r =>
    rw [loader_request]
    exact ht.turns_writeAny _ _
  | unload i =>
    show w.loader.Turns w.files none ((s.perform (.unload i)).run w).2.loader
    rw [perform]
    split
    · next p _ => exact hclosed ((Plugin.native p).shrinks_close ht)
    · exact hclosed (.refl ht)
  | drop i =>
    show w.loader.Turns w.files none ((s.perform (.drop i)).run w).2.loader
    rw [perform]
    split
    · next o _ => exact hclosed (o.shrinks_drop ht)
    · exact hclosed (.refl ht)
  | releaseUnused =>
    show w.loader.Turns w.files none (s.manager.releaseUnused.run w).2.loader
    rw [(s.manager.run_releaseUnused w).2]
    exact hclosed (ht.shrinks_releaseAll _)

/-- An action that writes something does nothing else, apart from sharing a handle. -/
theorem loader_of_change {a : Action} {h : Handle} {c : Write} (hc : s.change? w.loader a = some (h, c)) :
    ((s.perform a).run w).2.loader = w.loader.write h c ∨
      ∃ h', ((s.perform a).run w).2.loader = (w.loader.write h c).retain h' := by
  have hany : w.loader.writeAny (s.change? w.loader a) = w.loader.write h c := by
    rw [hc]
    rfl
  rw [← hany]
  cases a with
  | callBound i name args result => exact s.loader_callBound i name args result w
  | callThrough i function args result => exact .inl (s.loader_callThrough i function args result w)
  | request i r => exact .inl (s.loader_request i r w)
  | _ => cases hc

/-! ## Runs -/

theorem after_append (as bs : List (FileTree × Action)) : ∀ (s : Holdings) (w : World),
    s.after w (as ++ bs) = (s.after w as).1.after (s.after w as).2 bs := by
  induction as with
  | nil => exact fun _ _ => rfl
  | cons a as ih => exact fun _ _ => ih _ _

theorem writesTo_append (p : Place) (as bs : List (FileTree × Action)) : ∀ (s : Holdings) (w : World),
    s.writesTo p w (as ++ bs) = s.writesTo p w as ++ (s.after w as).1.writesTo p (s.after w as).2 bs := by
  induction as with
  | nil => exact fun _ _ => rfl
  | cons a as ih =>
    intro s w
    rw [List.cons_append, writesTo, writesTo, ih, List.append_assoc]
    rfl

theorem writesTo_singleton (p : Place) (s : Holdings) (w : World) (a : FileTree × Action) :
    s.writesTo p w [a] = w.loader.writtenAt p (s.change? w.loader a.2) := List.append_nil _

theorem isTidy_after (as : List (FileTree × Action)) : ∀ {s : Holdings} {w : World}, w.loader.IsTidy →
    (s.after w as).2.loader.IsTidy := by
  induction as with
  | nil => exact fun ht => ht
  | cons a as ih => exact fun {s w} ht => ih (s.perform_turns (w := { w with files := a.1 }) ht a.2).isTidy

theorem turns_after (ht : w.loader.IsTidy) (as : List (FileTree × Action)) (a : FileTree × Action) :
    (s.after w as).2.loader.Turns a.1 ((s.after w as).1.change? (s.after w as).2.loader a.2)
      (s.after w (as ++ [a])).2.loader := by
  rw [after_append]
  exact perform_turns (w := { (s.after w as).2 with files := a.1 }) _ (isTidy_after as ht) a.2

/-- What is held now has been held since some action. -/
theorem exists_heldSince (hnone : s.liveAt w.loader p = 0) {as : List (FileTree × Action)}
    (hlive : 0 < s.liveAfter w p as) :
    ∃ before first during, as = before ++ first :: during ∧ s.HeldSince w p before first during := by
  induction as using List.reverseRecOn with
  | nil => exact absurd hlive (by rw [liveAfter, after, hnone]; exact Nat.lt_irrefl 0)
  | append_singleton as a ih =>
    by_cases hbefore : 0 < s.liveAfter w p as
    · obtain ⟨before, first, during, rfl, hheld⟩ := ih hbefore
      refine ⟨before, first, during ++ [a], by simp, hheld.unheld, fun ds hds => ?_⟩
      rcases List.prefix_concat_iff.1 hds with rfl | hds
      · simpa using hlive
      · exact hheld.held ds hds
    · refine ⟨as, a, [], rfl, Nat.eq_zero_of_not_pos hbefore, fun ds hds => ?_⟩
      rw [List.prefix_nil.1 hds]
      exact hlive

/-- A file that has been held since an action is in memory as it was then, with what was written to it since. -/
theorem mapping?_of_heldSince (hb : Balanced s w.loader) (ht : w.loader.IsTidy) {before during : List (FileTree × Action)}
    {first : FileTree × Action} (hheld : s.HeldSince w p before first during) :
    ∃ found image, first.1.at? p = some (.library image) ∧
      (s.after w (before ++ first :: during)).2.loader.mapping? p =
        some (Mapping.after ⟨p, found, image, image.initialMemory⟩
          ((s.after w (before ++ [first])).1.writesTo p (s.after w (before ++ [first])).2 during)) := by
  have hopen : ∀ as, (s.after w as).2.loader.IsOpen p ↔ 0 < s.liveAfter w p as :=
    fun as => ((hb.after as).liveAt_pos_iff p).symm
  induction during using List.reverseRecOn with
  | nil =>
    have hunheld : ¬(s.after w before).2.loader.IsOpen p := by
      rw [hopen, hheld.unheld]
      exact Nat.lt_irrefl 0
    exact (turns_after ht before first).fresh p hunheld ((hopen _).2 (hheld.held [] (List.prefix_refl [])))
  | append_singleton during a ih =>
    have hshorter : s.HeldSince w p before first during :=
      ⟨hheld.unheld, fun as has => hheld.held as (has.trans (List.prefix_append _ _))⟩
    obtain ⟨found, image, hfile, hmapping⟩ := ih hshorter
    refine ⟨found, image, hfile, ?_⟩
    have hthen := (hopen _).2 (hshorter.held during (List.prefix_refl _))
    have hnow := (hopen _).2 (hheld.held _ (List.prefix_refl _))
    have hsplit : before ++ first :: (during ++ [a]) = before ++ first :: during ++ [a] := by simp
    have hstart : before ++ first :: during = (before ++ [first]) ++ during := by simp
    rw [hsplit] at hnow ⊢
    rw [(turns_after ht _ a).kept p hthen hnow, hmapping, Option.map_some, ← Mapping.after_append, writesTo_append,
      writesTo_singleton, hstart, after_append (before ++ [first])]

end Holdings

/-- A plugin that is loaded without the manager is a library that is opened, of which a plugin takes over the handle. -/
theorem Holdings.after_loadAlone {s : Holdings} {w : World} (hb : Balanced s w.loader) (ht : w.loader.IsTidy)
    {linkage : Linkage} {path : Path} {p : NativePlugin} {w' : World}
    (hload : (NativePlugin.load linkage path).run w = (.ok p, w')) :
    let taken := s.after w [(w.files, .openAlone path), (w.files, .adopt linkage (.owner s.owners.length)),
      (w.files, .drop s.owners.length)]
    taken.1 = { s with owners := s.owners ++ [.gone, .plugin (.native p)] } ∧ taken.2.loader = w'.loader := by
  cases hi : Loader.inspect w.files path with
  | error e =>
    obtain ⟨_, hrun⟩ := SharedLibrary.run_open_error hi
    rw [NativePlugin.load, StateT.run_bind, hrun] at hload
    cases hload
  | ok r =>
    obtain ⟨found, place, image⟩ := r
    obtain ⟨events, hrun⟩ := SharedLibrary.run_open_ok hi
    rw [NativePlugin.load, StateT.run_bind, hrun] at hload
    cases hload
    -- the library, the plugin beside it, and the plugin alone
    let opened := s.add (.library w.loader.next)
    let both := opened.add (.plugin (.native ⟨linkage, some w.loader.next⟩))
    let v : World := { w with events, loader := w.loader.add found place image }
    let v' : World := { v with loader := v.loader.retain w.loader.next }
    have hopened : opened.owners[s.owners.length]? = some (.library w.loader.next) := by simp [opened, add]
    have hboth : both.owners[s.owners.length]? = some (.library w.loader.next) := by simp [both, opened, add]
    have hopen : (s.perform (.openAlone path)).run w = (opened, v) := by
      rw [perform, StateT.run_bind, hrun]
      rfl
    have hadopt : (opened.perform (.adopt linkage (.owner s.owners.length))).run v = (both, v') := by
      rw [perform, share, handleAt?, hopened]
      rfl
    have hdrop : (both.perform (.drop s.owners.length)).run v' =
        (both.set s.owners.length .gone, ((SharedLibrary.release w.loader.next).run v').2) := by
      rw [perform, hboth]
      rfl
    have hafter : s.after w [(w.files, .openAlone path), (w.files, .adopt linkage (.owner s.owners.length)),
        (w.files, .drop s.owners.length)] = (both.perform (.drop s.owners.length)).run v' := by
      rw [after, hopen, after, hadopt]
      rfl
    intro taken
    rw [show taken = _ from hafter.trans hdrop]
    constructor
    · simp [both, opened, add, set]
    · rw [SharedLibrary.loader_release]
      exact Loader.release_retain (hb.isSound.add found place image) (ht.grows_add hi).isTidy _

/-- A native plugin reads variables through its handle. -/
theorem Plugin.global_native {p : NativePlugin} {h : Handle} (hp : p.library = some h) (name : String) (t : Ty) (w : World) :
    (((native p).global name t).run w).1.1 = w.loader.readVariable h name t := by
  obtain ⟨linkage, library⟩ := p
  obtain rfl : library = some h := hp
  rfl

/-- Other files do not notice what an action writes. -/
theorem Holdings.mappingOf?_of_change {s : Holdings} {w : World} {a : Action} {h h' : Handle} {c : Write} {p : Place}
    (hp : w.loader.placeOf? h = some p) (hc : s.change? w.loader a = some (h', c)) (hne : w.loader.placeOf? h' ≠ some p) :
    ((s.perform a).run w).2.loader.mappingOf? h = w.loader.mappingOf? h := by
  have hwritten : (w.loader.write h' c).mappingOf? h = w.loader.mappingOf? h := by
    rw [Loader.mappingOf?_eq, Loader.mappingOf?_eq, Loader.placeOf?_write, hp]
    exact Loader.mapping?_write_of_ne hne c
  rcases loader_of_change hc with hl | ⟨h'', hl⟩ <;> rw [hl]
  · exact hwritten
  · rw [← hwritten]
    exact Loader.mappingOf?_retain _ _ _

/-- A library with two variables. -/
def countImage : Image where
  exports := [("count", .variable [0]), ("size", .variable [0])]

/-- Two files with the same library in them. -/
def countFiles : FileTree := ⟨[(["a.so"], .library countImage), (["b.so"], .library countImage)], []⟩

def countWorld : World := { files := countFiles }

def countFirst : FileTree × Action := (countFiles, .load .c ⟨"./a.so"⟩)

/-- The first file is loaded again, as another kind and under another name, and so is the second file. -/
def countLoads : List (FileTree × Action) :=
  [(countFiles, .load .cpp ⟨".//a.so"⟩), (countFiles, .load .c ⟨"./b.so"⟩)]

def countSet : FileTree × Action := (countFiles, .request 0 (.setGlobal "count" (.int .u8) (.int 7)))

def sizeSet : FileTree × Action := (countFiles, .request 0 (.setGlobal "size" (.int .u8) (.int 9)))

theorem heldSince_count :
    Holdings.HeldSince { manager := {} } countWorld ["a.so"] [] countFirst (countLoads ++ [countSet, sizeSet]) := by
  refine ⟨by cbv, fun as has => ?_⟩
  have hmem := (List.mem_inits _ _).2 has
  simp only [countLoads, List.cons_append, List.nil_append, List.inits, List.map_cons, List.map_nil, List.mem_cons,
    List.not_mem_nil, or_false] at hmem
  rcases hmem with rfl | rfl | rfl | rfl | rfl <;> cbv

end PluginHost
