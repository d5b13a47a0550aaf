import PluginHost.Proofs.Native.Managing

/-!
# Who has handles

A program has a manager and, apart from that, plugins, bound values and handles of its own (`Holdings`), which it
gets, uses and drops in any order (`Action`). Each action changes the number of handles of an opening and what the
program has alike, so the two always agree (`Balanced`); the manager has one handle for each native plugin that was
loaded, until it gives that up.
-/

namespace PluginHost

open Native

/-! ## What a program has -/

/-- What may have a handle, apart from the manager. -/
inductive Owner
  | plugin (p : Plugin)
  | library (h : Handle)
  | bound (b : BoundValue)
  /-- What was dropped. -/
  | gone

namespace Owner

def handle? : Owner → Option Handle
  | plugin p => p.handle?
  | library h => some h
  | bound b => some b.library
  | gone => none

/-- Ends the life of an owner. -/
def drop : Owner → Host Unit
  | plugin p => p.close
  | library h => SharedLibrary.release h
  | bound b => SharedLibrary.release b.library
  | gone => return ()

theorem run_drop (o : Owner) (w : World) : (∃ h, o.handle? = some h ∧
      (o.drop.run w).2.loader = w.loader.release h) ∨
    o.handle? = none ∧ (o.drop.run w).2.loader = w.loader := by
  cases o with
  | plugin p => exact p.run_close w
  | library h => exact .inl ⟨h, rfl, SharedLibrary.loader_release w h⟩
  | bound b => exact .inl ⟨b.library, rfl, SharedLibrary.loader_release w b.library⟩
  | gone => exact .inr ⟨rfl, rfl⟩

end Owner

/-- What a program has, and what became of the libraries that its manager opened. -/
structure Holdings where
  manager : Manager
  owners : List Owner := []
  /-- The handles that native plugins had when the manager had loaded them, in order. -/
  loads : List Handle := []
  /-- The handles that the manager was to give up, since nobody shared them. -/
  released : List Handle := []

/-- What a plugin is asked for. -/
inductive Request
  | call (name : String) (args : List (Ty × Datum)) (result : Ty)
  | safeCall (name : String) (args : List (Ty × Datum)) (result : Ty)
  | global (name : String) (t : Ty)
  | setGlobal (name : String) (t : Ty) (d : Datum)

/-- Where a handle is: with an owner or with the manager. -/
inductive Source
  | owner (i : Nat)
  | retained (i : Nat)

/-- What a program does. Plugins and other owners are numbered in the order in which it got them. -/
inductive Action
  | load (kind : PluginKind) (path : Path)
  | loadOrNoop (kind : PluginKind) (path : Path)
  | loadConfigured (c : Manifest.Config)
  /-- Opens a library without the manager. -/
  | openAlone (path : Path)
  | clone (source : Source)
  /-- Makes a native plugin of a handle. -/
  | adopt (linkage : Linkage) (source : Source)
  | bind (d : Datum) (source : Source)
  | callBound (i : Nat) (name : String) (args : List Datum) (result : Ty)
  | callThrough (i : Nat) (function : String) (args : List Datum) (result : Ty)
  | request (i : Nat) (r : Request)
  | unload (i : Nat)
  | drop (i : Nat)
  | releaseUnused

/-- Asks a plugin for something. -/
def Plugin.answer (p : Plugin) : Request → Host Plugin
  | .call name args result => return (← p.call name args result).2
  | .safeCall name args result => return (← p.safeCall name args result).2
  | .global name t => return (← p.global name t).2
  | .setGlobal name t d => return (← p.setGlobal name t d).2

namespace Holdings

/-- How many handles of an opening are live: the manager's and those of the owners. -/
def live (s : Holdings) (h : Handle) : Nat := s.manager.retained.count h + s.owners.countP (·.handle? = some h)

/-- Whether anybody but the manager has a handle. -/
def isShared (s : Holdings) (h : Handle) : Bool := s.owners.any (·.handle? = some h)

def add (s : Holdings) (o : Owner) : Holdings := { s with owners := s.owners ++ [o] }

def set (s : Holdings) (i : Nat) (o : Owner) : Holdings := { s with owners := s.owners.set i o }

/-- A plugin that the manager has loaded. -/
def loaded (s : Holdings) (p : Plugin) (m : Manager) : Holdings :=
  { s with manager := m, owners := s.owners ++ [.plugin p], loads := s.loads ++ p.handle?.toList }

/-- Plugins that the manager has loaded as a manifest says. -/
def loadedAll (s : Holdings) (ps : List ConfiguredPlugin) (m : Manager) : Holdings :=
  { s with
    manager := m
    owners := s.owners ++ ps.map (.plugin ·.plugin)
    loads := s.loads ++ ps.filterMap (·.plugin.handle?) }

def handleAt? (s : Holdings) : Source → Option Handle
  | .owner i => s.owners[i]?.bind (·.handle?)
  | .retained i => s.manager.retained[i]?

/-- Shares a handle with a new owner. -/
def share (s : Holdings) (source : Source) (make : Handle → Owner) : Host Holdings :=
  match s.handleAt? source with
  | none => return s
  | some h => do
    SharedLibrary.retain h
    return s.add (make h)

/-- Does something. What needs a plugin or a value of some sort that is not there does nothing. -/
def perform (s : Holdings) : Action → Host Holdings
  | .load kind path => do
    match ← s.manager.load kind path with
    | (.ok p, m) => return s.loaded p m
    | (.error _, m) => return { s with manager := m }
  | .loadOrNoop kind path => do
    let (p, m) ← s.manager.loadOrNoop kind path
    return s.loaded p m
  | .loadConfigured c => do
    let before ← Host.loader
    match ← s.manager.loadConfigured c with
    | (.ok ps, m) => return s.loadedAll ps m
    -- the plugins that were loaded first are gone again, but the manager has kept their handles
    | (.error _, m) => do
      let after ← Host.loader
      return { s with manager := m, loads := s.loads ++ List.range' before.next (after.next - before.next) }
  | .openAlone path => do
    match ← SharedLibrary.open path with
    | .ok h => return s.add (.library h)
    | .error _ => return s
  | .clone source => s.share source .library
  | .adopt linkage source => s.share source fun h => .plugin (.native ⟨linkage, some h⟩)
  | .bind d source => s.share source fun h => .bound ⟨d, h⟩
  | .callBound i name args result => match s.owners[i]? with
    | some (.plugin (.native p)) => do
      match ← p.callBound name args result with
      | .ok b => return s.add (.bound b)
      | .error _ => return s
    | _ => return s
  | .callThrough i function args result => match s.owners[i]? with
    | some (.bound b) => do
      let _ ← b.callThrough function args result
      return s
    | _ => return s
  | .request i r => match s.owners[i]? with
    | some (.plugin p) => return s.set i (.plugin (← p.answer r))
    | _ => return s
  | .unload i => match s.owners[i]? with
    | some (.plugin (.native p)) => return s.set i (.plugin (.native (← p.unload)))
    | _ => return s
  | .drop i => match s.owners[i]? with
    | some o => do
      o.drop
      return s.set i .gone
    | none => return s
  | .releaseUnused => do
    let (_, m) ← s.manager.releaseUnused
    return { s with manager := m, released := s.released ++ s.manager.retained.filter fun h => !s.isShared h }

/-- What a program has, and the world, after it did several things. The files may change in between. -/
def after (s : Holdings) (w : World) : List (FileTree × Action) → Holdings × World
  | [] => (s, w)
  | (files, a) :: as => ((s.perform a).run { w with files }).1.after ((s.perform a).run { w with files }).2 as

theorem live_add (s : Holdings) (o : Owner) (h : Handle) :
    (s.add o).live h = s.live h + if o.handle? = some h then 1 else 0 := by
  rw [live, live, add, List.countP_append, List.countP_singleton, Nat.add_assoc]
  simp only [decide_eq_true_eq]

/-- One owner takes the place of another. -/
theorem live_set (s : Holdings) {i : Nat} {o : Owner} (hi : s.owners[i]? = some o) (o' : Owner) (h : Handle) :
    (s.set i o').live h + (if o.handle? = some h then 1 else 0) =
      s.live h + if o'.handle? = some h then 1 else 0 := by
  obtain ⟨hlt, hi⟩ := List.getElem?_eq_some_iff.1 hi
  have hcounted : (if o.handle? = some h then 1 else 0) ≤ s.owners.countP (·.handle? = some h) := by
    split
    · next ho => exact List.countP_pos_iff.2 ⟨o, List.mem_of_getElem hi, by simpa using ho⟩
    · exact Nat.zero_le _
  rw [live, live, set, List.countP_set hlt, hi]
  simp only [decide_eq_true_eq]
  omega

theorem live_loaded (s : Holdings) {p : Plugin} {n : Handle} (hp : p.handle? = some n) (h : Handle) :
    (s.loaded p { s.manager with retained := s.manager.retained ++ [n] }).live h =
      s.live h + (if n = h then 1 else 0) + if n = h then 1 else 0 := by
  have hplugin : (Owner.plugin p).handle? = some n := hp
  have hbeq : (n == h) = decide (n = h) := rfl
  rw [live, live, loaded, List.countP_append, List.countP_singleton, List.count_append, List.count_singleton, hplugin,
    hbeq]
  simp only [decide_eq_true_eq, Option.some.injEq]
  omega

theorem loadedAll_nil (s : Holdings) : s.loadedAll [] s.manager = s := by
  simp [loadedAll]

theorem loadedAll_cons (s : Holdings) (p : ConfiguredPlugin) (ps : List ConfiguredPlugin) (m m' : Manager) :
    (s.loaded p.plugin m).loadedAll ps m' = s.loadedAll (p :: ps) m' := by
  cases hp : p.plugin.handle? <;> simp [loadedAll, loaded, hp]

end Holdings

/-! ## The balance -/

/-- Whether the counts of handles are what a program has, and the manager has a handle for each native plugin that was
loaded and not given up. -/
structure Balanced (s : Holdings) (l : Loader) : Prop where
  isSound : l.IsSound
  count (h : Handle) : l.handleCount h = s.live h
  retained : s.manager.retained = s.loads.filter (· ∉ s.released)
  nodup : s.loads.Nodup
  loads_lt : ∀ h ∈ s.loads, h < l.next
  released_lt : ∀ h ∈ s.released, h < l.next

namespace Balanced

variable {s : Holdings} {l l' : Loader}

theorem same (hb : Balanced s l) (hl : l.SameOpenings l') : Balanced s l' where
  isSound := hl.isSound hb.isSound
  count h := (hl.handleCount h).trans (hb.count h)
  retained := hb.retained
  nodup := hb.nodup
  loads_lt := hl.next ▸ hb.loads_lt
  released_lt := hl.next ▸ hb.released_lt

theorem add_none (hb : Balanced s l) {o : Owner} (ho : o.handle? = none) : Balanced (s.add o) l where
  __ := hb
  count h := by
    rw [hb.count, s.live_add, ho]
    rfl

/-- Another owner shares a handle. -/
theorem share (hb : Balanced s l) {o : Owner} {h : Handle} (ho : o.handle? = some h) (hc : 0 < l.handleCount h) :
    Balanced (s.add o) (l.retain h) where
  __ := hb
  isSound := hb.isSound.retain h
  count h' := by
    rw [Loader.handleCount_retain hb.isSound hc, hb.count, s.live_add, ho]
    simp only [Option.some.injEq]

/-- A new opening belongs to a new owner. -/
theorem opened (hb : Balanced s l) {o : Owner} (ho : o.handle? = some l.next) (found : Path) (place : Place)
    (image : Image) : Balanced (s.add o) (l.add found place image) where
  __ := hb
  isSound := hb.isSound.add found place image
  count h := by
    rw [Loader.handleCount_add hb.isSound, hb.count, s.live_add, ho]
    simp only [Option.some.injEq]
  loads_lt h hmem := Nat.lt_succ_of_lt (hb.loads_lt h hmem)
  released_lt h hmem := Nat.lt_succ_of_lt (hb.released_lt h hmem)

theorem handleCount_next (hb : Balanced s l) : l.handleCount l.next = 0 := by
  by_contra hc
  exact absurd (hb.isSound.lt_of_handleCount (Nat.pos_of_ne_zero hc)) (Nat.lt_irrefl _)

theorem handleCount_opened (hb : Balanced s l) (found : Path) (place : Place) (image : Image) (h : Handle) :
    ((l.add found place image).retain l.next).handleCount h =
      l.handleCount h + (if l.next = h then 1 else 0) + if l.next = h then 1 else 0 := by
  have hone : (l.add found place image).handleCount l.next = 1 := by
    rw [Loader.handleCount_add hb.isSound, hb.handleCount_next, if_pos rfl]
  rw [Loader.handleCount_retain (hb.isSound.add found place image) (by omega), Loader.handleCount_add hb.isSound]

/-- What the manager loads is counted twice if it is native: the manager keeps a handle. -/
theorem loaded (hb : Balanced s l) {p : Plugin} {m : Manager} (hc : s.manager.LoadCourse l (.ok p) m l') :
    Balanced (s.loaded p m) l' := by
  rcases hc.of_ok with ⟨hp, rfl, found, place, image, rfl⟩ | ⟨hp, rfl, hl⟩
  · refine ⟨(hb.isSound.add found place image).retain _, fun h => ?_, ?_, ?_, ?_,
      fun h hmem => Nat.lt_succ_of_lt (hb.released_lt h hmem)⟩
    · rw [hb.handleCount_opened, hb.count, s.live_loaded hp]
    · have hkept : l.next ∉ s.released := fun hmem => absurd (hb.released_lt _ hmem) (Nat.lt_irrefl _)
      rw [Holdings.loaded, hp]
      show s.manager.retained ++ [l.next] = (s.loads ++ [l.next]).filter (· ∉ s.released)
      rw [List.filter_append, ← hb.retained]
      simp [hkept]
    · rw [Holdings.loaded, hp]
      refine List.nodup_append'.2 ⟨hb.nodup, List.nodup_singleton _, ?_⟩
      exact List.disjoint_singleton.2 fun hmem => absurd (hb.loads_lt _ hmem) (Nat.lt_irrefl _)
    · rw [Holdings.loaded, hp]
      intro h hmem
      rcases List.mem_append.1 hmem with hmem | hmem
      · exact Nat.lt_succ_of_lt (hb.loads_lt h hmem)
      · rw [List.mem_singleton.1 hmem]
        exact Nat.lt_succ_self _
  · have hloaded : s.loaded p s.manager = s.add (.plugin p) := by
      rw [Holdings.loaded, hp, Option.toList_none, List.append_nil]
      rfl
    rw [hloaded]
    exact (hb.same hl).add_none hp

/-- An owner in another state, with the same handle. -/
theorem set_same (hb : Balanced s l) {i : Nat} {o o' : Owner} (hi : s.owners[i]? = some o)
    (ho : o'.handle? = o.handle?) : Balanced (s.set i o') l where
  __ := hb
  count h := by
    have hlive := s.live_set hi o' h
    rw [hb.count]
    rw [ho] at hlive
    omega

/-- An owner gives up its handle. -/
theorem surrender (hb : Balanced s l) {i : Nat} {o o' : Owner} {h : Handle} (hi : s.owners[i]? = some o)
    (ho : o.handle? = some h) (ho' : o'.handle? = none) : Balanced (s.set i o') (l.release h) where
  __ := hb
  isSound := hb.isSound.release h
  count h' := by
    have hlive := s.live_set hi o' h'
    rw [Loader.handleCount_release hb.isSound, hb.count]
    simp only [ho, ho', Option.some.injEq, reduceCtorEq, if_false] at hlive
    omega

/-! ## Giving up -/

/-- A library of the manager is in use by others exactly if somebody else has a handle. -/
theorem one_lt_handleCount_iff (hb : Balanced s l) {h : Handle} (hr : h ∈ s.manager.retained) :
    1 < l.handleCount h ↔ s.isShared h := by
  have hnodup : s.manager.retained.Nodup := hb.retained ▸ hb.nodup.filter _
  have hshared : s.isShared h ↔ 0 < s.owners.countP (·.handle? = some h) := by
    rw [Holdings.isShared, List.any_eq_true, List.countP_pos_iff]
  rw [hb.count, Holdings.live, List.count_eq_one_of_mem hnodup hr, hshared]
  omega

theorem filter_retained (hb : Balanced s l) :
    (s.manager.retained.filter fun h => decide (1 < l.handleCount h)) = s.manager.retained.filter s.isShared := by
  refine List.filter_congr fun h hr => ?_
  rw [Bool.eq_iff_iff, decide_eq_true_iff]
  exact hb.one_lt_handleCount_iff hr

theorem unused_retained (hb : Balanced s l) :
    s.manager.unused l = s.manager.retained.filter fun h => !s.isShared h := by
  refine List.filter_congr fun h hr => congrArg Bool.not ?_
  rw [Bool.eq_iff_iff, decide_eq_true_iff]
  exact hb.one_lt_handleCount_iff hr

/-- What giving up the handles of unused libraries does. -/
theorem releaseUnused (hb : Balanced s l) (w : World) (hw : w.loader = l) :
    (s.manager.releaseUnused.run w).1 = ((s.manager.retained.filter fun h => !s.isShared h).length,
      { s.manager with retained := s.manager.retained.filter s.isShared }) ∧
    (s.manager.releaseUnused.run w).2.loader =
      (s.manager.retained.filter fun h => !s.isShared h).foldl (fun l h => l.release h) l := by
  obtain ⟨hresult, hloader⟩ := s.manager.run_releaseUnused w
  rw [hw] at hresult hloader
  rw [hb.filter_retained] at hresult
  rw [hb.unused_retained] at hresult hloader
  exact ⟨hresult, hloader⟩

/-- The balance without the handles that nobody shares. -/
theorem givenUp (hb : Balanced s l) : Balanced
    { s with
      manager := { s.manager with retained := s.manager.retained.filter s.isShared }
      released := s.released ++ s.manager.retained.filter fun h => !s.isShared h }
    ((s.manager.retained.filter fun h => !s.isShared h).foldl (fun l h => l.release h) l) := by
  obtain ⟨hsound, hnext, hcount, -⟩ := Loader.releaseAll hb.isSound (s.manager.retained.filter fun h => !s.isShared h)
  have hmem : ∀ h, h ∈ s.manager.retained ↔ h ∈ s.loads ∧ h ∉ s.released := by
    intro h
    rw [hb.retained, List.mem_filter, decide_eq_true_iff]
  refine ⟨hsound, fun h => ?_, ?_, hb.nodup, hnext ▸ hb.loads_lt, hnext ▸ fun h hh => ?_⟩
  · have hperm := (List.filter_append_perm s.isShared s.manager.retained).count_eq h
    rw [List.count_append] at hperm
    rw [hcount, hb.count, Holdings.live, Holdings.live]
    dsimp only
    omega
  · show s.manager.retained.filter s.isShared = s.loads.filter _
    conv_lhs => rw [hb.retained, List.filter_filter]
    refine List.filter_congr fun h hload => ?_
    rw [Bool.eq_iff_iff, Bool.and_eq_true, decide_eq_true_iff, decide_eq_true_iff]
    simp only [List.mem_append, List.mem_filter, hmem]
    cases s.isShared h <;> simp [hload]
  · rcases List.mem_append.1 hh with hh | hh
    · exact hb.released_lt h hh
    · exact hb.loads_lt h ((hmem h).1 (List.mem_of_mem_filter hh)).1

end Balanced

/-! ## Steps -/

namespace Plugin

/-- What a request writes. Only native plugins write to libraries. -/
def change? (p : Plugin) (l : Loader) : Request → Option (Handle × Write)
  | .call name args result | .safeCall name args result => match p with
    | native q => q.callChange? l name (args.map (·.2)) result
    | lua _ | python _ | noop => none
  | .setGlobal name t d => match p with
    | native q => q.setChange? l name t d
    | lua _ | python _ | noop => none
  | .global _ _ => none

theorem loader_answer (p : Plugin) (r : Request) (w : World) :
    ((p.answer r).run w).2.loader = w.loader.writeAny (p.change? w.loader r) := by
  cases p with
  | native q =>
    cases r with
    | call name args result => exact q.loader_call name _ result w
    | safeCall name args result => exact q.loader_safeCall name _ result w
    | global name t => exact q.loader_global name w t
    | setGlobal name t d => exact q.loader_setGlobal name w t d
  | lua q =>
    cases r with
    | call name args result => exact Host.Leaves.carries.callLua q name _ result w
    | safeCall name args result => exact Host.Leaves.carries.callLua q name _ result w
    | global name t => exact Host.Leaves.carries.globalLua q name t w
    | setGlobal name t d => exact Host.Leaves.carries.setGlobalLua q name d w
  | python q => cases r <;> rfl
  | noop => cases r <;> rfl

theorem sameOpenings_answer (p : Plugin) (r : Request) (w : World) :
    w.loader.SameOpenings ((p.answer r).run w).2.loader := by
  rw [loader_answer]
  exact w.loader.sameOpenings_writeAny _

theorem handle?_answer (p : Plugin) (r : Request) (w : World) : ((p.answer r).run w).1.handle? = p.handle? := by
  cases r <;> cases p <;> rfl

end Plugin

namespace Holdings

variable {s : Holdings}

theorem live_pos_of_handleAt? {source : Source} {h : Handle} (hs : s.handleAt? source = some h) : 0 < s.live h := by
  rw [live]
  cases source with
  | owner i =>
    obtain ⟨o, hi, ho⟩ := Option.bind_eq_some_iff.1 hs
    have hpos : 0 < s.owners.countP (·.handle? = some h) :=
      List.countP_pos_iff.2 ⟨o, List.mem_of_getElem? hi, by simpa using ho⟩
    omega
  | retained i =>
    have hpos : 0 < s.manager.retained.count h := List.count_pos_iff.2 (List.mem_of_getElem? hs)
    omega

end Holdings

namespace Balanced

variable {s : Holdings} {w : World}

theorem run_share (hb : Balanced s w.loader) (source : Source) {make : Handle → Owner}
    (hmake : ∀ h, (make h).handle? = some h) :
    Balanced ((s.share source make).run w).1 ((s.share source make).run w).2.loader := by
  unfold Holdings.share
  split
  · exact hb
  · next h hs =>
    refine hb.share (hmake h) ?_
    rw [hb.count]
    exact Holdings.live_pos_of_handleAt? hs

/-- An owner that is not there any more. -/
theorem without (hb : Balanced s w.loader) {o : Owner} {owners : List Owner} (ho : s.owners.Perm (o :: owners)) :
    Balanced { s with owners } (o.drop.run w).2.loader := by
  have hlive : ∀ h, s.live h = Holdings.live { s with owners } h + if o.handle? = some h then 1 else 0 := by
    intro h
    rw [Holdings.live, Holdings.live, ho.countP_eq, List.countP_cons, Nat.add_assoc]
    simp only [decide_eq_true_eq]
  rcases o.run_drop w with ⟨h, hh, hl⟩ | ⟨hh, hl⟩ <;> rw [hl]
  · exact { hb with
      isSound := hb.isSound.release h
      count := fun h' => by
        rw [Loader.handleCount_release hb.isSound, hb.count, hlive, hh]
        simp only [Option.some.injEq, Nat.add_sub_cancel] }
  · refine { hb with count := fun h' => ?_ }
    rw [hb.count, hlive, hh]
    rfl

/-- Plugins that were loaded last and are closed again. -/
theorem closeAll (ps : List ConfiguredPlugin) : ∀ {w : World},
    Balanced { s with owners := s.owners ++ ps.map (.plugin ·.plugin) } w.loader →
    Balanced s ((ConfiguredPlugin.closeAll ps).run w).2.loader := by
  induction ps with
  | nil =>
    intro w hb
    rw [List.map_nil, List.append_nil] at hb
    exact hb
  | cons p ps ih => exact fun {w} hb => ih (hb.without List.perm_middle)

theorem next_closeAll (ps : List ConfiguredPlugin) : ∀ w : World,
    ((ConfiguredPlugin.closeAll ps).run w).2.loader.next = w.loader.next := by
  induction ps with
  | nil => exact fun _ => rfl
  | cons p ps ih =>
    intro w
    refine (ih (p.plugin.close.run w).2).trans ?_
    rcases p.plugin.run_close w with ⟨h, -, hl⟩ | ⟨-, hl⟩ <;> rw [hl]
    exact Loader.next_release _ _

/-- Loading plugins one after another gives those behind the ones that were there, or closes them all at the first
failure. -/
theorem loadEntries (c : Manifest.Config) (es : List Manifest.Entry) : ∀ {s : Holdings} {w : World}
    (loaded : List ConfiguredPlugin), Balanced s w.loader → ∃ ps m w₁, ∃ n : Nat,
      Balanced (s.loadedAll ps m) w₁.loader ∧ w₁.loader.next = w.loader.next + n ∧
      ps.filterMap (·.plugin.handle?) = List.range' w.loader.next n ∧
      ((s.manager.loadEntries c loaded es).run w = ((.ok (loaded ++ ps), m), w₁) ∨ ∃ e,
        (s.manager.loadEntries c loaded es).run w =
          ((.error e, m), ((ConfiguredPlugin.closeAll (loaded ++ ps)).run w₁).2)) := by
  induction es with
  | nil =>
    intro s w loaded hb
    exact ⟨[], s.manager, w, 0, s.loadedAll_nil.symm ▸ hb, rfl, rfl, .inl (by rw [List.append_nil]; rfl)⟩
  | cons e es ih =>
    intro s w loaded hb
    have hentry := s.manager.loadEntry_course w c e
    rw [Manager.loadEntries, StateT.run_bind]
    rcases h : (s.manager.loadEntry c e).run w with ⟨⟨cause | p, m⟩, w'⟩ <;> rw [h] at hentry
    · obtain ⟨rfl, hl⟩ := hentry
      refine ⟨[], s.manager, w', 0, s.loadedAll_nil.symm ▸ hb.same hl, hl.next, rfl, .inr ⟨cause, ?_⟩⟩
      rw [List.append_nil]
      rfl
    · obtain ⟨ps, m', w₁, n, hps, hnext, hnew, hrun⟩ := ih (loaded ++ [p]) (hb.loaded hentry)
      rw [List.append_assoc] at hrun
      rw [Holdings.loadedAll_cons] at hps
      rcases hentry.of_ok with ⟨hp, -, found, place, image, hl⟩ | ⟨hp, -, hl⟩
      · refine ⟨p :: ps, m', w₁, n + 1, hps, ?_, ?_, hrun⟩
        · rw [hnext, hl]
          exact Nat.add_right_comm w.loader.next 1 n
        · simp only [List.filterMap_cons, hp]
          rw [hnew, hl, List.range'_succ]
          rfl
      · refine ⟨p :: ps, m', w₁, n, hps, hl.next ▸ hnext, ?_, hrun⟩
        simp only [List.filterMap_cons, hp]
        rw [hnew, hl.next]

theorem perform_load (hb : Balanced s w.loader) (kind : PluginKind) (path : Path) :
    Balanced ((s.perform (.load kind path)).run w).1 ((s.perform (.load kind path)).run w).2.loader := by
  have hload := s.manager.load_course w kind path
  rw [Holdings.perform, StateT.run_bind]
  rcases h : (s.manager.load kind path).run w with ⟨⟨e | p, m⟩, w'⟩ <;> rw [h] at hload
  · obtain ⟨rfl, hl⟩ := hload.of_error
    exact hb.same hl
  · exact hb.loaded hload

theorem perform_loadConfigured (hb : Balanced s w.loader) (c : Manifest.Config) :
    Balanced ((s.perform (.loadConfigured c)).run w).1 ((s.perform (.loadConfigured c)).run w).2.loader := by
  obtain ⟨ps, m, w₁, n, hps, hnext, hnew, hrun⟩ := hb.loadEntries c c.plugins []
  rw [List.nil_append] at hrun
  have hperform : (s.perform (.loadConfigured c)).run w =
      match (s.manager.loadEntries c [] c.plugins).run w with
      | ((.ok ps, m), w') => (s.loadedAll ps m, w')
      | ((.error _, m), w') => ({ s with
          manager := m
          loads := s.loads ++ List.range' w.loader.next (w'.loader.next - w.loader.next) }, w') := by
    rw [Holdings.perform, StateT.run_bind]
    show StateT.run (s.manager.loadEntries c [] c.plugins >>= _) w = _
    rw [StateT.run_bind]
    rcases (s.manager.loadEntries c [] c.plugins).run w with ⟨⟨e | qs, m⟩, w'⟩ <;> rfl
  rcases hrun with hrun | ⟨e, hrun⟩ <;> rw [hperform, hrun]
  · exact hps
  · dsimp only
    rw [next_closeAll, hnext, Nat.add_sub_cancel_left, ← hnew]
    exact closeAll ps hps

theorem perform_openAlone (hb : Balanced s w.loader) (path : Path) :
    Balanced ((s.perform (.openAlone path)).run w).1 ((s.perform (.openAlone path)).run w).2.loader := by
  rw [Holdings.perform, StateT.run_bind]
  rcases SharedLibrary.run_open w path with ⟨e, hr, hl⟩ | ⟨found, place, image, hr, hl⟩ <;>
    rcases h : (SharedLibrary.open path).run w with ⟨r, w'⟩ <;> rw [h] at hr hl <;> dsimp only at hr hl <;> subst hr
  · exact hl ▸ hb
  · show Balanced (s.add (.library w.loader.next)) w'.loader
    exact hl ▸ hb.opened rfl found place image

theorem perform_callBound (hb : Balanced s w.loader) (i : Nat) (name : String) (args : List Datum) (result : Ty) :
    Balanced ((s.perform (.callBound i name args result)).run w).1
      ((s.perform (.callBound i name args result)).run w).2.loader := by
  rw [Holdings.perform]
  split
  · next p hi =>
    rw [StateT.run_bind]
    rcases p.run_callBound w name args result with ⟨e, hr, hl⟩ | ⟨b, l, hr, hp, hsame, hl⟩ <;>
      rcases h : (p.callBound name args result).run w with ⟨r, w'⟩ <;> rw [h] at hr hl <;> dsimp only at hr hl <;>
      subst hr
    · exact hb.same hl
    · have hs : s.handleAt? (.owner i) = some b.library := by
        rw [Holdings.handleAt?, hi]
        exact hp
      show Balanced (s.add (.bound b)) w'.loader
      rw [hl]
      refine (hb.same hsame).share rfl ?_
      rw [hsame.handleCount, hb.count]
      exact Holdings.live_pos_of_handleAt? hs
  · exact hb

theorem perform_unload (hb : Balanced s w.loader) (i : Nat) :
    Balanced ((s.perform (.unload i)).run w).1 ((s.perform (.unload i)).run w).2.loader := by
  rw [Holdings.perform]
  split
  · next p hi =>
    obtain ⟨hr, hl⟩ := p.run_unload w
    show Balanced (s.set i (.plugin (.native (p.unload.run w).1))) (p.unload.run w).2.loader
    rw [hr, hl]
    cases hp : p.library with
    | none => exact hb.set_same hi hp.symm
    | some h => exact hb.surrender hi hp rfl
  · exact hb

theorem perform_drop (hb : Balanced s w.loader) (i : Nat) :
    Balanced ((s.perform (.drop i)).run w).1 ((s.perform (.drop i)).run w).2.loader := by
  rw [Holdings.perform]
  split
  · next o hi =>
    show Balanced (s.set i .gone) (o.drop.run w).2.loader
    rcases o.run_drop w with ⟨h, ho, hl⟩ | ⟨ho, hl⟩ <;> rw [hl]
    · exact hb.surrender hi ho rfl
    · exact hb.set_same hi ho.symm
  · exact hb

theorem perform_releaseUnused (hb : Balanced s w.loader) :
    Balanced ((s.perform .releaseUnused).run w).1 ((s.perform .releaseUnused).run w).2.loader := by
  obtain ⟨hr, hl⟩ := hb.releaseUnused w rfl
  show Balanced { s with
    manager := (s.manager.releaseUnused.run w).1.2
    released := s.released ++ s.manager.retained.filter fun h => !s.isShared h }
    (s.manager.releaseUnused.run w).2.loader
  rw [hr, hl]
  exact hb.givenUp

/-- Whatever a program does, the balance stays. -/
theorem perform (hb : Balanced s w.loader) (a : Action) :
    Balanced ((s.perform a).run w).1 ((s.perform a).run w).2.loader := by
  cases a with
  | load kind path => exact hb.perform_load kind path
  | loadOrNoop kind path => exact hb.loaded (s.manager.loadOrNoop_course w kind path)
  | loadConfigured c => exact hb.perform_loadConfigured c
  | openAlone path => exact hb.perform_openAlone path
  | clone source => exact hb.run_share source fun _ => rfl
  | adopt linkage source => exact hb.run_share source fun _ => rfl
  | bind d source => exact hb.run_share source fun _ => rfl
  | callBound i name args result => exact hb.perform_callBound i name args result
  | callThrough i function args result =>
    rw [Holdings.perform]
    split
    · next b hi => exact hb.same (b.sameOpenings_callThrough function args result w)
    · exact hb
  | request i r =>
    rw [Holdings.perform]
    split
    · next p hi => exact (hb.same (p.sameOpenings_answer r w)).set_same hi (p.handle?_answer r w)
    · exact hb
  | unload i => exact hb.perform_unload i
  | drop i => exact hb.perform_drop i
  | releaseUnused => exact hb.perform_releaseUnused

/-- Loading that fails leaves the handles as they are. A native plugin that is loaded has a new one, and so has the
manager. -/
theorem load_outcome (hb : Balanced s w.loader) (kind : PluginKind) (path : Path) :
    match (s.manager.load kind path).run w with
    | ((.error _, m), w') => m = s.manager ∧ ∀ h, w'.loader.handleCount h = w.loader.handleCount h
    | ((.ok p, m), w') => m.retained = s.manager.retained ++ p.handle?.toList ∧
      ∀ h, p.handle? = some h → w.loader.handleCount h = 0 ∧ w'.loader.handleCount h = 2 := by
  have hload := s.manager.load_course w kind path
  rcases h : (s.manager.load kind path).run w with ⟨⟨e | p, m⟩, w'⟩ <;> rw [h] at hload <;> dsimp only at hload ⊢
  · obtain ⟨rfl, hl⟩ := hload.of_error
    exact ⟨rfl, hl.handleCount⟩
  · rcases hload.of_ok with ⟨hp, rfl, found, place, image, hl⟩ | ⟨hp, rfl, -⟩ <;> rw [hp]
    · refine ⟨rfl, ?_⟩
      rintro _ ⟨⟩
      rw [hl, hb.handleCount_opened, hb.handleCount_next, if_pos rfl]
      exact ⟨rfl, rfl⟩
    · exact ⟨(List.append_nil _).symm, nofun⟩

/-- Giving up the unused handles ends the openings that nobody shares, leaves all others as they are, and counts them.
-/
theorem releaseUnused_outcome (hb : Balanced s w.loader) : ∃ w',
    s.manager.releaseUnused.run w = (((s.manager.retained.filter fun h => !s.isShared h).length,
      { s.manager with retained := s.manager.retained.filter s.isShared }), w') ∧
    ∀ h, w'.loader.opening? h =
      if h ∈ s.manager.retained ∧ s.isShared h = false then none else w.loader.opening? h := by
  obtain ⟨hr, hl⟩ := hb.releaseUnused w rfl
  obtain ⟨hsound, -, hcount, hopening⟩ :=
    Loader.releaseAll hb.isSound (s.manager.retained.filter fun h => !s.isShared h)
  have hmem : ∀ h, (h ∈ s.manager.retained.filter fun h => !s.isShared h) ↔
      h ∈ s.manager.retained ∧ s.isShared h = false := by simp
  refine ⟨_, Prod.ext hr rfl, fun h => ?_⟩
  rw [hl]
  split
  · next hh =>
    have hone : ¬1 < w.loader.handleCount h := by rw [hb.one_lt_handleCount_iff hh.1, hh.2]; nofun
    have hgone := List.count_pos_iff.2 ((hmem h).2 hh)
    exact Loader.opening?_eq_none hsound (by rw [hcount]; omega)
  · next hh => exact hopening h (mt (hmem h).1 hh)

/-- The balance holds after everything that a program did. -/
theorem after (as : List (FileTree × Action)) : ∀ {s : Holdings} {w : World}, Balanced s w.loader →
    Balanced (s.after w as).1 (s.after w as).2.loader := by
  induction as with
  | nil => exact fun hb => hb
  | cons a as ih => exact fun {_ w} hb => ih (perform (w := { w with files := a.1 }) hb a.2)

/-- A program that has nothing yet. -/
theorem start (m : Manager) : Balanced { manager := { m with retained := [] } } {} where
  isSound := Loader.isSound_default
  count _ := rfl
  retained := rfl
  nodup := List.nodup_nil
  loads_lt := nofun
  released_lt := nofun

end Balanced

/-- The handles that a program has, whatever it did since it had none: an opening counts as many as are live, and
while there are any its file is in memory. The manager has one for each native plugin that it loaded and did not give
up, in order, and loading that fails changes nothing. Giving up the unused ones ends the openings that nobody else has
a handle to, keeps the others as they are, and says how many those were. -/
theorem handles_after (m : Manager) (w : World) (as : List (FileTree × Action)) :
    let s := (Holdings.after { manager := { m with retained := [] } } { w with loader := {} } as).1
    let w' := (Holdings.after { manager := { m with retained := [] } } { w with loader := {} } as).2
    (∀ h, w'.loader.handleCount h = s.live h ∧ (0 < s.live h → ∃ file, w'.loader.mappingOf? h = some file)) ∧
    s.manager.retained = s.loads.filter (· ∉ s.released) ∧ s.loads.Nodup ∧
    (∀ kind path files, match (s.manager.load kind path).run { w' with files } with
      | ((.error _, m'), w'') => m' = s.manager ∧ ∀ h, w''.loader.handleCount h = w'.loader.handleCount h
      | ((.ok p, m'), w'') => m'.retained = s.manager.retained ++ p.handle?.toList ∧
        ∀ h, p.handle? = some h → w'.loader.handleCount h = 0 ∧ w''.loader.handleCount h = 2) ∧
    ∃ w'', s.manager.releaseUnused.run w' = (((s.manager.retained.filter fun h => !s.isShared h).length,
        { s.manager with retained := s.manager.retained.filter s.isShared }), w'') ∧
      ∀ h, w''.loader.opening? h =
        if h ∈ s.manager.retained ∧ s.isShared h = false then none else w'.loader.opening? h := by
  intro s w'
  have hb : Balanced s w'.loader := (Balanced.start m).after (w := { w with loader := {} }) as
  refine ⟨fun h => ⟨hb.count h, fun hlive => ?_⟩, hb.retained, hb.nodup, fun kind path files => ?_, ?_⟩
  · exact hb.isSound.exists_mapping (hb.count h ▸ hlive)
  · exact hb.load_outcome (w := { w' with files }) kind path
  · exact hb.releaseUnused_outcome

end PluginHost
