import PluginHost.Proofs.Manifest.Validating
import PluginHost.Proofs.Missing
import PluginHost.Proofs.Native.Holdings

/-!
# Loading what a manifest names

The entries of a manifest are loaded in order. Each gives a plugin, or nothing in its place if it is optional
(`Manager.StandsFor`); the first other entry that fails ends the loading (`Manager.fatal?`). `loadConfigured_outcome` says
what the host has then: the plugins in the order of the manifest, or the failure, with a handle to each library that was
opened before it and no plugin to share that.
-/

namespace PluginHost

open Native

/-! ## Entries -/

namespace Manager

variable (m : Manager) (files : FileTree) (c : Manifest.Config)

/-- Why the file of an entry cannot be loaded, if it cannot. -/
def entryFailure? (e : Manifest.Entry) : Option LoadError := m.failure? files e.kind (entryPath c e)

/-- The failure of an entry that is not optional. -/
def fatal? (e : Manifest.Entry) : Option LoadError := if e.optional then none else m.entryFailure? files c e

/-- Whether an entry gives a plugin with a library. -/
def opens (e : Manifest.Entry) : Bool := e.kind.isNative && (m.entryFailure? files c e).isNone

/-- Whether a plugin is what an entry gives. -/
structure StandsFor (p : ConfiguredPlugin) (e : Manifest.Entry) : Prop where
  name : p.name = e.name
  crashGuard : p.crashGuard = e.crashGuard
  kind : p.plugin.kind = if e.optional ∧ (m.entryFailure? files c e).isSome then .noop else e.kind
  handle : p.plugin.handle?.isSome = m.opens files c e

/-- Whether something is an opening, with some handles, of the library that an entry names. -/
structure OpenedFor (handles : Nat) (o : Opening) (e : Manifest.Entry) : Prop where
  found : ∃ image, Loader.inspect files (entryPath c e) = .ok (o.path, o.place, image)
  handles : o.handles = handles

variable {m files c} {w : World}

theorem entryFailure?_retained (retained : List Handle) (e : Manifest.Entry) :
    ({ m with retained } : Manager).entryFailure? files c e = m.entryFailure? files c e :=
  failure?_retained retained files e.kind _

theorem fatal?_retained (retained : List Handle) (e : Manifest.Entry) :
    ({ m with retained } : Manager).fatal? files c e = m.fatal? files c e := by
  rw [fatal?, fatal?, entryFailure?_retained]

theorem opens_retained (retained : List Handle) :
    ({ m with retained } : Manager).opens files c = m.opens files c := by
  funext e
  rw [opens, opens, entryFailure?_retained]

theorem StandsFor.of_retained {retained : List Handle} {p : ConfiguredPlugin} {e : Manifest.Entry}
    (h : ({ m with retained } : Manager).StandsFor files c p e) : m.StandsFor files c p e where
  name := h.name
  crashGuard := h.crashGuard
  kind := by rw [h.kind, entryFailure?_retained]
  handle := by rw [h.handle, opens_retained]

/-- How loading an entry goes. -/
inductive EntryCourse (m : Manager) (w : World) (c : Manifest.Config) (e : Manifest.Entry) :
    Except Error ConfiguredPlugin → Manager → World → Prop
  | failed {cause : LoadError} {w' : World} (hfatal : m.fatal? w.files c e = some cause) (hfiles : w'.files = w.files)
      (hl : w.loader.SameOpenings w'.loader) :
    EntryCourse m w c e (.error (.load (entryPath c e) cause)) m w'
  | native {p : ConfiguredPlugin} {found : Path} {place : Place} {image : Image} {w' : World}
      (hfatal : m.fatal? w.files c e = none) (hp : m.StandsFor w.files c p e) (hopens : m.opens w.files c e)
      (hhandle : p.plugin.handle? = some w.loader.next)
      (hi : Loader.inspect w.files (entryPath c e) = .ok (found, place, image)) (hfiles : w'.files = w.files)
      (hl : w'.loader = (w.loader.add found place image).retain w.loader.next) :
    EntryCourse m w c e (.ok p) { m with retained := m.retained ++ [w.loader.next] } w'
  | other {p : ConfiguredPlugin} {w' : World} (hfatal : m.fatal? w.files c e = none) (hp : m.StandsFor w.files c p e)
      (hopens : m.opens w.files c e = false) (hhandle : p.plugin.handle? = none) (hfiles : w'.files = w.files)
      (hl : w.loader.SameOpenings w'.loader) :
    EntryCourse m w c e (.ok p) m w'

theorem entry_course (m : Manager) (w : World) (c : Manifest.Config) (e : Manifest.Entry) :
    m.EntryCourse w c e ((m.loadEntry c e).run w).1.1 ((m.loadEntry c e).run w).1.2 ((m.loadEntry c e).run w).2 := by
  have hloads := m.loads w e.kind (entryPath c e)
  unfold loadEntry
  rw [StateT.run_bind]
  rcases h : (m.load e.kind (entryPath c e)).run w with ⟨⟨r, m'⟩, w'⟩
  rw [h] at hloads
  dsimp only at hloads
  cases hloads with
  | @failed cause _ he hfiles hl =>
    have hfailure : m.entryFailure? w.files c e = some cause := he
    by_cases ho : e.optional
    · simp only [ho, if_true]
      have hfatal : m.fatal? w.files c e = none := by rw [fatal?, if_pos ho]
      have hopens : m.opens w.files c e = false := by rw [opens, hfailure, Option.isNone_some, Bool.and_false]
      refine .other hfatal ⟨rfl, rfl, ?_, ?_⟩ hopens rfl hfiles hl
      · rw [hfailure, if_pos ⟨ho, rfl⟩]
        rfl
      · rw [hopens]
        rfl
    · simp only [ho]
      exact .failed (by rw [fatal?, if_neg ho, hfailure]) hfiles hl
  | @native p found place image _ hnone hkind hp hhandle hi hfiles hl =>
    have hfailure : m.entryFailure? w.files c e = none := hnone
    have hfatal : m.fatal? w.files c e = none := by rw [fatal?, hfailure, ite_self]
    have hopens : m.opens w.files c e := by rw [opens, hfailure, hkind]; rfl
    refine .native hfatal ⟨rfl, rfl, ?_, ?_⟩ hopens hhandle hi hfiles hl
    · rw [hfailure, if_neg (fun h => nomatch h.2)]
      exact hp
    · rw [hopens]
      exact congrArg Option.isSome hhandle
  | @other p _ hnone hkind hp hhandle hfiles hl =>
    have hfailure : m.entryFailure? w.files c e = none := hnone
    have hfatal : m.fatal? w.files c e = none := by rw [fatal?, hfailure, ite_self]
    have hopens : m.opens w.files c e = false := by rw [opens, hkind, Bool.false_and]
    refine .other hfatal ⟨rfl, rfl, ?_, ?_⟩ hopens hhandle hfiles hl
    · rw [hfailure, if_neg (fun h => nomatch h.2)]
      exact hp
    · rw [hopens]
      exact congrArg Option.isSome hhandle

end Manager

/-! ## Openings in a row -/

namespace Native.Loader

variable {l : Loader}

theorem id_ne_of_append (hs : l.IsSound) {before after : List Opening} {o : Opening}
    (hl : l.openings = before ++ o :: after) {o' : Opening} (ho' : o' ∈ before ∨ o' ∈ after) : o'.id ≠ o.id := by
  have hnodup := hs.nodup
  rw [hl, List.map_append, List.map_cons, List.nodup_middle, List.nodup_cons, List.mem_append] at hnodup
  intro heq
  rw [← heq] at hnodup
  exact hnodup.1 (ho'.imp List.mem_map_of_mem List.mem_map_of_mem)

/-- Changing the handles of one opening. -/
theorem openings_countHandles (hs : l.IsSound) {before after : List Opening} {o : Opening}
    (hl : l.openings = before ++ o :: after) (change : Nat → Nat) :
    (l.countHandles o.id change).openings = before ++ { o with handles := change o.handles } :: after := by
  have hother : ∀ o' : Opening, (o' ∈ before ∨ o' ∈ after) →
      (if o'.id = o.id then { o' with handles := change o'.handles } else o') = o' :=
    fun o' ho' => if_neg (id_ne_of_append hs hl ho')
  rw [countHandles]
  dsimp only
  rw [hl, List.map_append, List.map_cons, if_pos rfl, List.map_congr_left fun o' ho' => hother o' (.inl ho'),
    List.map_congr_left fun o' ho' => hother o' (.inr ho'), List.map_id', List.map_id']

/-- A handle less to an opening that has more. -/
theorem openings_release (hs : l.IsSound) {before after : List Opening} {o : Opening}
    (hl : l.openings = before ++ o :: after) (ho : 1 < o.handles) :
    (l.release o.id).openings = before ++ { o with handles := o.handles - 1 } :: after := by
  have hpositive : ∀ o' : Opening, (o' ∈ before ∨ o' ∈ after) → 0 < o'.handles := by
    intro o' ho'
    refine hs.positive o' ?_
    rw [hl, List.mem_append, List.mem_cons]
    exact ho'.imp id .inr
  rw [release, sweep]
  dsimp only
  rw [openings_countHandles hs hl, List.filter_eq_self]
  intro o' ho'
  rw [decide_eq_true_iff]
  rcases List.mem_append.1 ho' with ho' | ho'
  · exact hpositive o' (.inl ho')
  · rcases List.mem_cons.1 ho' with rfl | ho'
    · exact Nat.sub_pos_of_lt ho
    · exact hpositive o' (.inr ho')

/-- A new opening with another handle to it. -/
theorem openings_retain_add (hs : l.IsSound) (found : Path) (place : Place) (image : Image) :
    ((l.add found place image).retain l.next).openings = l.openings ++ [⟨l.next, found, place, 2⟩] :=
  have hlast : (l.add found place image).openings = l.openings ++ ⟨l.next, found, place, 1⟩ :: [] := rfl
  openings_countHandles (hs.add found place image) hlast (· + 1)

/-- What was opened before is not disturbed by what was opened since. -/
theorem opening?_append {l' : Loader} {news : List Opening} (hl : l'.openings = l.openings ++ news) {h : Handle}
    (hh : (l.opening? h).isSome) : l'.opening? h = l.opening? h := by
  obtain ⟨o, ho⟩ := Option.isSome_iff_exists.1 hh
  rw [opening?, hl, List.find?_append]
  exact (congrArg (Option.or · _) ho).trans ho.symm

/-- What is new had no opening before. -/
theorem opening?_of_new {l' : Loader} {news : List Opening} (hs : l'.IsSound) (hl : l'.openings = l.openings ++ news)
    {h : Handle} (hh : h ∈ news.map (·.id)) : l.opening? h = none := by
  have hnodup := hs.nodup
  rw [hl, List.map_append, List.nodup_append'] at hnodup
  refine List.find?_eq_none.2 fun o ho heq => ?_
  have hid : o.id = h := by simpa using heq
  exact hnodup.2.2 (List.mem_map_of_mem ho) (hid ▸ hh)

theorem opening?_of_old {l' : Loader} {news : List Opening} (hl : l'.openings = l.openings ++ news) {h : Handle}
    (hh : h ∉ news.map (·.id)) : l'.opening? h = l.opening? h := by
  have hnone : news.find? (·.id = h) = none := List.find?_eq_none.2 fun o ho heq => by
    have hid : o.id = h := by simpa using heq
    exact hh (hid ▸ List.mem_map_of_mem ho)
  rw [opening?, hl, List.find?_append, hnone, Option.or_none]
  rfl

theorem isSome_of_handleCount {h : Handle} (hc : 0 < l.handleCount h) : (l.opening? h).isSome := by
  rw [Option.isSome_iff_ne_none]
  intro hnone
  rw [handleCount_eq_zero hnone] at hc
  exact absurd hc (Nat.lt_irrefl 0)

end Native.Loader

/-! ## Entries one after another -/

namespace Manager

variable {m : Manager} {c : Manifest.Config}

/-- What loading entries gives, if none of them ends it. -/
structure Gained (m : Manager) (files : FileTree) (c : Manifest.Config) (es : List Manifest.Entry)
    (ps : List ConfiguredPlugin) (news : List Opening) : Prop where
  stands : List.Forall₂ (m.StandsFor files c) ps es
  opened : List.Forall₂ (OpenedFor files c 2) news (es.filter (m.opens files c))
  handles : ps.filterMap (·.plugin.handle?) = news.map (·.id)

theorem Gained.nil {files : FileTree} : m.Gained files c [] [] [] := ⟨.nil, .nil, rfl⟩

theorem Gained.of_retained {retained : List Handle} {files : FileTree} {es : List Manifest.Entry}
    {ps : List ConfiguredPlugin} {news : List Opening} (h : ({ m with retained } : Manager).Gained files c es ps news) :
    m.Gained files c es ps news where
  stands := h.stands.imp fun _ _ hp => hp.of_retained
  opened := opens_retained (m := m) retained ▸ h.opened
  handles := h.handles

/-- Entries of which none ends the loading give their plugins, and the manager a handle to each library. -/
theorem loadEntries_ok {es : List Manifest.Entry} : ∀ {m : Manager} {w : World} (loaded : List ConfiguredPlugin),
    w.loader.IsSound → (∀ e ∈ es, m.fatal? w.files c e = none) → ∃ ps news w',
      (m.loadEntries c loaded es).run w =
        ((.ok (loaded ++ ps), { m with retained := m.retained ++ news.map (·.id) }), w') ∧
      m.Gained w.files c es ps news ∧ w'.files = w.files ∧ w'.loader.IsSound ∧
      w'.loader.openings = w.loader.openings ++ news := by
  induction es with
  | nil =>
    intro m w loaded hs _
    refine ⟨[], [], w, ?_, .nil, rfl, hs, (List.append_nil _).symm⟩
    rw [List.append_nil, List.map_nil, List.append_nil]
    rfl
  | cons e es ih =>
    intro m w loaded hs hes
    have hcourse := m.entry_course w c e
    have he := hes e List.mem_cons_self
    have hrest := fun e' he' => hes e' (List.mem_cons_of_mem e he')
    rw [loadEntries, StateT.run_bind]
    rcases hentry : (m.loadEntry c e).run w with ⟨⟨r, m'⟩, w'⟩
    rw [hentry] at hcourse
    dsimp only at hcourse
    cases hcourse with
    | failed hfatal =>
      rw [he] at hfatal
      cases hfatal
    | @native p found place image _ _ hp hopens hhandle hi hfiles hl =>
      have hs' : w'.loader.IsSound := hl ▸ (hs.add found place image).retain _
      obtain ⟨ps, news, w₁, hrun, hgained, hfiles₁, hs₁, hl₁⟩ := ih (loaded ++ [p]) hs'
        (m := { m with retained := m.retained ++ [w.loader.next] }) fun e' he' => by
          rw [hfiles, fatal?_retained]
          exact hrest e' he'
      have hgained := hfiles ▸ hgained.of_retained
      refine ⟨p :: ps, ⟨w.loader.next, found, place, 2⟩ :: news, w₁, ?_, ⟨?_, ?_, ?_⟩, hfiles₁.trans hfiles, hs₁, ?_⟩
      · rw [List.append_assoc] at hrun
        rw [List.append_assoc] at hrun
        exact hrun
      · exact .cons hp hgained.stands
      · rw [List.filter_cons_of_pos hopens]
        exact .cons ⟨⟨image, hi⟩, rfl⟩ hgained.opened
      · rw [List.filterMap_cons, hhandle, hgained.handles]
        rfl
      · rw [hl₁, hl, Loader.openings_retain_add hs, List.append_assoc]
        rfl
    | @other p _ _ hp hopens hhandle hfiles hl =>
      obtain ⟨ps, news, w₁, hrun, hgained, hfiles₁, hs₁, hl₁⟩ := ih (loaded ++ [p]) (hl.isSound hs)
        (m := m) fun e' he' => hfiles ▸ hrest e' he'
      rw [hfiles] at hgained
      refine ⟨p :: ps, news, w₁, ?_, ⟨?_, ?_, ?_⟩, hfiles₁.trans hfiles, hs₁, ?_⟩
      · rw [List.append_assoc] at hrun
        exact hrun
      · exact .cons hp hgained.stands
      · rw [List.filter_cons_of_neg (by rw [hopens]; exact Bool.false_ne_true)]
        exact hgained.opened
      · rw [List.filterMap_cons, hhandle, hgained.handles]
      · rw [hl₁, hl.openings]

/-- If no entry ends the loading, each gives its plugin. -/
theorem standsFor_of_loadEntries {es : List Manifest.Entry} : ∀ {m m' : Manager} {w w' : World}
    {loaded ps : List ConfiguredPlugin}, (m.loadEntries c loaded es).run w = ((.ok ps, m'), w') →
      ∃ news, ps = loaded ++ news ∧ List.Forall₂ (m.StandsFor w.files c) news es := by
  induction es with
  | nil =>
    intro m m' w w' loaded ps h
    cases h
    exact ⟨[], (List.append_nil _).symm, .nil⟩
  | cons e es ih =>
    intro m m' w w' loaded ps h
    have hcourse := m.entry_course w c e
    rw [loadEntries, StateT.run_bind] at h
    rcases hentry : (m.loadEntry c e).run w with ⟨⟨r, m₁⟩, w₁⟩
    rw [hentry] at hcourse h
    dsimp only at hcourse
    cases hcourse with
    | failed => cases h
    | @native p _ _ _ _ _ hp _ _ _ hfiles _ =>
      obtain ⟨news, rfl, hnews⟩ := ih h
      refine ⟨p :: news, by rw [List.append_assoc]; rfl, .cons hp ?_⟩
      exact hnews.imp fun _ _ hstands => hfiles ▸ hstands.of_retained
    | @other p _ _ hp _ _ hfiles _ =>
      obtain ⟨news, rfl, hnews⟩ := ih h
      refine ⟨p :: news, by rw [List.append_assoc]; rfl, .cons hp ?_⟩
      exact hnews.imp fun _ _ hstands => hfiles ▸ hstands

theorem standsFor_of_loadConfigured {m m' : Manager} {w w' : World} {ps : List ConfiguredPlugin}
    (h : (m.loadConfigured c).run w = ((.ok ps, m'), w')) : List.Forall₂ (m.StandsFor w.files c) ps c.plugins := by
  obtain ⟨news, hps, hnews⟩ := standsFor_of_loadEntries h
  rw [hps]
  exact hnews

/-- Behind entries of which none ends the loading, it goes on with the others. -/
theorem loadEntries_append {before : List Manifest.Entry} (after : List Manifest.Entry) : ∀ {m m' : Manager} {w w' : World}
    {loaded ps : List ConfiguredPlugin}, (m.loadEntries c loaded before).run w = ((.ok ps, m'), w') →
      (m.loadEntries c loaded (before ++ after)).run w = (m'.loadEntries c ps after).run w' := by
  induction before with
  | nil =>
    intro m m' w w' loaded ps h
    cases h
    rfl
  | cons e before ih =>
    intro m m' w w' loaded ps h
    rw [loadEntries, StateT.run_bind] at h
    rw [List.cons_append, loadEntries, StateT.run_bind]
    rcases hentry : (m.loadEntry c e).run w with ⟨⟨cause | p, m₁⟩, w₁⟩ <;> rw [hentry] at h
    · cases h
    · exact ih h

end Manager

/-! ## Giving up -/

/-- Plugins that end give up their handles; the manager still has one to each library. -/
theorem ConfiguredPlugin.openings_closeAll (ps : List ConfiguredPlugin) : ∀ {w : World} {old news : List Opening},
    w.loader.IsSound → w.loader.openings = old ++ news → ps.filterMap (·.plugin.handle?) = news.map (·.id) →
    (∀ o ∈ news, o.handles = 2) → ((closeAll ps).run w).2.loader.IsSound ∧
      ((closeAll ps).run w).2.loader.openings = old ++ news.map fun o => { o with handles := 1 } := by
  induction ps with
  | nil =>
    intro w old news hs hl hhandles _
    obtain rfl := List.map_eq_nil_iff.1 hhandles.symm
    exact ⟨hs, hl⟩
  | cons p ps ih =>
    intro w old news hs hl hhandles htwo
    rcases p.plugin.run_close w with ⟨h, hh, hclose⟩ | ⟨hh, hclose⟩ <;> rw [List.filterMap_cons, hh] at hhandles
    · obtain ⟨o, news, rfl, rfl, hrest⟩ := List.map_eq_cons_iff.1 hhandles.symm
      have hrest := hrest.symm
      have ho : o.handles = 2 := htwo o List.mem_cons_self
      have hreleased := Loader.openings_release hs hl (by rw [ho]; exact Nat.one_lt_two)
      rw [ho, ← hclose] at hreleased
      have hs' : (p.plugin.close.run w).2.loader.IsSound := hclose ▸ hs.release o.id
      have hrow : (p.plugin.close.run w).2.loader.openings = (old ++ [{ o with handles := 1 }]) ++ news := by
        rw [hreleased, List.append_assoc]
        rfl
      obtain ⟨hsound, hlast⟩ := ih hs' hrow hrest fun o' ho' => htwo o' (List.mem_cons_of_mem _ ho')
      refine ⟨hsound, hlast.trans ?_⟩
      rw [List.append_assoc]
      rfl
    · have hs' : (p.plugin.close.run w).2.loader.IsSound := hclose ▸ hs
      have hrow : (p.plugin.close.run w).2.loader.openings = old ++ news := hclose ▸ hl
      exact ih hs' hrow hhandles htwo

namespace Manager

variable {m : Manager} {news : List Opening}

/-- Giving up the unused handles ends their openings and leaves all others as they are. -/
theorem opening?_releaseUnused (m : Manager) {w : World} (hs : w.loader.IsSound) (h : Handle) :
    (m.releaseUnused.run w).2.loader.opening? h =
      if h ∈ m.unused w.loader then none else w.loader.opening? h := by
  obtain ⟨hsound, -, hcount, hopening⟩ := Loader.releaseAll hs (m.unused w.loader)
  rw [(m.run_releaseUnused w).2]
  split
  · next hmem =>
    have hunused : ¬ 1 < w.loader.handleCount h := by simpa using List.of_mem_filter hmem
    have hreleased := List.count_pos_iff.2 hmem
    exact Loader.opening?_eq_none hsound (by rw [hcount]; omega)
  · next hmem => exact hopening h hmem

/-- Handles to new openings that only the manager has are given up, in addition to those that would have been. -/
theorem releaseUnused_after {w w' : World} (hs : w.loader.IsSound) (hs' : w'.loader.IsSound)
    (hl : w'.loader.openings = w.loader.openings ++ news) (hone : ∀ o ∈ news, o.handles = 1)
    (hretained : ∀ h ∈ m.retained, 0 < w.loader.handleCount h) :
    (({ m with retained := m.retained ++ news.map (·.id) } : Manager).releaseUnused.run w').1 =
      ((m.releaseUnused.run w).1.1 + news.length, (m.releaseUnused.run w).1.2) ∧
    ∀ h, (({ m with retained := m.retained ++ news.map (·.id) } : Manager).releaseUnused.run w').2.loader.opening? h =
      (m.releaseUnused.run w).2.loader.opening? h := by
  have hold : ∀ h ∈ m.retained, w'.loader.handleCount h = w.loader.handleCount h := fun h hh => by
    rw [Loader.handleCount, Loader.opening?_append hl (Loader.isSome_of_handleCount (hretained h hh)), Loader.handleCount]
  have hnew : ∀ h ∈ news.map (·.id), w'.loader.handleCount h = 1 := by
    rintro _ hh
    obtain ⟨o, ho, rfl⟩ := List.mem_map.1 hh
    have hopening := (Loader.opening?_eq_some_iff hs'.nodup).2 ⟨hl ▸ List.mem_append_right _ ho, rfl⟩
    rw [Loader.handleCount_eq hopening, hone o ho]
  have hgone : (news.map (·.id)).filter (fun h => !decide (1 < w'.loader.handleCount h)) = news.map (·.id) :=
    List.filter_eq_self.2 fun h hh => by
      rw [hnew h hh]
      rfl
  have hkept : (news.map (·.id)).filter (fun h => decide (1 < w'.loader.handleCount h)) = [] :=
    List.filter_eq_nil_iff.2 fun h hh => by
      rw [hnew h hh]
      exact Bool.false_ne_true
  have hunused : ({ m with retained := m.retained ++ news.map (·.id) } : Manager).unused w'.loader =
      m.unused w.loader ++ news.map (·.id) := by
    rw [unused, List.filter_append, hgone]
    exact congrArg (· ++ _) (List.filter_congr fun h hh => by rw [hold h hh])
  constructor
  · rw [(run_releaseUnused _ w').1, (run_releaseUnused _ w).1, hunused, List.length_append, List.length_map]
    dsimp only
    rw [List.filter_append, hkept, List.append_nil, List.filter_congr fun h hh => by rw [hold h hh]]
  · intro h
    rw [opening?_releaseUnused _ hs', opening?_releaseUnused _ hs, hunused]
    by_cases hin : h ∈ m.unused w.loader
    · rw [if_pos (List.mem_append_left _ hin), if_pos hin]
    · rw [if_neg hin]
      by_cases hmem : h ∈ news.map (·.id)
      · rw [if_pos (List.mem_append_right _ hmem)]
        exact (Loader.opening?_of_new hs' hl hmem).symm
      · rw [if_neg (by rw [List.mem_append]; exact not_or.2 ⟨hin, hmem⟩)]
        exact Loader.opening?_of_old hl hmem

/-! ## Whole manifests -/

/-- Of two lists that are related item by item, every item of the first is related to one of the second. -/
theorem exists_related {α β : Type} {R : α → β → Prop} {as : List α} {bs : List β} (h : List.Forall₂ R as bs) :
    ∀ a ∈ as, ∃ b ∈ bs, R a b := by
  induction h with
  | nil => nofun
  | @cons a b as bs hab _ ih =>
    rintro a' (_ | ⟨_, ha'⟩)
    · exact ⟨b, List.mem_cons_self, hab⟩
    · obtain ⟨b', hb', hab'⟩ := ih a' ha'
      exact ⟨b', List.mem_cons_of_mem b hb', hab'⟩

/-- Loading entries asks the manifest for its directory only. -/
theorem loadEntries_plugins (c : Manifest.Config) (plugins es : List Manifest.Entry) : ∀ (m : Manager)
    (loaded : List ConfiguredPlugin), m.loadEntries { c with plugins } loaded es = m.loadEntries c loaded es := by
  induction es with
  | nil => exact fun _ _ => rfl
  | cons e es ih =>
    intro m loaded
    rw [loadEntries, loadEntries]
    refine congrArg (m.loadEntry c e >>= ·) (funext fun r => ?_)
    rcases r with ⟨cause | p, m'⟩
    · rfl
    · exact ih m' (loaded ++ [p])

/-- An entry that ends the loading: the plugins before it end, and what stands behind it does not matter. -/
theorem loadEntries_fatal {w : World} {c : Manifest.Config} {e : Manifest.Entry} {cause : LoadError}
    (he : m.fatal? w.files c e = some cause) (loaded : List ConfiguredPlugin) : ∃ w', w.loader.SameOpenings w'.loader ∧
      ∀ after, (m.loadEntries c loaded (e :: after)).run w =
        ((.error (.load (entryPath c e) cause), m), ((ConfiguredPlugin.closeAll loaded).run w').2) := by
  have hcourse := m.entry_course w c e
  rcases hentry : (m.loadEntry c e).run w with ⟨⟨r, m'⟩, w'⟩
  rw [hentry] at hcourse
  dsimp only at hcourse
  cases hcourse with
  | failed hfatal _ hl =>
    obtain rfl := Option.some.inj (hfatal.symm.trans he)
    refine ⟨w', hl, fun after => ?_⟩
    rw [loadEntries, StateT.run_bind, hentry]
    rfl
  | native hfatal | other hfatal =>
    rw [he] at hfatal
    cases hfatal

theorem exists_first_fatal {files : FileTree} {c : Manifest.Config} {es : List Manifest.Entry}
    (h : ∃ e ∈ es, m.fatal? files c e ≠ none) : ∃ before e after cause, es = before ++ e :: after ∧
      (∀ e' ∈ before, m.fatal? files c e' = none) ∧ m.fatal? files c e = some cause := by
  obtain ⟨e', he', hfatal'⟩ := h
  have hfound : (es.find? fun e => (m.fatal? files c e).isSome).isSome :=
    List.find?_isSome.2 ⟨e', he', Option.isSome_iff_ne_none.2 hfatal'⟩
  obtain ⟨e, he⟩ := Option.isSome_iff_exists.1 hfound
  obtain ⟨hsome, before, after, hes, hbefore⟩ := List.find?_eq_some_iff_append.1 he
  obtain ⟨cause, hcause⟩ := Option.isSome_iff_exists.1 hsome
  exact ⟨before, e, after, cause, hes, fun e' he' => by simpa using hbefore e' he', hcause⟩

/-- A manifest of which no entry ends the loading. -/
theorem loadConfigured_ok {w : World} {c : Manifest.Config} (hc : c.validate = .ok c) (hs : w.loader.IsSound)
    (hes : ∀ e ∈ c.plugins, m.fatal? w.files c e = none) : ∃ ps w', (m.loadConfigured c).run w =
        ((.ok ps, { m with retained := m.retained ++ ps.filterMap (·.plugin.handle?) }), w') ∧
      List.Forall₂ (m.StandsFor w.files c) ps c.plugins ∧
      ∀ p ∈ ps, p.crashGuard → p.plugin.kind = .c ∨ p.plugin.kind = .noop := by
  obtain ⟨ps, news, w', hrun, hgained, -⟩ := loadEntries_ok [] hs hes
  rw [List.nil_append, ← hgained.handles] at hrun
  refine ⟨ps, w', hrun, hgained.stands, fun p hp hguard => ?_⟩
  obtain ⟨e, he, hstands⟩ := exists_related hgained.stands p hp
  rw [hstands.crashGuard] at hguard
  rw [hstands.kind, ((Manifest.Config.validate_eq_ok_iff.1 hc).complete e he).guarded hguard]
  split
  · exact .inr rfl
  · exact .inl rfl

/-- A manifest of which an entry ends the loading. Each library that was opened before has the handle of the manager. -/
theorem loadConfigured_error {w : World} {c : Manifest.Config} (hc : c.validate = .ok c) (hs : w.loader.IsSound)
    {before after : List Manifest.Entry} {e : Manifest.Entry} {cause : LoadError}
    (hplugins : c.plugins = before ++ e :: after) (hbefore : ∀ e' ∈ before, m.fatal? w.files c e' = none)
    (he : m.fatal? w.files c e = some cause) : ∃ path news w', e.path = some path ∧
      (m.loadConfigured c).run w =
        ((.error (.load (c.resolve path) cause), { m with retained := m.retained ++ news.map (·.id) }), w') ∧
      (m.loadConfigured { c with plugins := before ++ [e] }).run w = (m.loadConfigured c).run w ∧
      List.Forall₂ (OpenedFor w.files c 1) news (before.filter (m.opens w.files c)) ∧ w'.loader.IsSound ∧
      w'.loader.openings = w.loader.openings ++ news := by
  have hkind : e.kind ≠ .noop := fun hk => by
    have hnone : m.entryFailure? w.files c e = none := by
      rw [entryFailure?, hk]
      rfl
    rw [fatal?, hnone, ite_self] at he
    cases he
  have hmem : e ∈ c.plugins := hplugins ▸ List.mem_append_right before List.mem_cons_self
  obtain ⟨path, hpath⟩ := Option.ne_none_iff_exists'.1 (((Manifest.Config.validate_eq_ok_iff.1 hc).complete _ hmem).placed hkind)
  have hentry : entryPath c e = c.resolve path := by rw [entryPath, hpath]; rfl
  obtain ⟨ps, news, w₁, hrun, hgained, hfiles, hs₁, hl₁⟩ := loadEntries_ok [] hs hbefore
  rw [List.nil_append] at hrun
  obtain ⟨w₂, hsame, hfatal⟩ := loadEntries_fatal (m := { m with retained := m.retained ++ news.map (·.id) }) (w := w₁)
    (by rw [hfiles, fatal?_retained, he]) ps
  rw [hentry] at hfatal
  have htwo : ∀ o ∈ news, o.handles = 2 := fun o ho => (exists_related hgained.opened o ho).elim fun _ h => h.2.handles
  obtain ⟨hclosed, hopenings⟩ := ConfiguredPlugin.openings_closeAll ps (hsame.isSound hs₁) (hsame.openings.trans hl₁)
    hgained.handles htwo
  refine ⟨path, news.map fun o => { o with handles := 1 }, _, hpath, ?_, ?_, ?_, hclosed, hopenings⟩
  · rw [loadConfigured, hplugins, loadEntries_append (e :: after) hrun, hfatal, List.map_map]
    rfl
  · rw [loadConfigured, loadConfigured, loadEntries_plugins, hplugins, loadEntries_append [e] hrun,
      loadEntries_append (e :: after) hrun, hfatal, hfatal]
  · rw [List.forall₂_map_left_iff]
    exact hgained.opened.imp fun o e ho => ⟨ho.found, rfl⟩

/-- A library that is there. -/
def libraryEntry : Manifest.Entry := { name := "library", kind := .c, path := some ⟨"/lib.so"⟩ }

/-- A script that may be missing. -/
def spareEntry : Manifest.Entry := { name := "spare", kind := .lua, path := some ⟨"/spare.lua"⟩, optional := true }

/-- A script that must not be missing. -/
def scriptEntry : Manifest.Entry := { name := "script", kind := .lua, path := some ⟨"/script.lua"⟩ }

def sampleManifest : Manifest.Config := { plugins := [libraryEntry, spareEntry, scriptEntry] }

/-- Files that lack the scripts. -/
def libraryFiles : FileTree := ⟨[(["lib.so"], .library { exports := [] })], []⟩

theorem inspect_library :
    Loader.inspect libraryFiles ⟨"/lib.so"⟩ = .ok (⟨"/lib.so"⟩, ["lib.so"], { exports := [] }) := by
  have hlocate : libraryFiles.locate ⟨"/lib.so"⟩ = .ok ["lib.so"] := by
    have hpieces : Path.pieces ⟨"/lib.so"⟩ = ["", "lib.so"] := by decide +kernel
    rw [FileTree.locate_eq_walk (by simp) (by decide) (by decide), hpieces]
    split <;> rfl
  have hfind : Loader.find? libraryFiles ⟨"/lib.so"⟩ = some ⟨"/lib.so"⟩ := by
    rw [Loader.find?, FileTree.exists?, hlocate]
    rfl
  rw [Loader.inspect, hfind]
  dsimp only
  rw [hlocate]
  exact if_pos (by simp)

theorem entryFailure?_library : ({} : Manager).entryFailure? libraryFiles sampleManifest libraryEntry = none := by
  have hnone : ({} : Manager).failure? libraryFiles .c ⟨"/lib.so"⟩ = none := by
    rw [failure?_native _ _ rfl, inspect_library]
  exact hnone

theorem fatal?_script :
    ({} : Manager).fatal? libraryFiles sampleManifest scriptEntry = some .fileNotFound := by
  have hlocate : libraryFiles.locate ⟨"/script.lua"⟩ = .error .notFound := by
    have hpieces : Path.pieces ⟨"/script.lua"⟩ = ["", "script.lua"] := by decide +kernel
    rw [FileTree.locate_eq_walk (by simp) (by decide) (by decide), hpieces]
    split <;> rfl
  exact ({} : Manager).failure?_missing hlocate (.inl rfl)

/-- The entry that ends the loading is the last one, behind a library. -/
theorem split_sampleManifest {before after : List Manifest.Entry} {e : Manifest.Entry} {cause : LoadError}
    (hplugins : sampleManifest.plugins = before ++ e :: after)
    (hbefore : ∀ e' ∈ before, ({} : Manager).fatal? libraryFiles sampleManifest e' = none)
    (he : ({} : Manager).fatal? libraryFiles sampleManifest e = some cause) :
    before = [libraryEntry, spareEntry] ∧ e = scriptEntry ∧ cause = .fileNotFound := by
  rcases before with _ | ⟨a, _ | ⟨b, _ | ⟨d, rest⟩⟩⟩ <;> obtain ⟨rfl, htail⟩ := List.cons.inj hplugins
  · rw [fatal?, entryFailure?_library, ite_self] at he
    cases he
  · obtain ⟨rfl, -⟩ := List.cons.inj htail
    cases he
  · obtain ⟨rfl, hlast⟩ := List.cons.inj htail
    obtain ⟨rfl, -⟩ := List.cons.inj hlast
    exact ⟨rfl, rfl, Option.some.inj (he.symm.trans fatal?_script)⟩
  · obtain ⟨rfl, hlast⟩ := List.cons.inj htail
    obtain ⟨rfl, -⟩ := List.cons.inj hlast
    have hnone := hbefore scriptEntry (by simp)
    rw [fatal?_script] at hnone
    cases hnone

end Manager

end PluginHost
