import Mathlib.Data.List.Nodup
import PluginHost.Manifest.Config

/-!
# Manifests that can be used

A manifest is refused for the first entry in its order that cannot be used behind those before it, and for the first of four
faults that this entry has (`Entry.Charge`). `Config.validate_exact` says that nothing else is refused, and that in a manifest
that is accepted a name stands for one entry (`Usable`).
-/

namespace PluginHost.Manifest

/-! ## One entry -/

namespace Entry

variable {e : Entry} {names : List String} {err : ConfigError}

/-- The name has no character but blank ones, maybe none at all. -/
def IsBlank (e : Entry) : Prop := ∀ ch ∈ e.name.toList, Text.isBlank ch

/-- The entry has what its kind needs, and nothing that its kind cannot have. -/
structure IsComplete (e : Entry) : Prop where
  named : ¬e.IsBlank
  placed : e.kind ≠ .noop → e.path ≠ none
  guarded : e.crashGuard → e.kind = .c

/-- What an entry is blamed for that stands behind entries with some names: a fault that it has, and none that comes before
that in the order of these cases. -/
inductive Charge (names : List String) (e : Entry) : ConfigError → Prop
  | blank (hblank : e.IsBlank) : Charge names e .emptyPluginName
  | repeated (hnamed : ¬e.IsBlank) (hrepeated : e.name ∈ names) : Charge names e (.duplicatePlugin e.name)
  | unplaced (hnamed : ¬e.IsBlank) (hnew : e.name ∉ names) (hkind : e.kind ≠ .noop) (hpath : e.path = none) :
    Charge names e (.missingPath e.name)
  | misguarded (hnamed : ¬e.IsBlank) (hnew : e.name ∉ names) (hplaced : e.kind ≠ .noop → e.path ≠ none)
    (hguard : e.crashGuard) (hkind : e.kind ≠ .c) : Charge names e (.crashGuardUnsupported e.name e.kind)

theorem isBlankText_name : Text.isBlankText e.name ↔ e.IsBlank := List.all_eq_true

/-- Which names stand before an entry counts, not in which order or how often. -/
theorem Charge.congr {names' : List String} (h : Charge names e err) (hnames : ∀ name, name ∈ names ↔ name ∈ names') :
    Charge names' e err := by
  cases h with
  | blank hblank => exact .blank hblank
  | repeated hnamed hrepeated => exact .repeated hnamed ((hnames e.name).1 hrepeated)
  | unplaced hnamed hnew hkind hpath => exact .unplaced hnamed (mt (hnames e.name).2 hnew) hkind hpath
  | misguarded hnamed hnew hplaced hguard hkind =>
    exact .misguarded hnamed (mt (hnames e.name).2 hnew) hplaced hguard hkind

/-- The tests are made in the order of the charges. -/
theorem fault?_cases (names : List String) (e : Entry) : (e.fault? names = none ∧ e.IsComplete ∧ e.name ∉ names) ∨
    ∃ err, e.fault? names = some err ∧ Charge names e err ∧ ¬(e.IsComplete ∧ e.name ∉ names) := by
  unfold fault?
  split
  · next hblank =>
    rw [isBlankText_name] at hblank
    exact .inr ⟨_, rfl, .blank hblank, fun h => h.1.named hblank⟩
  next hnamed =>
  rw [isBlankText_name] at hnamed
  split
  · next hrepeated => exact .inr ⟨_, rfl, .repeated hnamed hrepeated, fun h => h.2 hrepeated⟩
  next hnew =>
  split
  · next hpath => exact .inr ⟨_, rfl, .unplaced hnamed hnew hpath.1 hpath.2, fun h => h.1.placed hpath.1 hpath.2⟩
  next hplaced =>
  have hplaced : e.kind ≠ .noop → e.path ≠ none := fun hkind hpath => hplaced ⟨hkind, hpath⟩
  split
  · next hguard =>
    exact .inr ⟨_, rfl, .misguarded hnamed hnew hplaced hguard.1 hguard.2, fun h => hguard.2 (h.1.guarded hguard.1)⟩
  · next hguarded =>
    exact .inl ⟨rfl, ⟨hnamed, hplaced, fun hguard => by_contra fun hkind => hguarded ⟨hguard, hkind⟩⟩, hnew⟩

theorem fault?_eq_none_iff : e.fault? names = none ↔ e.IsComplete ∧ e.name ∉ names := by
  rcases fault?_cases names e with ⟨hnone, h⟩ | ⟨err, hsome, -, h⟩
  · exact iff_of_true hnone h
  · rw [hsome]
    exact iff_of_false nofun h

theorem fault?_of_charge (h : Charge names e err) : e.fault? names = some err := by
  cases h with
  | blank hblank => rw [fault?, if_pos (isBlankText_name.2 hblank)]
  | repeated hnamed hrepeated => rw [fault?, if_neg (mt isBlankText_name.1 hnamed), if_pos hrepeated]
  | unplaced hnamed hnew hkind hpath =>
    rw [fault?, if_neg (mt isBlankText_name.1 hnamed), if_neg hnew, if_pos ⟨hkind, hpath⟩]
  | misguarded hnamed hnew hplaced hguard hkind =>
    rw [fault?, if_neg (mt isBlankText_name.1 hnamed), if_neg hnew, if_neg fun h => hplaced h.1 h.2,
      if_pos ⟨hguard, hkind⟩]

theorem fault?_eq_some_iff : e.fault? names = some err ↔ Charge names e err := by
  refine ⟨fun h => ?_, fault?_of_charge⟩
  rcases fault?_cases names e with ⟨hnone, -⟩ | ⟨err', hsome, hcharge, -⟩
  · cases hnone.symm.trans h
  · obtain rfl := Option.some.inj (hsome.symm.trans h)
    exact hcharge

end Entry

/-! ## Entries in order -/

variable {es : List Entry} {e : Entry} {name : String} {err : ConfigError}

/-- All entries are complete, and no two have the same name. -/
structure Usable (es : List Entry) : Prop where
  distinct : (es.map (·.name)).Nodup
  complete : ∀ e ∈ es, e.IsComplete

theorem usable_cons_iff : Usable (e :: es) ↔ e.IsComplete ∧ Usable es ∧ ∀ e' ∈ es, e'.name ≠ e.name := by
  constructor
  · intro h
    obtain ⟨hnew, hdistinct⟩ := List.nodup_cons.1 h.distinct
    refine ⟨h.complete e List.mem_cons_self, ⟨hdistinct, fun e' he' => h.complete e' (List.mem_cons_of_mem e he')⟩, ?_⟩
    intro e' he' hname
    exact hnew (List.mem_map.2 ⟨e', he', hname⟩)
  · rintro ⟨hcomplete, hes, hnew⟩
    refine ⟨List.nodup_cons.2 ⟨?_, hes.distinct⟩, List.forall_mem_cons.2 ⟨hcomplete, hes.complete⟩⟩
    rintro hmem
    obtain ⟨e', he', hname⟩ := List.mem_map.1 hmem
    exact hnew e' he' hname

/-- Nothing is found iff the entries can be used and have names that were not there before. -/
theorem firstFault?_eq_none_iff (es : List Entry) : ∀ names, firstFault? names es = none ↔
    Usable es ∧ ∀ e ∈ es, e.name ∉ names := by
  induction es with
  | nil => exact fun _ => iff_of_true rfl ⟨⟨List.nodup_nil, nofun⟩, nofun⟩
  | cons e es ih =>
    intro names
    rw [firstFault?, Option.or_eq_none_iff, Entry.fault?_eq_none_iff, ih, usable_cons_iff]
    simp only [List.mem_cons, forall_eq_or_imp, not_or]
    constructor
    · rintro ⟨⟨hcomplete, hnew⟩, hes, hother⟩
      exact ⟨⟨hcomplete, hes, fun e' he' => (hother e' he').1⟩, hnew, fun e' he' => (hother e' he').2⟩
    · rintro ⟨⟨hcomplete, hes, hother⟩, hnew, hnews⟩
      exact ⟨⟨hcomplete, hnew⟩, hes, fun e' he' => ⟨hother e' he', hnews e' he'⟩⟩

/-- What is found is the charge against the first entry that has one: the names that were seen are those of the entries
before it. -/
theorem firstFault?_eq_some_iff (es : List Entry) : ∀ names, firstFault? names es = some err ↔
    ∃ before e after, es = before ++ e :: after ∧ firstFault? names before = none ∧
      Entry.Charge (before.map (·.name) ++ names) e err := by
  induction es with
  | nil => simp [firstFault?]
  | cons e es ih =>
    intro names
    rw [firstFault?, Option.or_eq_some_iff, ih, Entry.fault?_eq_some_iff]
    constructor
    · rintro (hcharge | ⟨hnone, before, e', after, rfl, hbefore, hcharge⟩)
      · exact ⟨[], e, es, rfl, rfl, hcharge⟩
      · refine ⟨e :: before, e', after, rfl, ?_, hcharge.congr fun name => ?_⟩
        · rw [firstFault?, hnone, hbefore]
          rfl
        · simp only [List.map_cons, List.mem_append, List.mem_cons]
          tauto
    · rintro ⟨before, e', after, hes, hbefore, hcharge⟩
      cases before with
      | nil =>
        obtain ⟨rfl, rfl⟩ := List.cons.inj hes
        exact .inl hcharge
      | cons e'' before =>
        obtain ⟨rfl, rfl⟩ := List.cons.inj hes
        rw [firstFault?, Option.or_eq_none_iff] at hbefore
        refine .inr ⟨hbefore.1, before, e', after, rfl, hbefore.2, hcharge.congr fun name => ?_⟩
        simp only [List.map_cons, List.mem_append, List.mem_cons]
        tauto

/-- With distinct names, an entry is the only one with its name. -/
theorem filter_name_eq (hd : (es.map (·.name)).Nodup) (he : e ∈ es) : es.filter (·.name = e.name) = [e] := by
  induction es with
  | nil => cases he
  | cons e' es ih =>
    obtain ⟨hnew, hdistinct⟩ := List.nodup_cons.1 hd
    rcases List.mem_cons.1 he with rfl | he
    · have hnone : es.filter (·.name = e.name) = [] := by
        rw [List.filter_eq_nil_iff]
        intro e' he' hname
        exact hnew (List.mem_map.2 ⟨e', he', of_decide_eq_true hname⟩)
      rw [List.filter_cons_of_pos (by simp), hnone]
    · have hne : e'.name ≠ e.name := by
        intro hname
        exact hnew (List.mem_map.2 ⟨e, he, hname.symm⟩)
      rw [List.filter_cons_of_neg (by simpa using hne), ih hdistinct he]

/-! ## Manifests -/

namespace Config

variable {c : Config}

theorem validate_eq_ok_iff : c.validate = .ok c ↔ Usable c.plugins := by
  have hnone : c.fault? = none ↔ Usable c.plugins := by
    rw [fault?, firstFault?_eq_none_iff]
    exact and_iff_left fun _ _ => List.not_mem_nil
  rw [← hnone, validate]
  cases c.fault? with
  | none => exact iff_of_true rfl rfl
  | some err => exact iff_of_false nofun nofun

theorem validate_eq_error_iff : c.validate = .error err ↔ ∃ before e after, c.plugins = before ++ e :: after ∧
    Usable before ∧ Entry.Charge (before.map (·.name)) e err := by
  have hsome : c.fault? = some err ↔ ∃ before e after, c.plugins = before ++ e :: after ∧
      Usable before ∧ Entry.Charge (before.map (·.name)) e err := by
    simp only [fault?, firstFault?_eq_some_iff, firstFault?_eq_none_iff, List.append_nil, List.not_mem_nil,
      not_false_eq_true, implies_true, and_true]
  rw [← hsome, validate]
  cases c.fault? with
  | none => exact iff_of_false nofun nofun
  | some err' =>
    show Except.error err' = _ ↔ _
    rw [Except.error.injEq, Option.some.injEq]

theorem mem_pluginNames_iff : name ∈ c.pluginNames ↔ ∃ e ∈ c.plugins, e.name = name := List.mem_map

theorem plugin_eq_ok (h : c.plugin name = .ok e) : e ∈ c.plugins ∧ e.name = name := by
  rw [plugin] at h
  split at h
  · next e' hfind =>
    obtain rfl := Except.ok.inj h
    have hname := List.find?_some hfind
    exact ⟨List.mem_of_find?_eq_some hfind, by simpa using hname⟩
  · cases h

/-- A name that the manifest has is found. -/
theorem exists_plugin_iff : (∃ e, c.plugin name = .ok e) ↔ name ∈ c.pluginNames := by
  rw [mem_pluginNames_iff]
  constructor
  · rintro ⟨e, h⟩
    exact ⟨e, plugin_eq_ok h⟩
  · rintro ⟨e, he, hname⟩
    unfold plugin
    cases hfind : c.plugins.find? (·.name = name) with
    | some e' => exact ⟨e', rfl⟩
    | none => exact absurd (decide_eq_true hname) (List.find?_eq_none.1 hfind e he)

/-- A manifest is accepted as it is iff its entries can be used together, and refused for the first entry that cannot be
used behind those before it. In a manifest that is accepted the names are those for which an entry is found, and what is
found is the only entry with the name. -/
theorem validate_exact (c : Config) :
    (c.validate = .ok c ↔ Usable c.plugins) ∧
    (∀ err, c.validate = .error err ↔ ∃ before e after, c.plugins = before ++ e :: after ∧ Usable before ∧
      Entry.Charge (before.map (·.name)) e err) ∧
    ∀ accepted, c.validate = .ok accepted → accepted = c ∧ ∀ name,
      ((∃ e, accepted.plugin name = .ok e) ↔ name ∈ accepted.pluginNames) ∧
      ∀ e, accepted.plugin name = .ok e → e.name = name ∧ accepted.plugins.filter (·.name = name) = [e] := by
  refine ⟨validate_eq_ok_iff, fun err => validate_eq_error_iff, fun accepted h => ?_⟩
  have hsame : accepted = c := by
    rw [validate] at h
    split at h
    · cases h
    · exact (Except.ok.inj h).symm
  subst hsame
  refine ⟨rfl, fun name => ⟨exists_plugin_iff, fun e he => ?_⟩⟩
  obtain ⟨hmem, rfl⟩ := plugin_eq_ok he
  exact ⟨rfl, filter_name_eq (validate_eq_ok_iff.1 h).distinct hmem⟩

/-- A name that comes again is charged where it comes again, before what else is wrong there. -/
example : validate { plugins := [⟨"a", .noop, none, false, false⟩, ⟨"b", .lua, some ⟨"b.lua"⟩, false, false⟩,
    ⟨"a", .lua, none, true, false⟩, ⟨" ", .c, none, false, false⟩] } = .error (.duplicatePlugin "a") := by decide

end Config

end PluginHost.Manifest
