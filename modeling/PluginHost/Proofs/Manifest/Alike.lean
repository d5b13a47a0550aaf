import PluginHost.Proofs.Manifest.Sections

/-!
# Documents that say the same

Two documents are alike if they differ only in where things stand: in the order of keys at any level, and in fields that one
of them leaves out and the other has with their default (`Entries.Alike`). They describe the same manifest
(`Config.describedBy_congr`), as leaving out fields of a section, all of them, or the section comes to the same.
`Config.decode_documented` puts together what decoding a document gives.
-/

namespace PluginHost.Manifest

/-! ## Roles -/

/-- What a value is read as. -/
inductive Role
  | config | logging | file | lua | python | plugins | entry | other
deriving DecidableEq

namespace Role

/-- The fields that hold sections. A section can be left out as a whole. -/
def sections : Role → List (String × Role)
  | config => [("logging", logging), ("lua", lua), ("python", python)]
  | logging => [("file", file)]
  | _ => []

/-- The other fields that have a default which can be written. -/
def defaults : Role → List (String × Value)
  | config => [("plugins", .array false [])]
  | logging => [("level", .text "warn"), ("format", .text "pretty")]
  | file => [("enabled", .boolean false), ("level", .text "debug")]
  | lua => [("open_standard_libraries", .boolean true), ("auto_run", .boolean true)]
  | python => [("own_gil", .boolean true)]
  | entry => [("crash_guard", .boolean false), ("optional", .boolean false)]
  | plugins | other => []

/-- What the value of a key in a table is read as. -/
def inner (role : Role) (name : String) : Role :=
  if role = config ∧ name = "plugins" then plugins else (role.sections.lookup name).getD other

/-- What the items of an array are read as. -/
def item : Role → Role
  | plugins => entry
  | _ => other

end Role

mutual

/-- Two values say the same. -/
inductive Value.Alike : Role → Value → Value → Prop
  | leaf {role : Role} {v : Value} (hv : v.isLeaf) : Value.Alike role v v
  | array {role : Role} {ofTables ofTables' : Bool} {items items' : List (Span × Value)}
    (hlength : items.length = items'.length)
    (hitems : ∀ i (h : i < items.length) (h' : i < items'.length), Value.Alike role.item items[i].2 items'[i].2) :
    Value.Alike role (.array ofTables items) (.array ofTables' items')
  | table {role : Role} {form form' : TableForm} {es es' : Entries} (h : Entries.Alike role es es') :
    Value.Alike role (.table form es) (.table form' es')

/-- Two tables say the same: in both a key has values that say the same, or one of them has it with its default. -/
inductive Entries.Alike : Role → Entries → Entries → Prop
  | intro {role : Role} {es es' : Entries}
    (both : ∀ name e e', es.get? name = some e → es'.get? name = some e' → Value.Alike (role.inner name) e.2.2 e'.2.2)
    (left : ∀ name e, es.get? name = some e → es'.get? name = none → Value.IsDefault role name e.2.2)
    (right : ∀ name e', es.get? name = none → es'.get? name = some e' → Value.IsDefault role name e'.2.2) :
    Entries.Alike role es es'

/-- What may as well be left out. -/
inductive Value.IsDefault : Role → String → Value → Prop
  | field {role : Role} {name : String} {v : Value} (hfield : (name, v) ∈ role.defaults) : Value.IsDefault role name v
  | section {role inner : Role} {name : String} {form : TableForm} {es : Entries}
    (hsection : (name, inner) ∈ role.sections) (h : Entries.Alike inner es []) :
    Value.IsDefault role name (.table form es)

end

variable {α : Type} {role inner : Role} {name : String} {names : List String} {v v' w : Value} {es es' : Entries} {a d : α}
  {Is : Value → α → Prop} {DescribedBy : α → Entries → Prop}

/-! ## Values that say the same -/

/-- What says the same as a scalar is that scalar. -/
theorem Value.Alike.eq_iff (h : Value.Alike role v v') (hw : w.isLeaf) : v = w ↔ v' = w := by
  cases h with
  | leaf hv => rfl
  | array | table =>
    refine iff_of_false ?_ ?_ <;>
    · rintro rfl
      cases hw

theorem Value.Alike.isText_iff {s : String} (h : Value.Alike role v v') : v.IsText s ↔ v'.IsText s := h.eq_iff rfl

theorem Value.Alike.isBoolean_iff {b : Bool} (h : Value.Alike role v v') : v.IsBoolean b ↔ v'.IsBoolean b := h.eq_iff rfl

theorem Value.Alike.isKind_iff {k : PluginKind} (h : Value.Alike role v v') : v.IsKind k ↔ v'.IsKind k := h.eq_iff rfl

theorem Value.Alike.isPath_iff {p : Option Path} (h : Value.Alike role v v') : v.IsPath p ↔ v'.IsPath p :=
  exists_congr fun _ => and_congr_left fun _ => h.eq_iff rfl

theorem Value.Alike.isRecord_iff (h : Value.Alike role v v')
    (hcongr : ∀ {es es'}, Entries.Alike role es es' → (DescribedBy a es ↔ DescribedBy a es')) :
    v.IsRecord DescribedBy a ↔ v'.IsRecord DescribedBy a := by
  cases h with
  | leaf hv => rfl
  | array =>
    refine iff_of_false ?_ ?_ <;>
    · rintro ⟨form, es, heq, -⟩
      cases heq
  | table hes =>
    constructor
    · rintro ⟨_, _, ⟨rfl, rfl⟩, h⟩
      exact ⟨_, _, rfl, (hcongr hes).1 h⟩
    · rintro ⟨_, _, ⟨rfl, rfl⟩, h⟩
      exact ⟨_, _, rfl, (hcongr hes).2 h⟩

/-- The order of entries counts, as does their number. -/
theorem Value.Alike.areRecords_iff {as : List α} (h : Value.Alike role v v')
    (hcongr : ∀ {a es es'}, Entries.Alike role.item es es' → (DescribedBy a es ↔ DescribedBy a es')) :
    v.AreRecords DescribedBy as ↔ v'.AreRecords DescribedBy as := by
  cases h with
  | leaf hv => rfl
  | table =>
    refine iff_of_false ?_ ?_ <;>
    · rintro ⟨ofTables, items, heq, -⟩
      cases heq
  | @array _ ofTables ofTables' items items' hlength hitems =>
    have hitem : ∀ i (h : i < items.length) (h' : i < items'.length) (a : α),
        items[i].2.IsRecord DescribedBy a ↔ items'[i].2.IsRecord DescribedBy a := by
      intro i h h' a
      exact (hitems i h h').isRecord_iff hcongr
    have hforall : items.Forall₂ (fun item a => item.2.IsRecord DescribedBy a) as ↔
        items'.Forall₂ (fun item a => item.2.IsRecord DescribedBy a) as := by
      rw [List.forall₂_iff_get, List.forall₂_iff_get]
      refine and_congr (by rw [hlength]) ⟨fun h i hi hi' => ?_, fun h i hi hi' => ?_⟩
      · exact (hitem i (hlength ▸ hi) hi _).1 (h i (hlength ▸ hi) hi')
      · exact (hitem i hi (hlength ▸ hi) _).2 (h i (hlength ▸ hi) hi')
    constructor
    · rintro ⟨_, _, ⟨rfl, rfl⟩, h⟩
      exact ⟨_, _, rfl, hforall.1 h⟩
    · rintro ⟨_, _, ⟨rfl, rfl⟩, h⟩
      exact ⟨_, _, rfl, hforall.2 h⟩

/-! ## Tables that say the same -/

namespace Entries

/-- A field with a default. -/
theorem Alike.gives_iff (h : Entries.Alike role es es')
    (hboth : ∀ {v v'}, Value.Alike (role.inner name) v v' → (Is v a ↔ Is v' a))
    (hdefault : ∀ {v}, Value.IsDefault role name v → (Is v a ↔ a = d)) :
    es.Gives name Is d a ↔ es'.Gives name Is d a := by
  obtain ⟨both, left, right⟩ := h
  rw [Gives, Gives]
  cases he : es.get? name with
  | none =>
    cases he' : es'.get? name with
    | none => rfl
    | some e' => exact (hdefault (right name e' he he')).symm
  | some e =>
    cases he' : es'.get? name with
    | none => exact hdefault (left name e he he')
    | some e' => exact hboth (both name e e' he he')

/-- A field with a default that is no section. -/
theorem Alike.gives_iff_of_field (h : Entries.Alike role es es')
    (hboth : ∀ {v v'}, Value.Alike (role.inner name) v v' → (Is v a ↔ Is v' a))
    (hsection : ∀ inner, (name, inner) ∉ role.sections)
    (hfield : ∀ v, (name, v) ∈ role.defaults → (Is v a ↔ a = d)) : es.Gives name Is d a ↔ es'.Gives name Is d a := by
  refine h.gives_iff hboth fun {v} hv => ?_
  cases hv with
  | field h => exact hfield v h
  | «section» h => exact absurd h (hsection _)

/-- A field that is a section: its default is what a table without entries describes. -/
theorem Alike.gives_iff_of_section (h : Entries.Alike role es es') (inner : Role) (hinner : role.inner name = inner)
    (hsection : ∀ inner', (name, inner') ∈ role.sections → inner' = inner) (hfield : ∀ v, (name, v) ∉ role.defaults)
    (hcongr : ∀ {es es'}, Entries.Alike inner es es' → (DescribedBy a es ↔ DescribedBy a es'))
    (hnil : DescribedBy a [] ↔ a = d) :
    es.Gives name (Value.IsRecord DescribedBy) d a ↔ es'.Gives name (Value.IsRecord DescribedBy) d a := by
  subst hinner
  refine h.gives_iff (fun hv => hv.isRecord_iff hcongr) fun {v} hv => ?_
  cases hv with
  | field h => exact absurd h (hfield v)
  | «section» hmem hes =>
    obtain rfl := hsection _ hmem
    rw [← hnil, ← hcongr hes]
    constructor
    · rintro ⟨_, _, ⟨rfl, rfl⟩, h⟩
      exact h
    · exact fun h => ⟨_, _, rfl, h⟩

/-- A field without a default. -/
theorem Alike.has_iff (h : Entries.Alike role es es')
    (hboth : ∀ {v v'}, Value.Alike (role.inner name) v v' → (Is v a ↔ Is v' a))
    (hsection : ∀ inner, (name, inner) ∉ role.sections) (hfield : ∀ v, (name, v) ∉ role.defaults) :
    es.Has name Is a ↔ es'.Has name Is a := by
  have hnone : ∀ v, ¬Value.IsDefault role name v := by
    intro v hv
    cases hv with
    | field h => exact hfield v h
    | «section» h => exact hsection _ h
  obtain ⟨both, left, right⟩ := h
  constructor
  · rintro ⟨key, span, v, he, hv⟩
    cases he' : es'.get? name with
    | none => exact absurd (left name _ he he') (hnone v)
    | some e' => exact ⟨e'.1, e'.2.1, e'.2.2, he', (hboth (both name _ e' he he')).1 hv⟩
  · rintro ⟨key, span, v, he', hv⟩
    cases he : es.get? name with
    | none => exact absurd (right name _ he he') (hnone v)
    | some e => exact ⟨e.1, e.2.1, e.2.2, he, (hboth (both name e _ he he')).2 hv⟩

theorem keysAmong_of_get? (h : ∀ name e, es.get? name = some e → name ∈ names) : es.KeysAmong names := by
  intro e he
  cases hget : es.get? e.1.name with
  | none => exact absurd (List.mem_map_of_mem he) (get?_eq_none_iff.1 hget)
  | some e' => exact h _ e' hget

/-- What is left out is a field. -/
theorem Alike.keysAmong_iff (h : Entries.Alike role es es') (hsections : ∀ p ∈ role.sections, p.1 ∈ names)
    (hfields : ∀ p ∈ role.defaults, p.1 ∈ names) : es.KeysAmong names ↔ es'.KeysAmong names := by
  have hdefault : ∀ {name v}, Value.IsDefault role name v → name ∈ names := by
    intro name v hv
    cases hv with
    | field h => exact hfields _ h
    | «section» h => exact hsections _ h
  obtain ⟨both, left, right⟩ := h
  constructor
  · intro hnames
    refine keysAmong_of_get? fun name e' he' => ?_
    cases he : es.get? name with
    | none => exact hdefault (right name e' he he')
    | some e =>
      obtain ⟨hmem, rfl⟩ := mem_of_get? he
      exact hnames e hmem
  · intro hnames
    refine keysAmong_of_get? fun name e he => ?_
    cases he' : es'.get? name with
    | none => exact hdefault (left name e he he')
    | some e' =>
      obtain ⟨hmem, rfl⟩ := mem_of_get? he'
      exact hnames e' hmem

end Entries

/-! ## Sections that say the same -/

theorem isText_text_iff {s t : String} : (Value.text t).IsText s ↔ s = t := by
  rw [Value.IsText, Value.text.injEq, eq_comm]

theorem isBoolean_boolean_iff {b c : Bool} : (Value.boolean c).IsBoolean b ↔ b = c := by
  rw [Value.IsBoolean, Value.boolean.injEq, eq_comm]

theorem FileLogging.describedBy_congr {r : FileLogging} (h : Entries.Alike .file es es') :
    r.DescribedBy es ↔ r.DescribedBy es' := by
  rw [describedBy_iff, describedBy_iff, h.keysAmong_iff (by simp [Role.sections]) (by simp [Role.defaults]),
    h.gives_iff_of_field Value.Alike.isBoolean_iff (by simp [Role.sections])
      (by simp [Role.defaults, isBoolean_boolean_iff]),
    h.gives_iff_of_field Value.Alike.isText_iff (by simp [Role.sections]) (by simp [Role.defaults, isText_text_iff]),
    h.gives_iff_of_field Value.Alike.isPath_iff (by simp [Role.sections]) (by simp [Role.defaults])]

/-- Without an entry everything is as in the section that is left out. -/
theorem FileLogging.describedBy_nil {r : FileLogging} : r.DescribedBy [] ↔ r = ⟨false, "debug", none⟩ := by
  have hkeys : Entries.KeysAmong [] ["enabled", "level", "directory"] := nofun
  obtain ⟨enabled, level, directory⟩ := r
  rw [describedBy_iff, and_iff_right hkeys, FileLogging.mk.injEq]
  rfl

theorem Logging.describedBy_congr {r : Logging} (h : Entries.Alike .logging es es') :
    r.DescribedBy es ↔ r.DescribedBy es' := by
  rw [describedBy_iff, describedBy_iff, h.keysAmong_iff (by simp [Role.sections]) (by simp [Role.defaults]),
    h.gives_iff_of_field Value.Alike.isText_iff (by simp [Role.sections]) (by simp [Role.defaults, isText_text_iff]),
    h.gives_iff_of_field Value.Alike.isText_iff (by simp [Role.sections]) (by simp [Role.defaults, isText_text_iff]),
    h.gives_iff_of_section .file rfl (by simp [Role.sections]) (by simp [Role.defaults])
      FileLogging.describedBy_congr FileLogging.describedBy_nil]

theorem Logging.describedBy_nil {r : Logging} :
    r.DescribedBy [] ↔ r = ⟨"warn", "pretty", ⟨false, "debug", none⟩⟩ := by
  have hkeys : Entries.KeysAmong [] ["level", "format", "file"] := nofun
  obtain ⟨level, format, file⟩ := r
  rw [describedBy_iff, and_iff_right hkeys, Logging.mk.injEq]
  rfl

theorem LuaOptions.describedBy_congr {r : LuaOptions} (h : Entries.Alike .lua es es') :
    r.DescribedBy es ↔ r.DescribedBy es' := by
  rw [describedBy_iff, describedBy_iff, h.keysAmong_iff (by simp [Role.sections]) (by simp [Role.defaults]),
    h.gives_iff_of_field Value.Alike.isBoolean_iff (by simp [Role.sections])
      (by simp [Role.defaults, isBoolean_boolean_iff]),
    h.gives_iff_of_field Value.Alike.isBoolean_iff (by simp [Role.sections])
      (by simp [Role.defaults, isBoolean_boolean_iff])]

theorem LuaOptions.describedBy_nil {r : LuaOptions} : r.DescribedBy [] ↔ r = ⟨true, true⟩ := by
  have hkeys : Entries.KeysAmong [] ["open_standard_libraries", "auto_run"] := nofun
  obtain ⟨openLibraries, autoRun⟩ := r
  rw [describedBy_iff, and_iff_right hkeys, LuaOptions.mk.injEq]
  rfl

theorem PythonOptions.describedBy_congr {r : PythonOptions} (h : Entries.Alike .python es es') :
    r.DescribedBy es ↔ r.DescribedBy es' := by
  rw [describedBy_iff, describedBy_iff, h.keysAmong_iff (by simp [Role.sections]) (by simp [Role.defaults]),
    h.gives_iff_of_field Value.Alike.isBoolean_iff (by simp [Role.sections])
      (by simp [Role.defaults, isBoolean_boolean_iff])]

theorem PythonOptions.describedBy_nil {r : PythonOptions} : r.DescribedBy [] ↔ r = ⟨true⟩ := by
  have hkeys : Entries.KeysAmong [] ["own_gil"] := nofun
  obtain ⟨ownLock⟩ := r
  rw [describedBy_iff, and_iff_right hkeys, PythonOptions.mk.injEq]
  rfl

theorem Entry.describedBy_congr {r : Entry} (h : Entries.Alike .entry es es') : r.DescribedBy es ↔ r.DescribedBy es' := by
  rw [describedBy_iff, describedBy_iff, h.keysAmong_iff (by simp [Role.sections]) (by simp [Role.defaults]),
    h.has_iff Value.Alike.isText_iff (by simp [Role.sections]) (by simp [Role.defaults]),
    h.has_iff Value.Alike.isKind_iff (by simp [Role.sections]) (by simp [Role.defaults]),
    h.gives_iff_of_field Value.Alike.isPath_iff (by simp [Role.sections]) (by simp [Role.defaults]),
    h.gives_iff_of_field Value.Alike.isBoolean_iff (by simp [Role.sections])
      (by simp [Role.defaults, isBoolean_boolean_iff]),
    h.gives_iff_of_field Value.Alike.isBoolean_iff (by simp [Role.sections])
      (by simp [Role.defaults, isBoolean_boolean_iff])]

/-- Documents that say the same describe the same manifest. -/
theorem Config.describedBy_congr {c : Config} (h : Entries.Alike .config es es') :
    c.DescribedBy es ↔ c.DescribedBy es' := by
  have hnoPlugins : ∀ as, (Value.array false []).AreRecords Entry.DescribedBy as ↔ as = [] := by
    intro as
    constructor
    · rintro ⟨_, _, ⟨rfl, rfl⟩, h⟩
      exact List.forall₂_nil_left_iff.1 h
    · rintro rfl
      exact ⟨false, [], rfl, .nil⟩
  have hplugins : es.Gives "plugins" (Value.AreRecords Entry.DescribedBy) [] c.plugins ↔
      es'.Gives "plugins" (Value.AreRecords Entry.DescribedBy) [] c.plugins := by
    refine h.gives_iff_of_field (fun {v v'} hv => ?_) (by simp [Role.sections]) (by simp [Role.defaults, hnoPlugins])
    have hv : Value.Alike .plugins v v' := hv
    exact hv.areRecords_iff Entry.describedBy_congr
  rw [describedBy_iff, describedBy_iff, h.keysAmong_iff (by simp [Role.sections]) (by simp [Role.defaults]),
    h.gives_iff_of_section .logging rfl (by simp [Role.sections]) (by simp [Role.defaults])
      Logging.describedBy_congr Logging.describedBy_nil,
    h.gives_iff_of_section .lua rfl (by simp [Role.sections]) (by simp [Role.defaults])
      LuaOptions.describedBy_congr LuaOptions.describedBy_nil,
    h.gives_iff_of_section .python rfl (by simp [Role.sections]) (by simp [Role.defaults])
      PythonOptions.describedBy_congr PythonOptions.describedBy_nil, hplugins]

/-! ## Rewriting a document -/

/-- A value says the same as itself. -/
theorem Value.alike_refl (h : v.IsDistinct) : ∀ role, Value.Alike role v v := by
  induction h with
  | leaf hv => exact fun role => .leaf hv
  | array _ ih => exact fun role => .array rfl fun i h _ => ih _ (List.getElem_mem h) role.item
  | table _ _ ih =>
    refine fun role => .table (.intro ?_ ?_ ?_)
    · intro name e e' he he'
      obtain rfl := Option.some.inj (he.symm.trans he')
      exact ih e (Entries.mem_of_get? he).1 _
    · intro name e he he'
      cases he.symm.trans he'
    · intro name e' he he'
      cases he.symm.trans he'

/-- What tables that say the same have to fulfil, entry by entry. -/
theorem Entries.Alike.of_mem
    (both : ∀ e ∈ es, ∀ e' ∈ es', e.1.name = e'.1.name → Value.Alike (role.inner e.1.name) e.2.2 e'.2.2)
    (left : ∀ e ∈ es, e.1.name ∉ es'.map (·.1.name) → Value.IsDefault role e.1.name e.2.2)
    (right : ∀ e' ∈ es', e'.1.name ∉ es.map (·.1.name) → Value.IsDefault role e'.1.name e'.2.2) :
    Entries.Alike role es es' := by
  refine .intro ?_ ?_ ?_
  · intro name e e' he he'
    obtain ⟨hmem, rfl⟩ := mem_of_get? he
    obtain ⟨hmem', hname⟩ := mem_of_get? he'
    exact both e hmem e' hmem' hname.symm
  · intro name e he he'
    obtain ⟨hmem, rfl⟩ := mem_of_get? he
    exact left e hmem (get?_eq_none_iff.1 he')
  · intro name e' he he'
    obtain ⟨hmem', rfl⟩ := mem_of_get? he'
    exact right e' hmem' (get?_eq_none_iff.1 he)

/-- Entries may come in another order, and those that are defaults may be left out. -/
theorem Entries.alike_of_subset (hes : es.IsDistinct) (hsubset : es' ⊆ es)
    (hdefault : ∀ e ∈ es, e ∉ es' → Value.IsDefault role e.1.name e.2.2) : Entries.Alike role es es' := by
  refine .of_mem ?_ ?_ ?_
  · intro e he e' he' hname
    obtain rfl := List.inj_on_of_nodup_map hes.keys he (hsubset he') hname
    exact Value.alike_refl (hes.values e he) _
  · intro e he hname
    exact hdefault e he fun he' => hname (List.mem_map_of_mem he')
  · intro e' he' hname
    exact absurd (List.mem_map_of_mem (hsubset he')) hname

/-! ## Decoding a document -/

/-- A document is decoded iff it describes a manifest, and then to that: its keys are fields, their values have the types
of the fields, what is missing has its default, and entries have a name and a kind and stay in their order. Another document
that says the same in another order, with defaults left out or written, is decoded to the same. -/
theorem Config.decode_documented {text : String} (hread : readDocument text = .ok es) (hplain : es.IsPlain) :
    (∀ c, Config.decode text = .ok c ↔ c.DescribedBy es) ∧
    ∀ {text' es'}, readDocument text' = .ok es' → es'.IsPlain → Entries.Alike .config es es' →
      ∀ c, Config.decode text = .ok c ↔ Config.decode text' = .ok c := by
  have hdecode : ∀ {text es}, readDocument text = .ok es → es.IsPlain →
      ∀ c, Config.decode text = .ok c ↔ c.DescribedBy es := by
    intro text es hread hplain c
    rw [decode, hread]
    exact ofEntries_eq_ok_iff (isDistinct_readDocument hread) hplain
  refine ⟨hdecode hread hplain, fun {text' es'} hread' hplain' halike c => ?_⟩
  rw [hdecode hread hplain, hdecode hread' hplain', describedBy_congr halike]

/-- A document that is one table of an array, with two texts in it. -/
structure TwoTexts where
  array : Key × Span
  table : Span
  first : Key × Span × String
  second : Key × Span × String
deriving DecidableEq

def TwoTexts.toEntries (d : TwoTexts) : Entries :=
  [(d.array.1, d.array.2, .array true [(d.table, .table .header [
    (d.first.1, d.first.2.1, .text d.first.2.2), (d.second.1, d.second.2.1, .text d.second.2.2)])])]

/-- Comparing such documents needs no comparison of trees. -/
def TwoTexts.ofRead? : Except DocumentFault Entries → Option TwoTexts
  | .ok [(key, span, .array true [(at_, .table .header [(k, s, .text t), (k', s', .text t')])])] =>
    some ⟨(key, span), at_, (k, s, t), (k', s', t')⟩
  | _ => none

theorem TwoTexts.eq_of_ofRead? {read : Except DocumentFault Entries} {d : TwoTexts} (h : ofRead? read = some d) :
    read = .ok d.toEntries := by
  unfold ofRead? at h
  split at h
  · obtain rfl := Option.some.inj h
    rfl
  · cases h

/-- A manifest of one entry. -/
def sampleEntry : TwoTexts :=
  ⟨(⟨"plugins", ⟨2, 9⟩⟩, ⟨0, 11⟩), ⟨0, 11⟩, (⟨"name", ⟨12, 16⟩⟩, ⟨19, 22⟩, "a"), (⟨"kind", ⟨23, 27⟩⟩, ⟨30, 36⟩, "noop")⟩

/-- The same with the fields of the entry the other way round. -/
def sampleTurned : TwoTexts :=
  ⟨(⟨"plugins", ⟨2, 9⟩⟩, ⟨0, 11⟩), ⟨0, 11⟩, (⟨"kind", ⟨12, 16⟩⟩, ⟨19, 25⟩, "noop"), (⟨"name", ⟨26, 30⟩⟩, ⟨33, 36⟩, "a")⟩

/-- An entry in two documents. -/
theorem Config.decode_documented_sampleEntry :
    readDocument "[[plugins]]\nname = \"a\"\nkind = \"noop\"\n" = .ok sampleEntry.toEntries ∧ sampleEntry.toEntries.IsPlain ∧
    readDocument "[[plugins]]\nkind = \"noop\"\nname = \"a\"\n" = .ok sampleTurned.toEntries ∧ sampleTurned.toEntries.IsPlain ∧
    Entries.Alike .config sampleEntry.toEntries sampleTurned.toEntries ∧
    Config.decode "[[plugins]]\nname = \"a\"\nkind = \"noop\"\n" =
      .ok { plugins := [⟨"a", .noop, none, false, false⟩] } ∧
    Config.decode "[[plugins]]\nkind = \"noop\"\nname = \"a\"\n" =
      .ok { plugins := [⟨"a", .noop, none, false, false⟩] } := by
  have hread : readDocument "[[plugins]]\nname = \"a\"\nkind = \"noop\"\n" = .ok sampleEntry.toEntries :=
    TwoTexts.eq_of_ofRead? (by decide +kernel)
  have hread' : readDocument "[[plugins]]\nkind = \"noop\"\nname = \"a\"\n" = .ok sampleTurned.toEntries :=
    TwoTexts.eq_of_ofRead? (by decide +kernel)
  have hplain : sampleEntry.toEntries.IsPlain := by
    constructor <;> simp [-Prod.forall, TwoTexts.toEntries, sampleEntry, Entries.At, Value.IsTableWith]
  have hplain' : sampleTurned.toEntries.IsPlain := by
    constructor <;> simp [-Prod.forall, TwoTexts.toEntries, sampleTurned, Entries.At, Value.IsTableWith]
  have hfields : Entries.Alike .entry
      [(⟨"name", ⟨12, 16⟩⟩, ⟨19, 22⟩, .text "a"), (⟨"kind", ⟨23, 27⟩⟩, ⟨30, 36⟩, .text "noop")]
      [(⟨"kind", ⟨12, 16⟩⟩, ⟨19, 25⟩, .text "noop"), (⟨"name", ⟨26, 30⟩⟩, ⟨33, 36⟩, .text "a")] := by
    refine .of_mem ?_ ?_ ?_ <;> simp [-Prod.forall]
    exact ⟨.leaf rfl, .leaf rfl⟩
  have halike : Entries.Alike .config sampleEntry.toEntries sampleTurned.toEntries := by
    refine .of_mem ?_ ?_ ?_ <;> simp [-Prod.forall, TwoTexts.toEntries, sampleEntry, sampleTurned]
    exact .array rfl (by simpa using .table hfields)
  have hentry : (⟨"a", .noop, none, false, false⟩ : Entry).DescribedBy
      [(⟨"kind", ⟨12, 16⟩⟩, ⟨19, 25⟩, .text "noop"), (⟨"name", ⟨26, 30⟩⟩, ⟨33, 36⟩, .text "a")] :=
    ⟨by simp [-Prod.forall, Entries.KeysAmong], ⟨_, _, _, rfl, rfl⟩, ⟨_, _, _, rfl, rfl⟩, rfl, rfl, rfl⟩
  have hdescribed : ({ plugins := [⟨"a", .noop, none, false, false⟩] } : Config).DescribedBy sampleTurned.toEntries :=
    ⟨by simp [-Prod.forall, TwoTexts.toEntries, sampleTurned, Entries.KeysAmong], rfl, rfl, rfl,
      ⟨true, _, rfl, .cons ⟨.header, _, rfl, hentry⟩ .nil⟩, rfl⟩
  have hdecode := (decode_documented hread' hplain').1 { plugins := [⟨"a", .noop, none, false, false⟩] }
  have hsame := (decode_documented hread hplain).2 hread' hplain' halike { plugins := [⟨"a", .noop, none, false, false⟩] }
  exact ⟨hread, hplain, hread', hplain', halike, hsame.2 (hdecode.2 hdescribed), hdecode.2 hdescribed⟩

end PluginHost.Manifest
