import Mathlib.Tactic.MkIffOfInductiveProp
import PluginHost.Proofs.Manifest.Records

/-!
# What a document says

`Config.DescribedBy` is the documented model of a manifest: which keys there are, which values they have, and what holds
without them. `Config.ofEntries_eq_ok_iff` says that this is what a document is decoded to, if its records are written as
tables and its kinds as names. The sections have one such statement each, all of them from `Record.Parts.decode_table`.
-/

namespace PluginHost.Manifest

/-! ## Values -/

namespace Value

def IsText (v : Value) (s : String) : Prop := v = .text s

def IsBoolean (v : Value) (b : Bool) : Prop := v = .boolean b

def IsPath (v : Value) (p : Option Path) : Prop := ∃ s, v = .text s ∧ p = some ⟨s⟩

/-- The name of a kind in lower case. -/
def IsKind (v : Value) (k : PluginKind) : Prop := v = .text k.name

/-- A table that describes a record. -/
def IsRecord {α : Type} (DescribedBy : α → Entries → Prop) (v : Value) (a : α) : Prop :=
  ∃ form es, v = .table form es ∧ DescribedBy a es

/-- An array of tables that describe records, in their order. -/
def AreRecords {α : Type} (DescribedBy : α → Entries → Prop) (v : Value) (as : List α) : Prop :=
  ∃ ofTables items, v = .array ofTables items ∧ items.Forall₂ (fun item a => item.2.IsRecord DescribedBy a) as

/-- A record is not written as an array of its fields. If it is written as a table, that has a property. -/
def IsTableWith (p : Entries → Prop) : Value → Prop
  | .array _ _ => False
  | .table _ es => p es
  | _ => True

end Value

namespace Entries

variable {α : Type}

/-- What a table says of a field that has a default. -/
def Gives (es : Entries) (name : String) (Is : Value → α → Prop) (default a : α) : Prop :=
  match es.get? name with
  | none => a = default
  | some (_, _, v) => Is v a

/-- What a table says of a field that it must have. -/
def Has (es : Entries) (name : String) (Is : Value → α → Prop) (a : α) : Prop :=
  ∃ key span v, es.get? name = some (key, span, v) ∧ Is v a

/-- There are no other keys. -/
def KeysAmong (es : Entries) (names : List String) : Prop := ∀ e ∈ es, e.1.name ∈ names

/-- The value of a key has a property, if the key is there. -/
def At (es : Entries) (name : String) (p : Value → Prop) : Prop := ∀ e ∈ es, e.1.name = name → p e.2.2

end Entries

/-! ## The documented model -/

@[mk_iff]
structure FileLogging.DescribedBy (r : FileLogging) (es : Entries) : Prop where
  keys : es.KeysAmong ["enabled", "level", "directory"]
  enabled : es.Gives "enabled" Value.IsBoolean false r.enabled
  level : es.Gives "level" Value.IsText "debug" r.level
  directory : es.Gives "directory" Value.IsPath none r.directory

@[mk_iff]
structure Logging.DescribedBy (r : Logging) (es : Entries) : Prop where
  keys : es.KeysAmong ["level", "format", "file"]
  level : es.Gives "level" Value.IsText "warn" r.level
  format : es.Gives "format" Value.IsText "pretty" r.format
  file : es.Gives "file" (Value.IsRecord FileLogging.DescribedBy) ⟨false, "debug", none⟩ r.file

@[mk_iff]
structure LuaOptions.DescribedBy (r : LuaOptions) (es : Entries) : Prop where
  keys : es.KeysAmong ["open_standard_libraries", "auto_run"]
  openStandardLibraries : es.Gives "open_standard_libraries" Value.IsBoolean true r.openStandardLibraries
  autoRun : es.Gives "auto_run" Value.IsBoolean true r.autoRun

@[mk_iff]
structure PythonOptions.DescribedBy (r : PythonOptions) (es : Entries) : Prop where
  keys : es.KeysAmong ["own_gil"]
  ownLock : es.Gives "own_gil" Value.IsBoolean true r.ownLock

@[mk_iff]
structure Entry.DescribedBy (r : Entry) (es : Entries) : Prop where
  keys : es.KeysAmong ["name", "kind", "path", "crash_guard", "optional"]
  name : es.Has "name" Value.IsText r.name
  kind : es.Has "kind" Value.IsKind r.kind
  path : es.Gives "path" Value.IsPath none r.path
  crashGuard : es.Gives "crash_guard" Value.IsBoolean false r.crashGuard
  optional : es.Gives "optional" Value.IsBoolean false r.optional

/-- The base directory is no key: only reading a file sets it. -/
@[mk_iff]
structure Config.DescribedBy (c : Config) (es : Entries) : Prop where
  keys : es.KeysAmong ["logging", "lua", "python", "plugins"]
  logging : es.Gives "logging" (Value.IsRecord Logging.DescribedBy) ⟨"warn", "pretty", ⟨false, "debug", none⟩⟩ c.logging
  lua : es.Gives "lua" (Value.IsRecord LuaOptions.DescribedBy) ⟨true, true⟩ c.lua
  python : es.Gives "python" (Value.IsRecord PythonOptions.DescribedBy) ⟨true⟩ c.python
  plugins : es.Gives "plugins" (Value.AreRecords Entry.DescribedBy) [] c.plugins
  baseDirectory : c.baseDirectory = none

/-- Records are not written as arrays of their fields, nor kinds as tables. -/
structure Entries.IsPlain (es : Entries) : Prop where
  logging : es.At "logging" (Value.IsTableWith fun es => es.At "file" (Value.IsTableWith fun _ => True))
  lua : es.At "lua" (Value.IsTableWith fun _ => True)
  python : es.At "python" (Value.IsTableWith fun _ => True)
  plugins : es.At "plugins" fun v => ∀ ofTables items, v = .array ofTables items → ∀ item ∈ items,
    item.2.IsTableWith fun es => es.At "kind" fun v => ∀ form es, v ≠ .table form es

/-! ## Decoders -/

section Decoders

variable {α : Type} {span : Span} {v : Value}

theorem refuseType_ne_ok {expected : String} {a : α} : refuseType expected span v ≠ .ok a := by
  unfold refuseType
  split <;> exact nofun

theorem decodeText_eq_ok_iff {s : String} : decodeText span v = .ok s ↔ v.IsText s := by
  unfold decodeText
  split
  · rw [Except.ok.injEq, Value.IsText, Value.text.injEq]
  · next hv =>
    refine iff_of_false refuseType_ne_ok ?_
    rintro rfl
    exact hv s rfl

theorem decodeBoolean_eq_ok_iff {b : Bool} : decodeBoolean span v = .ok b ↔ v.IsBoolean b := by
  unfold decodeBoolean
  split
  · rw [Except.ok.injEq, Value.IsBoolean, Value.boolean.injEq]
  · next hv =>
    refine iff_of_false refuseType_ne_ok ?_
    rintro rfl
    exact hv b rfl

theorem decodePath_eq_ok_iff {p : Path} : decodePath span v = .ok p ↔ v.IsPath (some p) := by
  unfold decodePath
  split
  · simp [Value.IsPath, eq_comm]
  · next hv =>
    refine iff_of_false refuseType_ne_ok ?_
    rintro ⟨s, rfl, -⟩
    exact hv s rfl

/-- A kind has one name. -/
theorem ofName?_eq_some_iff {s : String} {k : PluginKind} : PluginKind.ofName? s = some k ↔ s = k.name := by
  constructor
  · intro h
    have hname := List.find?_some h
    exact (by simpa using hname : k.name = s).symm
  · rintro rfl
    exact PluginKind.ofName?_name k

theorem decodeKind_eq_ok_iff {k : PluginKind} (hv : ∀ form es, v ≠ .table form es) :
    decodeKind span v = .ok k ↔ v.IsKind k := by
  unfold decodeKind
  split
  · next s =>
    rw [decodeKindName, Value.IsKind, Value.text.injEq, ← ofName?_eq_some_iff]
    cases PluginKind.ofName? s with
    | none => exact iff_of_false nofun nofun
    | some k' =>
      show Except.ok k' = .ok k ↔ _
      rw [Except.ok.injEq, Option.some.injEq]
  · exact absurd rfl (hv _ _)
  · exact absurd rfl (hv _ _)
  · exact absurd rfl (hv _ _)
  · next htext _ _ _ =>
    refine iff_of_false nofun ?_
    rintro rfl
    exact htext _ rfl

/-- A record that is not written as an array. -/
theorem decode_eq_ok_iff {r : Record α} {a b : α} {DescribedBy : α → Entries → Prop} {p : Entries → Prop}
    (hr : ∀ span form es, es.IsDistinct → p es → (r.decode a span (.table form es) = .ok b ↔ DescribedBy b es))
    (hv : v.IsDistinct) (hp : v.IsTableWith p) : r.decode a span v = .ok b ↔ v.IsRecord DescribedBy b := by
  have hnone : (∀ form es, v ≠ .table form es) → ¬v.IsRecord DescribedBy b := by
    rintro h ⟨form, es, rfl, -⟩
    exact h form es rfl
  cases v with
  | table form es =>
    have hes : Entries.IsDistinct es := by
      cases hv with
      | leaf hleaf => cases hleaf
      | table hkeys hvalues => exact ⟨hkeys, hvalues⟩
    rw [hr span form es hes hp]
    exact ⟨fun h => ⟨form, es, rfl, h⟩, fun ⟨_, _, heq, h⟩ => (Value.table.inj heq).2 ▸ h⟩
  | array ofTables items => cases hp
  | datetime => exact iff_of_false nofun (hnone nofun)
  | _ =>
    refine iff_of_false ?_ (hnone nofun)
    unfold Record.decode
    exact refuseType_ne_ok

/-- One after the other. -/
theorem mapM_eq_ok_iff {β ε : Type} {f : α → Except ε β} (as : List α) : ∀ {bs : List β},
    as.mapM f = .ok bs ↔ as.Forall₂ (fun a b => f a = .ok b) bs := by
  induction as with
  | nil =>
    intro bs
    rw [List.mapM_nil, List.forall₂_nil_left_iff]
    exact ⟨fun h => (Except.ok.inj h).symm, fun h => congrArg Except.ok h.symm⟩
  | cons a as ih =>
    intro bs
    rw [List.mapM_cons]
    cases ha : f a with
    | error e =>
      refine iff_of_false nofun fun h => ?_
      cases h with
      | cons hb _ => cases ha.symm.trans hb
    | ok b =>
      cases has : as.mapM f with
      | error e =>
        refine iff_of_false nofun fun h => ?_
        cases h with
        | cons _ hbs => cases has.symm.trans (ih.2 hbs)
      | ok bs' =>
        show Except.ok (b :: bs') = .ok bs ↔ _
        rw [Except.ok.injEq]
        constructor
        · rintro rfl
          exact .cons ha (ih.1 has)
        · intro h
          cases h with
          | cons hb hbs =>
            rw [Except.ok.inj (ha.symm.trans hb), Except.ok.inj (has.symm.trans (ih.2 hbs))]

/-- Related element by element, when only related elements count. -/
theorem forall₂_congr_of_mem {β : Type} {s t : α → β → Prop} (as : List α) (h : ∀ a ∈ as, ∀ b, s a b ↔ t a b) :
    ∀ {bs : List β}, as.Forall₂ s bs ↔ as.Forall₂ t bs := by
  induction as with
  | nil =>
    intro bs
    rw [List.forall₂_nil_left_iff, List.forall₂_nil_left_iff]
  | cons a as ih =>
    intro bs
    obtain ⟨ha, has⟩ := List.forall_mem_cons.1 h
    cases bs with
    | nil => exact iff_of_false nofun nofun
    | cons b bs => rw [List.forall₂_cons, List.forall₂_cons, ha b, ih has]

end Decoders

/-! ## Fields -/

namespace Part

variable {α β : Type} {decode : Decoder β} {set : β → α → α} {es : Entries} {name : String} {a b : α}

/-- A part that always has something. -/
def plain (name : String) (decode : Decoder β) (set : β → α → α) (get : α → β) (h : ∀ x a, get (set x a) = x) : Part α :=
  ⟨β, name, decode, set, fun a => some (get a), fun x a => congrArg some (h x a)⟩

theorem holds_plain_iff {get : α → β} {h : ∀ x a, get (set x a) = x} {Is : Value → β → Prop}
    (his : es.At name fun v => ∀ span, decode span v = .ok (get b) ↔ Is v (get b)) :
    (plain name decode set get h).Holds es a b ↔ es.Gives name Is (get a) (get b) := by
  rw [Holds, Entries.Gives]
  cases hget : es.get? name with
  | none =>
    simp only [plain, hget]
    exact Option.some_inj
  | some e =>
    obtain ⟨hmem, hkey⟩ := Entries.mem_of_get? hget
    simp only [plain, hget]
    rw [← his e hmem hkey e.2.1]
    constructor
    · rintro ⟨x, hx, hb⟩
      rwa [Option.some.inj hb]
    · exact fun hx => ⟨_, hx, rfl⟩

/-- The field that a record must have. -/
theorem has_iff_gives {Is : Value → β → Prop} {x y : β} :
    es.Gives name Is x y ∧ (es.get? name).isSome ↔ es.Has name Is y := by
  rw [Entries.Gives, Entries.Has]
  cases hget : es.get? name with
  | none =>
    refine iff_of_false (fun h => nomatch h.2) ?_
    rintro ⟨key, span, v, hsome, -⟩
    cases hsome
  | some e =>
    constructor
    · exact fun h => ⟨e.1, e.2.1, e.2.2, rfl, h.1⟩
    · rintro ⟨_, _, _, ⟨rfl, rfl, rfl⟩, h⟩
      exact ⟨h, rfl⟩

/-- A part that may be empty. -/
def optional (name : String) (decode : Decoder β) (set : β → α → α) (get : α → Option β)
    (h : ∀ x a, get (set x a) = some x) : Part α :=
  ⟨β, name, decode, set, get, h⟩

theorem holds_optional_iff {get : α → Option β} {h : ∀ x a, get (set x a) = some x} {Is : Value → Option β → Prop}
    (his : es.At name fun v => ∀ span, (∃ x, decode span v = .ok x ∧ get b = some x) ↔ Is v (get b)) :
    (optional name decode set get h).Holds es a b ↔ es.Gives name Is (get a) (get b) := by
  rw [Holds, Entries.Gives]
  cases hget : es.get? name with
  | none => simp only [optional, hget]
  | some e =>
    obtain ⟨hmem, hkey⟩ := Entries.mem_of_get? hget
    simp only [optional, hget]
    exact his e hmem hkey e.2.1

theorem apart_iff {p q : Part α} : p.Apart q ↔
    (∀ x a, q.get (p.set x a) = q.get a) ∧ ∀ x a, p.get (q.set x a) = p.get a :=
  ⟨fun h => ⟨h.get_set, h.set_get⟩, fun h => ⟨h.1, h.2⟩⟩

end Part

theorem exists_decodePath_iff {span : Span} {v : Value} {p : Option Path} :
    (∃ x, decodePath span v = .ok x ∧ p = some x) ↔ v.IsPath p := by
  simp only [decodePath_eq_ok_iff]
  constructor
  · rintro ⟨x, hx, rfl⟩
    exact hx
  · rintro ⟨s, rfl, rfl⟩
    exact ⟨⟨s⟩, ⟨s, rfl, rfl⟩, rfl⟩

/-! ## Sections -/

def FileLogging.parts : FileLogging.record.Parts where
  all := [
    .plain "enabled" decodeBoolean (fun b r => { r with enabled := b }) (·.enabled) fun _ _ => rfl,
    .plain "level" decodeText (fun s r => { r with level := s }) (·.level) fun _ _ => rfl,
    .optional "directory" decodePath (fun p r => { r with directory := some p }) (·.directory) fun _ _ => rfl]
  fields_eq := rfl
  distinct := by decide
  apart := by simp [Part.apart_iff, Part.plain, Part.optional]
  Rest := Unit
  rest := fun _ => ()
  rest_set := fun _ _ _ _ => rfl
  ext := by
    rintro ⟨⟩ ⟨⟩ h -
    simpa [Part.plain, Part.optional] using h

theorem FileLogging.decode_table {span : Span} {form : TableForm} {es : Entries} {b : FileLogging} (hes : es.IsDistinct) :
    FileLogging.record.decode {} span (.table form es) = .ok b ↔ b.DescribedBy es := by
  have hparts : (∀ p ∈ parts.all, p.Holds es {} b) ↔ es.Gives "enabled" Value.IsBoolean false b.enabled ∧
      es.Gives "level" Value.IsText "debug" b.level ∧ es.Gives "directory" Value.IsPath none b.directory := by
    simp only [parts, List.forall_mem_cons, List.not_mem_nil, false_imp_iff, implies_true, and_true]
    refine and_congr (Part.holds_plain_iff ?_) (and_congr (Part.holds_plain_iff ?_) (Part.holds_optional_iff ?_))
    · exact fun _ _ _ _ => decodeBoolean_eq_ok_iff
    · exact fun _ _ _ _ => decodeText_eq_ok_iff
    · exact fun _ _ _ _ => exists_decodePath_iff
  rw [parts.decode_table hes.keys]
  constructor
  · intro h
    obtain ⟨henabled, hlevel, hdirectory⟩ := hparts.1 h.parts
    exact ⟨h.known, henabled, hlevel, hdirectory⟩
  · intro h
    exact ⟨h.keys, rfl, hparts.2 ⟨h.enabled, h.level, h.directory⟩, nofun⟩

def Logging.parts : Logging.record.Parts where
  all := [
    .plain "level" decodeText (fun s r => { r with level := s }) (·.level) fun _ _ => rfl,
    .plain "format" decodeText (fun s r => { r with format := s }) (·.format) fun _ _ => rfl,
    .plain "file" (FileLogging.record.decode {}) (fun f r => { r with file := f }) (·.file) fun _ _ => rfl]
  fields_eq := rfl
  distinct := by decide
  apart := by simp [Part.apart_iff, Part.plain]
  Rest := Unit
  rest := fun _ => ()
  rest_set := fun _ _ _ _ => rfl
  ext := by
    rintro ⟨⟩ ⟨⟩ h -
    simpa [Part.plain] using h

theorem Logging.decode_table {span : Span} {form : TableForm} {es : Entries} {b : Logging} (hes : es.IsDistinct)
    (hfile : es.At "file" (Value.IsTableWith fun _ => True)) :
    Logging.record.decode {} span (.table form es) = .ok b ↔ b.DescribedBy es := by
  have hparts : (∀ p ∈ parts.all, p.Holds es {} b) ↔ es.Gives "level" Value.IsText "warn" b.level ∧
      es.Gives "format" Value.IsText "pretty" b.format ∧
      es.Gives "file" (Value.IsRecord FileLogging.DescribedBy) ⟨false, "debug", none⟩ b.file := by
    simp only [parts, List.forall_mem_cons, List.not_mem_nil, false_imp_iff, implies_true, and_true]
    refine and_congr (Part.holds_plain_iff ?_) (and_congr (Part.holds_plain_iff ?_) (Part.holds_plain_iff ?_))
    · exact fun _ _ _ _ => decodeText_eq_ok_iff
    · exact fun _ _ _ _ => decodeText_eq_ok_iff
    · intro e he hname span
      exact decode_eq_ok_iff (fun _ _ _ hdistinct _ => FileLogging.decode_table hdistinct) (hes.values e he)
        (hfile e he hname)
  rw [parts.decode_table hes.keys]
  constructor
  · intro h
    obtain ⟨hlevel, hformat, hfile⟩ := hparts.1 h.parts
    exact ⟨h.known, hlevel, hformat, hfile⟩
  · intro h
    exact ⟨h.keys, rfl, hparts.2 ⟨h.level, h.format, h.file⟩, nofun⟩

def LuaOptions.parts : LuaOptions.record.Parts where
  all := [
    .plain "open_standard_libraries" decodeBoolean (fun b r => { r with openStandardLibraries := b })
      (·.openStandardLibraries) fun _ _ => rfl,
    .plain "auto_run" decodeBoolean (fun b r => { r with autoRun := b }) (·.autoRun) fun _ _ => rfl]
  fields_eq := rfl
  distinct := by decide
  apart := by simp [Part.apart_iff, Part.plain]
  Rest := Unit
  rest := fun _ => ()
  rest_set := fun _ _ _ _ => rfl
  ext := by
    rintro ⟨⟩ ⟨⟩ h -
    simpa [Part.plain] using h

theorem LuaOptions.decode_table {span : Span} {form : TableForm} {es : Entries} {b : LuaOptions} (hes : es.IsDistinct) :
    LuaOptions.record.decode {} span (.table form es) = .ok b ↔ b.DescribedBy es := by
  have hparts : (∀ p ∈ parts.all, p.Holds es {} b) ↔
      es.Gives "open_standard_libraries" Value.IsBoolean true b.openStandardLibraries ∧
      es.Gives "auto_run" Value.IsBoolean true b.autoRun := by
    simp only [parts, List.forall_mem_cons, List.not_mem_nil, false_imp_iff, implies_true, and_true]
    refine and_congr (Part.holds_plain_iff ?_) (Part.holds_plain_iff ?_)
    · exact fun _ _ _ _ => decodeBoolean_eq_ok_iff
    · exact fun _ _ _ _ => decodeBoolean_eq_ok_iff
  rw [parts.decode_table hes.keys]
  constructor
  · intro h
    obtain ⟨hopen, hrun⟩ := hparts.1 h.parts
    exact ⟨h.known, hopen, hrun⟩
  · intro h
    exact ⟨h.keys, rfl, hparts.2 ⟨h.openStandardLibraries, h.autoRun⟩, nofun⟩

def PythonOptions.parts : PythonOptions.record.Parts where
  all := [.plain "own_gil" decodeBoolean (fun b r => { r with ownLock := b }) (·.ownLock) fun _ _ => rfl]
  fields_eq := rfl
  distinct := by decide
  apart := List.pairwise_singleton _ _
  Rest := Unit
  rest := fun _ => ()
  rest_set := fun _ _ _ _ => rfl
  ext := by
    rintro ⟨⟩ ⟨⟩ h -
    simpa [Part.plain] using h

theorem PythonOptions.decode_table {span : Span} {form : TableForm} {es : Entries} {b : PythonOptions}
    (hes : es.IsDistinct) : PythonOptions.record.decode {} span (.table form es) = .ok b ↔ b.DescribedBy es := by
  have hparts : (∀ p ∈ parts.all, p.Holds es {} b) ↔ es.Gives "own_gil" Value.IsBoolean true b.ownLock := by
    simp only [parts, List.forall_mem_cons, List.not_mem_nil, false_imp_iff, implies_true, and_true]
    exact Part.holds_plain_iff fun _ _ _ _ => decodeBoolean_eq_ok_iff
  rw [parts.decode_table hes.keys]
  exact ⟨fun h => ⟨h.known, hparts.1 h.parts⟩, fun h => ⟨h.keys, rfl, hparts.2 h.ownLock, nofun⟩⟩

def Entry.parts : Entry.record.Parts where
  all := [
    .plain "name" decodeText (fun s r => { r with name := s }) (·.name) fun _ _ => rfl,
    .plain "kind" decodeKind (fun k r => { r with kind := k }) (·.kind) fun _ _ => rfl,
    .optional "path" decodePath (fun p r => { r with path := some p }) (·.path) fun _ _ => rfl,
    .plain "crash_guard" decodeBoolean (fun b r => { r with crashGuard := b }) (·.crashGuard) fun _ _ => rfl,
    .plain "optional" decodeBoolean (fun b r => { r with optional := b }) (·.optional) fun _ _ => rfl]
  fields_eq := rfl
  distinct := by decide
  apart := by simp [Part.apart_iff, Part.plain, Part.optional]
  Rest := Unit
  rest := fun _ => ()
  rest_set := fun _ _ _ _ => rfl
  ext := by
    rintro ⟨⟩ ⟨⟩ h -
    simpa [Part.plain, Part.optional] using h

/-- What an entry starts as; its name and its kind have to be given. -/
def Entry.blank : Entry := ⟨"", .fallback, none, false, false⟩

theorem Entry.decode_table {span : Span} {form : TableForm} {es : Entries} {b : Entry} (hes : es.IsDistinct)
    (hkind : es.At "kind" fun v => ∀ form es, v ≠ .table form es) :
    Entry.record.decode blank span (.table form es) = .ok b ↔ b.DescribedBy es := by
  have hparts : (∀ p ∈ parts.all, p.Holds es blank b) ↔ es.Gives "name" Value.IsText "" b.name ∧
      es.Gives "kind" Value.IsKind .fallback b.kind ∧ es.Gives "path" Value.IsPath none b.path ∧
      es.Gives "crash_guard" Value.IsBoolean false b.crashGuard ∧ es.Gives "optional" Value.IsBoolean false b.optional := by
    simp only [parts, List.forall_mem_cons, List.not_mem_nil, false_imp_iff, implies_true, and_true]
    refine and_congr (Part.holds_plain_iff ?_) (and_congr (Part.holds_plain_iff ?_) (and_congr
      (Part.holds_optional_iff ?_) (and_congr (Part.holds_plain_iff ?_) (Part.holds_plain_iff ?_))))
    · exact fun _ _ _ _ => decodeText_eq_ok_iff
    · exact fun e he hname _ => decodeKind_eq_ok_iff (hkind e he hname)
    · exact fun _ _ _ _ => exists_decodePath_iff
    · exact fun _ _ _ _ => decodeBoolean_eq_ok_iff
    · exact fun _ _ _ _ => decodeBoolean_eq_ok_iff
  have hrequired : Entry.record.fieldNames.take Entry.record.required = ["name", "kind"] := rfl
  rw [parts.decode_table hes.keys]
  constructor
  · intro h
    obtain ⟨hname, hkind, hpath, hguard, hoptional⟩ := hparts.1 h.parts
    have hthere := h.required
    rw [hrequired] at hthere
    refine ⟨h.known, Part.has_iff_gives.1 ⟨hname, hthere "name" (by decide)⟩,
      Part.has_iff_gives.1 ⟨hkind, hthere "kind" (by decide)⟩, hpath, hguard, hoptional⟩
  · intro h
    obtain ⟨hname, hname'⟩ := (Part.has_iff_gives (x := "")).2 h.name
    obtain ⟨hkind, hkind'⟩ := (Part.has_iff_gives (x := PluginKind.fallback)).2 h.kind
    refine ⟨h.keys, rfl, hparts.2 ⟨hname, hkind, h.path, h.crashGuard, h.optional⟩, ?_⟩
    rw [hrequired, List.forall_mem_cons, List.forall_mem_singleton]
    exact ⟨hname', hkind'⟩

/-- The entries of a manifest. -/
theorem decodePlugins_eq_ok_iff {span : Span} {v : Value} {bs : List Entry} (hv : v.IsDistinct)
    (hplain : ∀ ofTables items, v = .array ofTables items → ∀ item ∈ items,
      item.2.IsTableWith fun es => es.At "kind" fun v => ∀ form es, v ≠ .table form es) :
    decodePlugins span v = .ok bs ↔ v.AreRecords Entry.DescribedBy bs := by
  unfold decodePlugins
  split
  · next ofTables items =>
    have hitems : ∀ item ∈ items, item.2.IsDistinct := by
      cases hv with
      | leaf hleaf => cases hleaf
      | array hitems => exact hitems
    have hiff : ∀ item ∈ items, ∀ b, Entry.record.decode Entry.blank item.1 item.2 = .ok b ↔
        item.2.IsRecord Entry.DescribedBy b := by
      intro item hitem b
      exact decode_eq_ok_iff (fun _ _ _ => Entry.decode_table) (hitems item hitem) (hplain _ _ rfl item hitem)
    refine (mapM_eq_ok_iff items).trans ((forall₂_congr_of_mem items hiff).trans ?_)
    constructor
    · exact fun h => ⟨ofTables, items, rfl, h⟩
    · rintro ⟨_, _, ⟨rfl, rfl⟩, h⟩
      exact h
  · next hv =>
    refine iff_of_false refuseType_ne_ok ?_
    rintro ⟨ofTables, items, rfl, -⟩
    exact hv _ _ rfl

def Config.parts : Config.record.Parts where
  all := [
    .plain "logging" (Logging.record.decode {}) (fun s c => { c with logging := s }) (·.logging) fun _ _ => rfl,
    .plain "lua" (LuaOptions.record.decode {}) (fun s c => { c with lua := s }) (·.lua) fun _ _ => rfl,
    .plain "python" (PythonOptions.record.decode {}) (fun s c => { c with python := s }) (·.python) fun _ _ => rfl,
    .plain "plugins" decodePlugins (fun es c => { c with plugins := es }) (·.plugins) fun _ _ => rfl]
  fields_eq := rfl
  distinct := by decide
  apart := by simp [Part.apart_iff, Part.plain]
  Rest := Option Path
  rest := (·.baseDirectory)
  rest_set := by simp [Part.plain]
  ext := by
    rintro ⟨logging, lua, python, plugins, base⟩ ⟨logging', lua', python', plugins', base'⟩ h hbase
    obtain rfl : base = base' := hbase
    simpa [Part.plain] using h

/-- A document is decoded to what it describes. -/
theorem Config.ofEntries_eq_ok_iff {es : Entries} {c : Config} (hes : es.IsDistinct) (hplain : es.IsPlain) :
    Config.ofEntries es = .ok c ↔ c.DescribedBy es := by
  have hparts : (∀ p ∈ parts.all, p.Holds es {} c) ↔
      es.Gives "logging" (Value.IsRecord Logging.DescribedBy) ⟨"warn", "pretty", ⟨false, "debug", none⟩⟩ c.logging ∧
      es.Gives "lua" (Value.IsRecord LuaOptions.DescribedBy) ⟨true, true⟩ c.lua ∧
      es.Gives "python" (Value.IsRecord PythonOptions.DescribedBy) ⟨true⟩ c.python ∧
      es.Gives "plugins" (Value.AreRecords Entry.DescribedBy) [] c.plugins := by
    simp only [parts, List.forall_mem_cons, List.not_mem_nil, false_imp_iff, implies_true, and_true]
    refine and_congr (Part.holds_plain_iff ?_) (and_congr (Part.holds_plain_iff ?_) (and_congr
      (Part.holds_plain_iff ?_) (Part.holds_plain_iff ?_)))
    · intro e he hname span
      exact decode_eq_ok_iff (fun _ _ _ => Logging.decode_table) (hes.values e he) (hplain.logging e he hname)
    · intro e he hname span
      exact decode_eq_ok_iff (fun _ _ _ hdistinct _ => LuaOptions.decode_table hdistinct) (hes.values e he)
        (hplain.lua e he hname)
    · intro e he hname span
      exact decode_eq_ok_iff (fun _ _ _ hdistinct _ => PythonOptions.decode_table hdistinct) (hes.values e he)
        (hplain.python e he hname)
    · intro e he hname span
      exact decodePlugins_eq_ok_iff (hes.values e he) (hplain.plugins e he hname)
  rw [ofEntries, parts.putEntries_sorted hes.keys, hparts]
  constructor
  · rintro ⟨hknown, hbase, hlogging, hlua, hpython, hplugins⟩
    exact ⟨hknown, hlogging, hlua, hpython, hplugins, hbase⟩
  · intro h
    exact ⟨h.keys, h.baseDirectory, h.logging, h.lua, h.python, h.plugins⟩

end PluginHost.Manifest
