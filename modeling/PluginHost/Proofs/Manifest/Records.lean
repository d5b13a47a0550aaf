import Mathlib.Data.List.Nodup
import Mathlib.Data.List.Pairwise
import PluginHost.Manifest.Decode
import PluginHost.Proofs.Manifest.Trees

/-!
# Records

A record is made of parts, each of which one field sets and no other field touches (`Record.Parts`). So the entries of a table
may come in any order: `Record.Parts.decode_table` says that a table decodes to what has in each part what the field of that
part says, or what was there before if the table does not have the field.
-/

namespace PluginHost.Manifest

/-! ## Tables -/

namespace Entries

variable {es es' : Entries} {name : String} {e : Key × Span × Value}

/-- With distinct keys, the entry of a key is the one that has the key. -/
theorem get?_eq_some_iff (hes : (es.map (·.1.name)).Nodup) : es.get? name = some e ↔ e ∈ es ∧ e.1.name = name := by
  refine ⟨mem_of_get?, ?_⟩
  rintro ⟨he, rfl⟩
  cases hget : es.get? e.1.name with
  | none => exact absurd (List.mem_map_of_mem he) (get?_eq_none_iff.1 hget)
  | some e' =>
    obtain ⟨he', hname⟩ := mem_of_get? hget
    exact congrArg some (List.inj_on_of_nodup_map hes he' he hname)

/-- The order of entries does not count. -/
theorem get?_perm (hes : (es.map (·.1.name)).Nodup) (hperm : es.Perm es') (name : String) :
    es.get? name = es'.get? name := by
  refine Option.ext fun e => ?_
  rw [get?_eq_some_iff hes, get?_eq_some_iff ((hperm.map _).nodup_iff.1 hes), hperm.mem_iff]

theorem sorted_perm (es : Entries) : es.sorted.Perm es := List.mergeSort_perm es _

end Entries

/-! ## Parts of a record -/

/-- A part of a record, with the field that sets it and what is there, if anything is. -/
structure Part (α : Type) where
  Item : Type
  name : String
  decode : Decoder Item
  set : Item → α → α
  get : α → Option Item
  get_set : ∀ x a, get (set x a) = some x

/-- The field that sets a part. -/
def Part.field {α : Type} (p : Part α) : Field α := .of p.name p.decode p.set

/-- No field of one part changes the other part. -/
structure Part.Apart {α : Type} (p q : Part α) : Prop where
  get_set : ∀ x a, q.get (p.set x a) = q.get a
  set_get : ∀ x a, p.get (q.set x a) = p.get a

instance {α : Type} : Std.Symm (Part.Apart (α := α)) := ⟨fun _ _ h => ⟨h.set_get, h.get_set⟩⟩

/-- A record is what its parts are, and a rest that no field changes. -/
structure Record.Parts {α : Type} (r : Record α) where
  all : List (Part α)
  fields_eq : r.fields = all.map Part.field
  distinct : (all.map Part.name).Nodup
  apart : all.Pairwise Part.Apart
  Rest : Type
  rest : α → Rest
  rest_set : ∀ p ∈ all, ∀ x a, rest (p.set x a) = rest a
  ext : ∀ a b, (∀ p ∈ all, p.get a = p.get b) → rest a = rest b → a = b

/-- What a table says of a part of the record `b`: what its field says, or that it is as in `a` if there is no such field. -/
def Part.Holds {α : Type} (p : Part α) (es : Entries) (a b : α) : Prop :=
  match es.get? p.name with
  | none => p.get b = p.get a
  | some (_, span, v) => ∃ x, p.decode span v = .ok x ∧ p.get b = some x

namespace Record.Parts

variable {α : Type} {r : Record α} (ps : r.Parts) {p q : Part α} {a b : α} {es es' : Entries} {key : Key} {span : Span}
  {v : Value}

include ps

theorem fieldNames_eq : r.fieldNames = ps.all.map Part.name := by
  rw [fieldNames, ps.fields_eq, List.map_map]
  rfl

theorem find?_fields (name : String) : r.fields.find? (·.name = name) = (ps.all.find? (·.name = name)).map Part.field := by
  rw [ps.fields_eq, List.find?_map]
  rfl

theorem eq_of_name (hp : p ∈ ps.all) (hq : q ∈ ps.all) (h : p.name = q.name) : p = q :=
  List.inj_on_of_nodup_map ps.distinct hp hq h

/-- Setting one part leaves the others alone. -/
theorem get_set_of_ne (hp : p ∈ ps.all) (hq : q ∈ ps.all) (h : p ≠ q) (x : p.Item) (a : α) :
    q.get (p.set x a) = q.get a :=
  (ps.apart.forall hp hq h).get_set x a

/-- What is in the first entry of a table sets its part, and the others are for the rest of the table to set. -/
theorem holds_cons_iff (hp : p ∈ ps.all) (hq : q ∈ ps.all) (hkey : key.name = p.name) {x : p.Item}
    (hx : p.decode span v = .ok x) (hnew : es.get? key.name = none) :
    q.Holds ((key, span, v) :: es) a b ↔ q.Holds es (p.set x a) b := by
  by_cases hpq : p = q
  · subst hpq
    have hcons : Entries.get? ((key, span, v) :: es) p.name = some (key, span, v) :=
      List.find?_cons_of_pos (decide_eq_true hkey)
    have hrest : Entries.get? es p.name = none := hkey ▸ hnew
    rw [Part.Holds, Part.Holds, hcons, hrest, p.get_set]
    constructor
    · rintro ⟨x', hx', hb⟩
      obtain rfl := Except.ok.inj (hx.symm.trans hx')
      exact hb
    · exact fun hb => ⟨x, hx, hb⟩
  · have hne : ¬key.name = q.name := fun h => hpq (ps.eq_of_name hp hq (hkey.symm.trans h))
    have hcons : Entries.get? ((key, span, v) :: es) q.name = es.get? q.name :=
      List.find?_cons_of_neg (by simpa using hne)
    rw [Part.Holds, Part.Holds, hcons, ps.get_set_of_ne hp hq hpq]

/-- Putting the entries of a table into a record, one after the other. -/
theorem putEntries_eq_ok_iff : ∀ {es : Entries} {a : α}, (es.map (·.1.name)).Nodup → (r.putEntries a es = .ok b ↔
    (∀ e ∈ es, e.1.name ∈ r.fieldNames) ∧ ps.rest b = ps.rest a ∧ ∀ p ∈ ps.all, p.Holds es a b)
  | [], a, _ => by
    constructor
    · intro h
      obtain rfl := Except.ok.inj h
      exact ⟨nofun, rfl, fun _ _ => rfl⟩
    · rintro ⟨-, hrest, hall⟩
      exact congrArg Except.ok (ps.ext a b (fun p hp => (hall p hp).symm) hrest.symm)
  | (key, span, v) :: es, a, hes => by
    obtain ⟨hnew, hes⟩ := List.nodup_cons.1 hes
    have hnew : Entries.get? es key.name = none := Entries.get?_eq_none_iff.2 hnew
    rw [putEntries, ps.find?_fields]
    cases hfind : ps.all.find? (·.name = key.name) with
    | none =>
      refine iff_of_false nofun fun h => ?_
      have hmem := h.1 (key, span, v) List.mem_cons_self
      rw [ps.fieldNames_eq, List.mem_map] at hmem
      obtain ⟨p, hp, hname⟩ := hmem
      exact List.find?_eq_none.1 hfind p hp (decide_eq_true hname)
    | some p =>
      have hp : p ∈ ps.all := List.mem_of_find?_eq_some hfind
      have hkey : key.name = p.name := by
        have := List.find?_some hfind
        exact (by simpa using this : p.name = key.name).symm
      have hknown : key.name ∈ r.fieldNames := by
        rw [ps.fieldNames_eq, hkey]
        exact List.mem_map_of_mem hp
      cases hx : p.decode span v with
      | error refusal =>
        have hput : p.field.put span v a = .error refusal := by
          show (p.decode span v >>= _) = _
          rw [hx]
          rfl
        refine iff_of_false ?_ fun h => ?_
        · dsimp only [Option.map_some]
          rw [hput]
          exact nofun
        · have hholds := h.2.2 p hp
          rw [Part.Holds, show Entries.get? ((key, span, v) :: es) p.name = some (key, span, v) from
            List.find?_cons_of_pos (decide_eq_true hkey)] at hholds
          obtain ⟨x, hok, -⟩ := hholds
          cases hx.symm.trans hok
      | ok x =>
        have hput : p.field.put span v a = .ok (p.set x a) := by
          show (p.decode span v >>= _) = _
          rw [hx]
          rfl
        dsimp only [Option.map_some]
        rw [hput]
        show r.putEntries (p.set x a) es = .ok b ↔ _
        rw [putEntries_eq_ok_iff hes, ps.rest_set p hp, List.forall_mem_cons, and_iff_right hknown]
        refine and_congr_right fun _ => and_congr_right fun _ => forall₂_congr fun q hq => ?_
        exact (ps.holds_cons_iff hp hq hkey hx hnew).symm

/-- Putting the entries of a table into a record in the order of their keys, which is as good as any. -/
theorem putEntries_sorted (hes : (es.map (·.1.name)).Nodup) : r.putEntries a es.sorted = .ok b ↔
    (∀ e ∈ es, e.1.name ∈ r.fieldNames) ∧ ps.rest b = ps.rest a ∧ ∀ p ∈ ps.all, p.Holds es a b := by
  have hperm := es.sorted_perm
  have hsorted : (es.sorted.map (·.1.name)).Nodup := (hperm.map _).nodup_iff.2 hes
  have hget := fun name => es.get?_perm hes hperm.symm name
  rw [ps.putEntries_eq_ok_iff hsorted]
  simp only [Part.Holds, ← hget, hperm.mem_iff]

/-- What a table says of a record that starts as `a`: all its keys are fields, those that are required are there, and each
part is what its field says. -/
structure Reads (es : Entries) (a b : α) : Prop where
  known : ∀ e ∈ es, e.1.name ∈ r.fieldNames
  rest : ps.rest b = ps.rest a
  parts : ∀ p ∈ ps.all, p.Holds es a b
  required : ∀ name ∈ r.fieldNames.take r.required, (es.get? name).isSome

/-- Decoding a table. -/
theorem decode_table (hes : (es.map (·.1.name)).Nodup) (form : TableForm) :
    r.decode a span (.table form es) = .ok b ↔ ps.Reads es a b := by
  have hdecode : r.decode a span (.table form es) = .ok b ↔ r.putEntries a es.sorted = .ok b ∧
      ∀ name ∈ r.fieldNames.take r.required, (es.get? name).isSome := by
    rw [decode]
    cases r.putEntries a es.sorted with
    | error refusal => exact iff_of_false nofun nofun
    | ok result =>
      dsimp only [bind, Except.bind]
      split
      · next name hfind =>
        refine iff_of_false nofun fun h => ?_
        have hthere := h.2 name (List.mem_of_find?_eq_some hfind)
        have hmissing : (es.get? name).isNone := by
          have := List.find?_some hfind
          exact this
        rw [Option.isNone_iff_eq_none.1 hmissing] at hthere
        cases hthere
      · next hfind =>
        rw [List.find?_eq_none] at hfind
        refine (and_iff_left fun name hname => ?_).symm
        exact Option.isSome_iff_ne_none.2 (by simpa using hfind name hname)
  rw [hdecode, ps.putEntries_sorted hes]
  exact ⟨fun h => ⟨h.1.1, h.1.2.1, h.1.2.2, h.2⟩, fun h => ⟨⟨h.known, h.rest, h.parts⟩, h.required⟩⟩

end Record.Parts

end PluginHost.Manifest
