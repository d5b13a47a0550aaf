import Mathlib.Data.List.Basic
import PluginHost.Manifest.Reader

/-!
# Keys of documents

However the lines of a document are put together, no table of its tree has two entries with one key: a value is only put
where its key is new, and everything else changes the value of a key in place. `isDistinct_readDocument` says so of every
document that is read.
-/

namespace PluginHost.Manifest

/-! ## Trees -/

/-- Whether a value is no array and no table. -/
def Value.isLeaf : Value → Bool
  | .array _ _ | .table _ _ => false
  | _ => true

/-- No table in the value has two entries with one key. -/
inductive Value.IsDistinct : Value → Prop
  | leaf {v : Value} (hv : v.isLeaf) : v.IsDistinct
  | array {ofTables : Bool} {items : List (Span × Value)} (hitems : ∀ item ∈ items, item.2.IsDistinct) :
    (Value.array ofTables items).IsDistinct
  | table {form : TableForm} {es : Entries} (hkeys : (es.map (·.1.name)).Nodup)
    (hvalues : ∀ e ∈ es, e.2.2.IsDistinct) : (Value.table form es).IsDistinct

namespace Entries

/-- No two of the entries have one key, and neither has any table in them. -/
structure IsDistinct (es : Entries) : Prop where
  keys : (es.map (·.1.name)).Nodup
  values : ∀ e ∈ es, e.2.2.IsDistinct

variable {es inner : Entries} {key : Key} {name : String} {span : Span} {v : Value} {e : Key × Span × Value}

theorem isDistinct_nil : IsDistinct [] := ⟨List.nodup_nil, nofun⟩

theorem IsDistinct.table (h : es.IsDistinct) (form : TableForm) : (Value.table form es).IsDistinct :=
  .table h.keys h.values

theorem mem_of_get? (h : es.get? name = some e) : e ∈ es ∧ e.1.name = name := by
  have hname := List.find?_some h
  exact ⟨List.mem_of_find?_eq_some h, by simpa using hname⟩

theorem get?_eq_none_iff : es.get? name = none ↔ name ∉ es.map (·.1.name) := by
  rw [get?, List.find?_eq_none, List.mem_map]
  constructor
  · rintro h ⟨e, he, hname⟩
    exact h e he (decide_eq_true hname)
  · rintro h e he hname
    exact h ⟨e, he, of_decide_eq_true hname⟩

/-- An entry with a new key. -/
theorem IsDistinct.append (h : es.IsDistinct) (hnew : es.get? key.name = none) (hv : v.IsDistinct) :
    IsDistinct (es ++ [(key, span, v)]) := by
  rw [get?_eq_none_iff] at hnew
  refine ⟨?_, ?_⟩
  · rw [List.map_append, List.nodup_append]
    refine ⟨h.keys, List.pairwise_singleton _ _, ?_⟩
    rintro name hmem name' hmem' rfl
    obtain rfl := List.mem_singleton.1 hmem'
    exact hnew hmem
  · intro e he
    rcases List.mem_append.1 he with he | he
    · exact h.values e he
    · obtain rfl := List.mem_singleton.1 he
      exact hv

/-- Another value for a key. -/
theorem IsDistinct.set (h : es.IsDistinct) (hv : v.IsDistinct) : (es.set name span v).IsDistinct := by
  refine ⟨?_, ?_⟩
  · have hkeys : (es.set name span v).map (·.1.name) = es.map (·.1.name) := by
      rw [Entries.set, List.map_map]
      refine List.map_congr_left fun e _ => ?_
      simp only [Function.comp]
      split <;> rfl
    rw [hkeys]
    exact h.keys
  · intro e he
    obtain ⟨e', he', rfl⟩ := List.mem_map.1 he
    split
    · exact hv
    · exact h.values e' he'

/-- The entries of a table in the tree. -/
theorem IsDistinct.ofTable (h : es.IsDistinct) {form : TableForm} (he : es.get? name = some (key, span, .table form inner)) :
    inner.IsDistinct := by
  have := h.values _ (mem_of_get? he).1
  cases this with
  | leaf hv => cases hv
  | table hkeys hvalues => exact ⟨hkeys, hvalues⟩

/-- The items of an array in the tree. -/
theorem IsDistinct.ofArray (h : es.IsDistinct) {ofTables : Bool} {items : List (Span × Value)}
    (he : es.get? name = some (key, span, .array ofTables items)) : ∀ item ∈ items, item.2.IsDistinct := by
  have := h.values _ (mem_of_get? he).1
  cases this with
  | leaf hv => cases hv
  | array hitems => exact hitems

end Entries

variable {es es' inner : Entries} {span at_ : Span} {v : Value} {items : List (Span × Value)} {ofTables ofArray : Bool}

/-- The last table of an array, and the array with another one in its place. -/
theorem isDistinct_of_getLast? (ofTables : Bool) {form : TableForm} (hitems : ∀ item ∈ items, item.2.IsDistinct)
    (hlast : items.getLast? = some (at_, .table form inner)) : inner.IsDistinct ∧
      ∀ inner' : Entries, inner'.IsDistinct →
        (Value.array ofTables (items.dropLast ++ [(at_, .table form inner')])).IsDistinct := by
  refine ⟨?_, fun inner' h => .array fun item hitem => ?_⟩
  · have := hitems _ (List.mem_of_getLast? hlast)
    cases this with
    | leaf hv => cases hv
    | table hkeys hvalues => exact ⟨hkeys, hvalues⟩
  · rcases List.mem_append.1 hitem with hitem | hitem
    · exact hitems item (List.dropLast_subset items hitem)
    · obtain rfl := List.mem_singleton.1 hitem
      exact h.table form

/-! ## Changing a tree -/

/-- Putting a value under a dotted key. -/
theorem isDistinct_putDotted? (hv : v.IsDistinct) (path : List Key) : ∀ {es es' : Entries}, es.IsDistinct →
    es.putDotted? path span v = some es' → es'.IsDistinct := by
  induction path with
  | nil => exact fun _ h => nomatch h
  | cons key path ih =>
    intro es es' hes h
    cases path with
    | nil =>
      rw [Entries.putDotted?] at h
      split at h
      · cases h
      · next hnew =>
        obtain rfl := Option.some.inj h
        exact hes.append (by simpa using hnew) hv
    | cons next path =>
      rw [Entries.putDotted?] at h
      split at h
      · next hnew =>
        obtain ⟨inner, hinner, hes'⟩ := Option.bind_eq_some_iff.1 h
        obtain rfl := Option.some.inj hes'
        exact hes.append hnew ((ih Entries.isDistinct_nil hinner).table _)
      · next hget =>
        split at h
        · obtain ⟨inner, hinner, hes'⟩ := Option.bind_eq_some_iff.1 h
          obtain rfl := Option.some.inj hes'
          exact hes.set ((ih (hes.ofTable hget) hinner).table _)
        · cases h
      · next hget =>
        split at h
        · next hlast =>
          obtain ⟨hinner, hothers⟩ := isDistinct_of_getLast? true (hes.ofArray hget) hlast
          split at h
          · cases h
          · obtain ⟨inner, hput, hes'⟩ := Option.bind_eq_some_iff.1 h
            obtain rfl := Option.some.inj hes'
            exact hes.set (hothers inner (ih hinner hput))
        · cases h
      · cases h

/-- Changing the entries at the end of a path, if the change keeps keys apart. -/
theorem isDistinct_changeAt? {change : Entries → Option Entries}
    (hchange : ∀ {es es'}, es.IsDistinct → change es = some es' → es'.IsDistinct) (path : List Key) :
    ∀ {es es' : Entries}, es.IsDistinct → es.changeAt? path change = some es' → es'.IsDistinct := by
  induction path with
  | nil => exact hchange
  | cons key path ih =>
    intro es es' hes h
    rw [Entries.changeAt?] at h
    split at h
    · next hnew =>
      obtain ⟨inner, hinner, hes'⟩ := Option.bind_eq_some_iff.1 h
      obtain rfl := Option.some.inj hes'
      exact hes.append hnew ((ih Entries.isDistinct_nil hinner).table _)
    · next hget =>
      split at h
      · cases h
      · obtain ⟨inner, hinner, hes'⟩ := Option.bind_eq_some_iff.1 h
        obtain rfl := Option.some.inj hes'
        exact hes.set ((ih (hes.ofTable hget) hinner).table _)
    · next hget =>
      split at h
      · next hlast =>
        obtain ⟨hinner, hothers⟩ := isDistinct_of_getLast? true (hes.ofArray hget) hlast
        obtain ⟨inner, hput, hes'⟩ := Option.bind_eq_some_iff.1 h
        obtain rfl := Option.some.inj hes'
        exact hes.set (hothers inner (ih hinner hput))
      · cases h
    · cases h

/-- Opening a table with a header. -/
theorem isDistinct_open? {key : Key} (hes : es.IsDistinct) (h : es.open? ofArray key span = some es') :
    es'.IsDistinct := by
  have hfresh : (Value.table .header []).IsDistinct := Entries.isDistinct_nil.table _
  rw [Entries.open?] at h
  split at h
  · next hnew =>
    obtain rfl := Option.some.inj h
    refine hes.append hnew ?_
    split
    · exact .array fun item hitem => List.mem_singleton.1 hitem ▸ hfresh
    · exact hfresh
  · next hget =>
    split at h
    · obtain rfl := Option.some.inj h
      refine hes.set (.array fun item hitem => ?_)
      rcases List.mem_append.1 hitem with hitem | hitem
      · exact hes.ofArray hget item hitem
      · exact List.mem_singleton.1 hitem ▸ hfresh
    · cases h
  · next hget =>
    split at h
    · cases h
    · obtain rfl := Option.some.inj h
      exact hes.set ((hes.ofTable hget).table _)
  · cases h

/-- The values in a line. -/
def Statement.IsDistinct : Statement → Prop
  | .header _ _ _ => True
  | .pair _ _ v => v.IsDistinct

theorem isDistinct_add? {d d' : Draft} {line : Statement} (hd : d.root.IsDistinct) (hline : line.IsDistinct)
    (h : d.add? line = some d') : d'.root.IsDistinct := by
  cases line with
  | header ofArray path span =>
    obtain ⟨key, -, h⟩ := Option.bind_eq_some_iff.1 h
    obtain ⟨root, hroot, hd'⟩ := Option.bind_eq_some_iff.1 h
    obtain rfl := Option.some.inj hd'
    exact isDistinct_changeAt? isDistinct_open? _ hd hroot
  | pair path span v =>
    obtain ⟨root, hroot, hd'⟩ := Option.bind_eq_some_iff.1 h
    obtain rfl := Option.some.inj hd'
    exact isDistinct_changeAt? (isDistinct_putDotted? hline path) _ hd hroot

/-! ## Reading a tree -/

/-- All results of a reader have a property. -/
def Reader.Yields {α : Type} (m : Reader α) (p : α → Prop) : Prop := ∀ c a c',
  StateT.run m c = .ok (a, c') → p a

namespace Reader

variable {α β : Type} {m : Reader α} {f : α → Reader β} {p : α → Prop} {q : β → Prop}

theorem Yields.any (m : Reader α) : m.Yields fun _ => True := fun _ _ _ _ => trivial

theorem Yields.pure {a : α} (h : p a) : (Pure.pure a : Reader α).Yields p := by
  intro c a' c' hrun
  obtain ⟨rfl, rfl⟩ := Prod.mk.inj (Except.ok.inj hrun)
  exact h

theorem Yields.bind (hm : m.Yields p) (hf : ∀ a, p a → (f a).Yields q) : (m >>= f).Yields q := by
  intro c b c' hrun
  rw [StateT.run_bind] at hrun
  cases hm' : StateT.run m c with
  | error fault =>
    rw [hm'] at hrun
    cases hrun
  | ok r =>
    rw [hm'] at hrun
    exact hf r.1 (hm c r.1 r.2 hm') r.2 b c' hrun

theorem Yields.after (m : Reader α) (hf : ∀ a, (f a).Yields q) : (m >>= f).Yields q := .bind (.any m) fun a _ => hf a

theorem fail_yields : (fail : Reader α).Yields p := fun _ _ _ hrun => nomatch hrun

end Reader

/-! ## Words -/

theorem isLeaf_integerValue (n : Int) : (integerValue n).isLeaf := by
  unfold integerValue
  split <;> rfl

theorem isLeaf_basedValue? {base : Nat} {isDigit : Char → Bool} {cs : List Char} {v : Value}
    (h : basedValue? base isDigit cs = some v) : v.isLeaf := by
  unfold basedValue? at h
  split at h
  · obtain rfl := Option.some.inj h
    rfl
  · obtain ⟨ds, -, rfl⟩ := Option.map_eq_some_iff.1 h
    exact isLeaf_integerValue _

theorem isLeaf_based? {cs : List Char} {v : Value} (h : based? cs = some v) : v.isLeaf := by
  unfold based? at h
  split at h
  · exact isLeaf_basedValue? h
  · exact isLeaf_basedValue? h
  · exact isLeaf_basedValue? h
  · cases h

theorem isLeaf_decimalValue? {cs : List Char} {v : Value} (h : decimalValue? cs = some v) : v.isLeaf := by
  have hvalue : ∀ (negative : Bool) (ds : List Char), (if !ds.isEmpty && ds.all Char.isDigit then
      integerValue (if negative then -(digitsValue 10 ds : Int) else digitsValue 10 ds) else .unfit).isLeaf := by
    intro negative ds
    split
    · exact isLeaf_integerValue _
    · rfl
  unfold decimalValue? at h
  dsimp only at h
  split at h
  · cases h
  · obtain rfl := Option.some.inj h
    exact hvalue _ _
  · cases h
  · obtain rfl := Option.some.inj h
    exact hvalue _ _
  · split at h
    · cases h
    · obtain ⟨joined, -, rfl⟩ := Option.map_eq_some_iff.1 h
      exact hvalue _ _
  · cases h

theorem isLeaf_floatValue? {cs : List Char} {v : Value} (h : floatValue? cs = some v) : v.isLeaf := by
  have hnumber : ∀ x y : Float, (if x.isInf then Value.unfit else .float y).isLeaf := by
    intro x y
    split <;> rfl
  unfold floatValue? at h
  dsimp only at h
  split at h
  · obtain rfl := Option.some.inj h
    rfl
  · obtain rfl := Option.some.inj h
    rfl
  · obtain ⟨⟨head, fraction, power⟩, -, h⟩ := Option.bind_eq_some_iff.1 h
    obtain rfl := Option.some.inj h
    exact hnumber _ _

/-- A value without quotes is a scalar. -/
theorem isLeaf_wordValue? {cs : List Char} {v : Value} (h : wordValue? cs = some v) : v.isLeaf := by
  unfold wordValue? at h
  split at h
  · obtain rfl := Option.some.inj h
    rfl
  split at h
  · obtain rfl := Option.some.inj h
    rfl
  split at h
  · obtain rfl := Option.some.inj h
    rfl
  rcases Option.or_eq_some_iff.1 h with h | ⟨-, h⟩
  · exact isLeaf_based? h
  rcases Option.or_eq_some_iff.1 h with h | ⟨-, h⟩
  · exact isLeaf_decimalValue? h
  · exact isLeaf_floatValue? h

/-! ## Documents -/

open Reader

theorem readWord_yields : readWord.Yields Value.IsDistinct := by
  refine .after _ fun start => .after _ fun next => ?_
  split
  · exact fail_yields
  · exact fail_yields
  · exact fail_yields
  · refine .after _ fun c => .after _ fun word => ?_
    split
    · next v hv => exact .pure (.leaf (isLeaf_wordValue? hv))
    · exact .after _ fun _ => .pure (.leaf rfl)

mutual

theorem readValue_yields : ∀ fuel depth, (readValue fuel depth).Yields fun r => r.2.IsDistinct
  | 0, _ => fail_yields
  | fuel + 1, depth => by
    have hend : ∀ (start : Nat) (v : Value), v.IsDistinct →
        (do let stop ← offset; return (⟨start, stop⟩, v) : Reader (Span × Value)).Yields fun r => r.2.IsDistinct :=
      fun start v hv => .after _ fun stop => .pure hv
    rw [readValue]
    refine .after _ fun start => .after _ fun text => ?_
    dsimp only
    split
    · exact .bind (.pure (.leaf rfl)) (hend start)
    · refine .after _ fun isArray => ?_
      split
      · split
        · exact .bind fail_yields (hend start)
        · refine .bind (readItems_yields fuel (depth + 1)) fun items hitems => ?_
          exact .bind (.pure (.array hitems)) (hend start)
      · refine .after _ fun isTable => ?_
        split
        · split
          · exact .bind fail_yields (hend start)
          · refine .bind (readFields_yields fuel (depth + 1) [] Entries.isDistinct_nil) fun es hes => ?_
            exact .bind (.pure (hes.table _)) (hend start)
        · exact .bind readWord_yields (hend start)

theorem readItems_yields : ∀ fuel depth, (readItems fuel depth).Yields fun items => ∀ item ∈ items, item.2.IsDistinct
  | 0, _ => fail_yields
  | fuel + 1, depth => by
    rw [readItems]
    refine .after _ fun _ => .after _ fun isEnd => ?_
    split
    · exact .pure nofun
    refine .after _ fun next => ?_
    split
    · exact fail_yields
    refine .after _ fun next => ?_
    split
    · exact fail_yields
    refine .bind (readValue_yields fuel depth) fun item hitem => .after _ fun _ => .after _ fun goesOn => ?_
    split
    · refine .bind (readItems_yields fuel depth) fun items hitems => .pure ?_
      exact List.forall_mem_cons.2 ⟨hitem, hitems⟩
    · refine .after _ fun _ => .pure ?_
      exact List.forall_mem_singleton.2 hitem

theorem readFields_yields : ∀ fuel depth es, es.IsDistinct → (readFields fuel depth es).Yields Entries.IsDistinct
  | 0, _, _, _ => fail_yields
  | fuel + 1, depth, es, hes => by
    have hend : ∀ es : Entries, es.IsDistinct → (do
        skipLines fuel
        if ← accept "," then readFields fuel depth es
        else
          expect "\x7d"
          return es : Reader Entries).Yields Entries.IsDistinct := by
      intro es hes
      refine .after _ fun _ => .after _ fun goesOn => ?_
      split
      · exact readFields_yields fuel depth es hes
      · exact .after _ fun _ => .pure hes
    rw [readFields]
    refine .after _ fun _ => .after _ fun isEnd => ?_
    split
    · exact .pure hes
    refine .after _ fun start => .after _ fun path => .after _ fun _ => .after _ fun _ =>
      .bind (readValue_yields fuel depth) fun r hr => ?_
    dsimp only
    split
    · next es' hput => exact .bind (.pure (isDistinct_putDotted? hr path hes hput)) hend
    · exact .after _ fun _ => .bind (.pure hes) hend

end

theorem readStatement_yields : readStatement.Yields Statement.IsDistinct := by
  refine .after _ fun c => .after _ fun start => .after _ fun isArray => ?_
  dsimp only
  split
  · exact .after _ fun path => .after _ fun _ => .after _ fun stop => .after _ fun _ => .pure trivial
  refine .after _ fun isTable => ?_
  split
  · exact .after _ fun path => .after _ fun _ => .after _ fun stop => .after _ fun _ => .pure trivial
  · exact .after _ fun path => .after _ fun _ => .after _ fun _ => .bind (readValue_yields _ 0) fun r hr =>
      .after _ fun _ => .pure hr

/-- Line by line the keys stay apart. -/
theorem readDraft_yields (fuel : Nat) : ∀ d : Draft, d.root.IsDistinct →
    (readDraft fuel d).Yields fun d => d.root.IsDistinct := by
  induction fuel with
  | zero => exact fun _ _ => fail_yields
  | succ fuel ih =>
    intro d hd
    rw [readDraft]
    refine .after _ fun _ => .after _ fun next => ?_
    split
    · exact .pure hd
    refine .after _ fun start => .bind readStatement_yields fun line hline => ?_
    split
    · next d' hadd => exact ih d' (isDistinct_add? hd hline hadd)
    · exact .after _ fun _ => ih d hd

/-- In a document that is read, no table has two entries with one key. -/
theorem isDistinct_readDocument {text : String} {es : Entries} (h : readDocument text = .ok es) : es.IsDistinct := by
  have hyields : (do
      let _ ← accept "\uFEFF"
      readDraft ((← get).rest.length + 2) ⟨[], []⟩ : Reader Draft).Yields fun d => d.root.IsDistinct :=
    .after _ fun _ => .after _ fun c => readDraft_yields _ _ Entries.isDistinct_nil
  unfold readDocument at h
  dsimp only at h
  cases hrun : StateT.run (do
      let _ ← accept "\uFEFF"
      readDraft ((← get).rest.length + 2) ⟨[], []⟩ : Reader Draft) ⟨text.toList, 0, none⟩ with
  | error fault =>
    rw [hrun] at h
    cases h
  | ok r =>
    obtain ⟨d, c⟩ := r
    rw [hrun] at h
    dsimp only [bind, Except.bind] at h
    split at h
    · cases h
    · obtain rfl := Except.ok.inj h
      exact hyields _ d c hrun

end PluginHost.Manifest
