import PluginHost.Proofs.Lua.Layout

/-!
# Lua tables

A table is a proper layout: whatever is done to it, each key has one value.
-/

namespace PluginHost.Lua

/-- A table. -/
structure Table extends Layout where
  isProper : toLayout.IsProper

namespace Table

instance : Inhabited Table := ⟨⟨{}, Layout.isProper_default⟩⟩

/-- An empty table with room for values and for other keys. -/
def withRoom (values keys : Nat) : Table := ⟨.withRoom values keys, Layout.isProper_withRoom values keys⟩

/-- Gives a key a value; a value of nothing removes it. -/
def set (t : Table) (k : Key) (v : Value) : Table := ⟨t.toLayout.set k v, (Layout.get_set t.isProper k v).1⟩

/-- What looking at a key does to the search for the length. -/
def touch (t : Table) (k : Key) : Table := ⟨t.toLayout.touch k, t.isProper.touch k⟩

/-- The length of a table, with what the search for it remembers. -/
def length (t : Table) : Nat × Table := (t.toLayout.length.1, ⟨t.toLayout.length.2, t.isProper.length⟩)

/-- Gives a table another metatable. -/
def withMetatable (t : Table) (metatable : Option Nat) : Table := ⟨{ t with metatable }, t.isProper.congr rfl rfl⟩

/-- The value of a key that may be none. -/
def getValue (t : Table) (v : Value) : Value :=
  match Key.ofValue? v with
  | some k => t.get k
  | none => .nil

/-- The value of a name. -/
def field (t : Table) (name : String) : Value := t.get (.ofString name)

/-- Gives a name a value. -/
def setField (t : Table) (name : String) (v : Value) : Table := t.set (.ofString name) v

variable (t : Table)

@[simp] theorem get_set (k : Key) (v : Value) (k' : Key) : (t.set k v).get k' = if k' = k then v else t.get k' :=
  (Layout.get_set t.isProper k v).2 k'

@[simp] theorem get_withRoom (values keys : Nat) (k : Key) : (withRoom values keys).get k = .nil :=
  Layout.get_withRoom values keys k

theorem mem_toEntries {k : Key} {v : Value} : (k, v) ∈ t.toEntries ↔ t.get k = v ∧ v ≠ .nil :=
  Layout.mem_entries_iff t.isProper

theorem nodup_keys : (t.toEntries.map Prod.fst).Nodup := Layout.nodup_keys t.isProper

end Table

end PluginHost.Lua
