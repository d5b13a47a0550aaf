/-!
# Documents

The tree that a manifest spells: tables, arrays and scalars, each with the part of the text it was written in, so that
a complaint about one can point at it. `Value.form` remembers how a table came about, because a table that was written out
may not be written again, while one that only lies on the way to another may.
-/

namespace PluginHost.Manifest

/-- A part of the text, in bytes: the first one and the one after the last. -/
structure Span where
  start : Nat
  stop : Nat
deriving DecidableEq, Repr

/-- How a table was introduced. -/
inductive TableForm
  /-- By a header, or as the document itself. -/
  | header
  /-- In braces; nothing can be added to it. -/
  | inline
  /-- On the way to a table with a header; a header of its own may follow. -/
  | implicit
  /-- On the way to a dotted key. -/
  | dotted
deriving DecidableEq, Repr

/-- A key and where it stands. -/
structure Key where
  name : String
  span : Span
deriving DecidableEq, Repr

/-- A value of a document. -/
inductive Value
  | text (s : String)
  | integer (n : Int)
  | float (x : Float)
  | boolean (b : Bool)
  | datetime
  /-- A word that stands where a number can, and that no number type holds. -/
  | unfit
  /-- An array, in brackets or made of tables with headers of their own. -/
  | array (ofTables : Bool) (items : List (Span × Value))
  | table (form : TableForm) (entries : List (Key × Span × Value))

/-- The entries of a table. -/
abbrev Entries := List (Key × Span × Value)

/-- The entry of a key. -/
def Entries.get? (es : Entries) (name : String) : Option (Key × Span × Value) :=
  es.find? (·.1.name = name)

/-- Replaces the value of a key in place. -/
def Entries.set (es : Entries) (name : String) (span : Span) (v : Value) : Entries :=
  es.map fun e => if e.1.name = name then (e.1, span, v) else e

/-- The entries in the order of their keys. -/
def Entries.sorted (es : Entries) : Entries :=
  es.mergeSort fun a b => decide (a.1.name ≤ b.1.name)

end PluginHost.Manifest
