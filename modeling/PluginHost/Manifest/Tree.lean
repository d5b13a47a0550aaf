import PluginHost.Manifest.Document

/-!
# Putting a document together

The lines of a document are added to its tree one by one (`Draft.add?`): a header opens a table, or the next table of an array,
and a key-value pair puts a value into the table that was opened last. What would define a key twice is refused, and so is a
dotted key that leads into a table that was written out.
-/

namespace PluginHost.Manifest

/-- A line of a document that is not blank. -/
inductive Statement
  | header (ofArray : Bool) (path : List Key) (span : Span)
  | pair (path : List Key) (span : Span) (value : Value)

/-- Adds a value under a dotted key. Tables on the way are made, or entered; the last one must have been made by a dotted key. An
array of tables on the way is entered at its last table. -/
def Entries.putDotted? (es : Entries) : List Key → Span → Value → Option Entries
  | [], _, _ => none
  | [key], span, v => if (es.get? key.name).isSome then none else some (es ++ [(key, span, v)])
  | key :: next :: path, span, v => match es.get? key.name with
    | none => do
      let inner ← Entries.putDotted? [] (next :: path) span v
      some (es ++ [(key, key.span, .table .dotted inner)])
    | some (_, at_, .table form inner) =>
      if form = .dotted ∨ (form = .implicit ∧ path ≠ []) then do
        let inner ← Entries.putDotted? inner (next :: path) span v
        some (es.set key.name at_ (.table form inner))
      else none
    | some (_, at_, .array true items) => match items.getLast? with
      | some (item, .table form inner) =>
        if path = [] then none
        else do
          let inner ← Entries.putDotted? inner (next :: path) span v
          some (es.set key.name at_ (.array true (items.dropLast ++ [(item, .table form inner)])))
      | _ => none
    | some _ => none

/-- Follows a path of headers into the tree and changes the entries at its end. An array of tables is entered at its last
table. -/
def Entries.changeAt? (es : Entries) (path : List Key) (change : Entries → Option Entries) : Option Entries :=
  match path with
  | [] => change es
  | key :: path => match es.get? key.name with
    | none => do
      let inner ← Entries.changeAt? [] path change
      some (es ++ [(key, key.span, .table .implicit inner)])
    | some (_, span, .table form inner) =>
      if form = .inline then none
      else do
        let inner ← Entries.changeAt? inner path change
        some (es.set key.name span (.table form inner))
    | some (_, span, .array true items) => match items.getLast? with
      | some (at_, .table form inner) => do
        let inner ← Entries.changeAt? inner path change
        some (es.set key.name span (.array true (items.dropLast ++ [(at_, .table form inner)])))
      | _ => none
    | some _ => none

/-- Opens the table or the next table of an array that a header names. -/
def Entries.open? (ofArray : Bool) (key : Key) (span : Span) (es : Entries) : Option Entries :=
  let fresh : Span × Value := (span, .table .header [])
  match es.get? key.name with
  | none => some (es ++ [(key, span, if ofArray then .array true [fresh] else .table .header [])])
  | some (_, at_, .array true items) =>
    if ofArray then some (es.set key.name ⟨at_.start, span.stop⟩ (.array true (items ++ [fresh]))) else none
  | some (_, _, .table .implicit inner) =>
    if ofArray then none else some (es.set key.name span (.table .header inner))
  | some _ => none

/-- The document being read: its entries, and the path of the last header. -/
structure Draft where
  root : Entries
  path : List Key

/-- Adds one line. -/
def Draft.add? (d : Draft) : Statement → Option Draft
  | .header ofArray path span => do
    let key ← path.getLast?
    let root ← d.root.changeAt? path.dropLast (Entries.open? ofArray key span)
    some ⟨root, path⟩
  | .pair path span v => do
    let root ← d.root.changeAt? d.path (·.putDotted? path span v)
    some ⟨root, d.path⟩

end PluginHost.Manifest
