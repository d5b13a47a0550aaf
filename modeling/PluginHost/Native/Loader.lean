import PluginHost.FileTree

/-!
# Opened libraries

Opening a file gives a handle; handles to one opening are counted, and the opening ends when the last one is released. A
file is mapped once however often it is opened, so its variables are shared by all openings of it, and they start afresh
once the last opening has ended. Symbols are looked up by exact name, except that one NUL at the end of a name only ends it.
-/

namespace PluginHost.Native

/-- The number of an opening. -/
abbrev Handle := Nat

/-- One successful opening of a file. -/
structure Opening where
  id : Handle
  /-- The path at which the file was found. -/
  path : Path
  place : Place
  /-- How many handles to this opening are live. -/
  handles : Nat

/-- A file in memory. -/
structure Mapping where
  place : Place
  /-- The path by which it was mapped first; the system names it so. -/
  name : Path
  image : Image
  memory : Memory

/-- All opened libraries of a host. -/
structure Loader where
  openings : List Opening := []
  mappings : List Mapping := []
  next : Handle := 0

namespace Loader

/-- The opening with a number. -/
def opening? (l : Loader) (h : Handle) : Option Opening := l.openings.find? (·.id = h)

/-- The mapping of a place. -/
def mapping? (l : Loader) (p : Place) : Option Mapping := l.mappings.find? (·.place = p)

/-- The mapping behind a handle. -/
def mappingOf? (l : Loader) (h : Handle) : Option Mapping := do l.mapping? (← l.opening? h).place

/-- How many handles to an opening are live. -/
def handleCount (l : Loader) (h : Handle) : Nat := ((l.opening? h).map (·.handles)).getD 0

/-- The path at which an opened file was found. -/
def pathOf? (l : Loader) (h : Handle) : Option Path := (l.opening? h).map (·.path)

/-! ## Opening and releasing -/

/-- The name of a library file on this system. -/
def decorate (name : String) : String := "lib" ++ name ++ ".so"

/-- The path itself, or else the library of that name beside it. -/
def find? (files : FileTree) (p : Path) : Option Path :=
  if files.exists? p then some p
  else do
    let decorated := p.withFileName (decorate (← p.fileName?))
    if files.exists? decorated then some decorated else none

/-- The library file that a path names and the path at which it was found. The system looks for a name without a
slash among its own libraries only, where no plugin is. -/
def inspect (files : FileTree) (p : Path) : Except LoadError (Path × Place × Image) :=
  match find? files p with
  | none => .error .fileNotFound
  | some found => match files.locate found with
    | .error e => .error (.ofFile e)
    | .ok place => match files.at? place with
      | some (.library image) => if found.text.contains '/' then .ok (found, place, image) else .error .fileInvalid
      | _ => .error .fileInvalid

/-- Opens a file: one more opening, with one handle, and the file is mapped unless it is already. -/
def add (l : Loader) (found : Path) (place : Place) (image : Image) : Loader where
  openings := l.openings ++ [⟨l.next, found, place, 1⟩]
  mappings := if (l.mapping? place).isSome then l.mappings else l.mappings ++ [⟨place, found, image, image.initialMemory⟩]
  next := l.next + 1

/-- Opens the library that a path names. -/
def «open» (l : Loader) (files : FileTree) (p : Path) : Except LoadError Handle × Loader :=
  match inspect files p with
  | .error e => (.error e, l)
  | .ok (found, place, image) => (.ok l.next, l.add found place image)

/-- Changes the number of handles of one opening. -/
def countHandles (l : Loader) (h : Handle) (change : Nat → Nat) : Loader :=
  { l with openings := l.openings.map fun o => if o.id = h then { o with handles := change o.handles } else o }

/-- One more handle to an opening. -/
def retain (l : Loader) (h : Handle) : Loader := l.countHandles h (· + 1)

/-- Forgets openings without handles and mappings without openings. -/
def sweep (l : Loader) : Loader :=
  let openings := l.openings.filter (0 < ·.handles)
  { l with openings, mappings := l.mappings.filter fun m => openings.any (·.place = m.place) }

/-- One handle less; the last one ends the opening. -/
def release (l : Loader) (h : Handle) : Loader := (l.countHandles h (· - 1)).sweep

/-! ## Symbols -/

/-- The name that the system looks up: one NUL at the end is dropped, any other is refused. -/
def lookupName? (name : String) : Option String :=
  let core := if name.endsWith "\x00" then (name.dropEnd 1).toString else name
  if core.contains '\x00' then none else some core

/-- Why a symbol was not found. -/
def missing (name reason : String) : CallError :=
  ⟨.symbolNotFound, "symbol '" ++ name ++ "' not found: " ++ reason⟩

/-- What a name stands for in an opened library, together with the name the system knows it by. -/
def symbol (l : Loader) (h : Handle) (name : String) : Except CallError (String × Symbol) :=
  match l.mappingOf? h with
  | none => .error .notLoaded
  | some m => match lookupName? name with
    | none => .error (missing name "could not create a C string from bytes")
    | some core => match m.image.symbol? core with
      | none => .error (missing name (m.name.text ++ ": undefined symbol: " ++ core))
      | some s => .ok (core, s)

/-- Whether an opened library exports a name. -/
def hasSymbol (l : Loader) (h : Handle) (name : String) : Bool := (l.symbol h name).isOk

/-- Replaces the variables behind a handle. -/
def setMemory (l : Loader) (h : Handle) (memory : Memory) : Loader :=
  match l.opening? h with
  | none => l
  | some o => { l with mappings := l.mappings.map fun m => if m.place = o.place then { m with memory } else m }

/-- The variables behind a handle. -/
def memoryOf (l : Loader) (h : Handle) : Memory := ((l.mappingOf? h).map (·.memory)).getD []

/-- How a call through a handle ends. -/
inductive Result
  | returned (d : Datum)
  | fault

/-- Runs a function of an opened library. Variables keep what was written before a fault. -/
def run (l : Loader) (h : Handle) (f : Function) (args : List Datum) (result : Ty) : Result × Loader :=
  match f.call (l.memoryOf h) args result with
  | .returned d m => (.returned d, l.setMemory h m)
  | .fault m => (.fault, l.setMemory h m)

/-- Reads a variable at a type. -/
def readVariable (l : Loader) (h : Handle) (name : String) (t : Ty) : Except CallError Datum := do
  let (core, _) ← l.symbol h name
  return ofBytes t ((l.memoryOf h).get core)

/-- Writes a variable at a type. -/
def writeVariable (l : Loader) (h : Handle) (name : String) (t : Ty) (d : Datum) : Except CallError Loader := do
  let (core, _) ← l.symbol h name
  return l.setMemory h ((l.memoryOf h).set core ((bytesOf d).take (sizeOfTy t)))

end Loader

end PluginHost.Native
