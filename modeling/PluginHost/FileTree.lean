import PluginHost.Error
import PluginHost.Native.Image
import PluginHost.Text.Utf8

/-!
# Files

A `FileTree` is a snapshot of the files a host can see: directories, plain files, and shared libraries. Paths are walked as
the system does it: part by part from the root or the current directory, through directories only. `locate` finds what a
path names, or says why nothing is there; reading, writing and making directories go through it.
-/

namespace PluginHost

/-- What a name in a directory stands for. -/
inductive Node
  | directory
  | file (content : ByteArray)
  | library (image : Native.Image)

/-- A place in the tree: the names on the way from the root. Two paths name the same file iff they lead to one place. -/
abbrev Place := List String

/-- The files that a host can see. The root is always there. -/
structure FileTree where
  nodes : List (Place × Node)
  current : Place

namespace FileTree

/-- What stands at a place. -/
def at? (t : FileTree) (p : Place) : Option Node :=
  if p = [] then some .directory else (t.nodes.find? (·.1 = p)).map (·.2)

/-- Puts something at a place. -/
def put (t : FileTree) (p : Place) (n : Node) : FileTree :=
  { t with nodes := (p, n) :: t.nodes.filter (·.1 ≠ p) }

/-- The longest name a directory can hold, in bytes. -/
def nameLimit : Nat := 255

/-- The longest path the system accepts, in bytes. -/
def pathLimit : Nat := 4095

/-- Goes on from a directory, part by part. -/
def walk (t : FileTree) (here : Place) : List String → Except FileError Place
  | [] => .ok here
  | step :: rest => match t.at? here with
    | some .directory =>
      if step = "" ∨ step = "." then walk t here rest
      else if step = ".." then walk t here.dropLast rest
      else if nameLimit < step.utf8ByteSize then .error .nameTooLong
      else
        let there := here ++ [step]
        match t.at? there with
        | some _ => walk t there rest
        | none => .error .notFound
    | some _ => .error .notADirectory
    | none => .error .notFound

/-- The place that a path leads to. -/
def locate (t : FileTree) (p : Path) : Except FileError Place :=
  if p.text.contains '\x00' then .error .nulInName
  else if p.text = "" then .error .notFound
  else if pathLimit < p.text.utf8ByteSize then .error .nameTooLong
  else t.walk (if p.isAbsolute then [] else t.current) p.pieces

/-- Whether a path leads anywhere. -/
def exists? (t : FileTree) (p : Path) : Bool := (t.locate p).isOk

/-- What a path leads to. -/
def node (t : FileTree) (p : Path) : Except FileError Node := do
  match t.at? (← t.locate p) with
  | some n => .ok n
  | none => .error .notFound

/-- The bytes of a library file; only their being no text matters. -/
def libraryBytes : ByteArray := ⟨#[0x7F, 0x45, 0x4C, 0x46, 0x02, 0x01, 0x01, 0x00, 0xFF]⟩

/-- The bytes of a file. -/
def readBytes (t : FileTree) (p : Path) : Except FileError ByteArray := do
  match ← t.node p with
  | .file content => .ok content
  | .library _ => .ok libraryBytes
  | .directory => .error .isADirectory

/-- The text of a file. -/
def readText (t : FileTree) (p : Path) : Except FileError String := do
  match Text.ofBytes? (← t.readBytes p) with
  | some s => .ok s
  | none => .error .notText

/-- The place that a path would lead to if its last part were there, which it may be. -/
def locateNew (t : FileTree) (p : Path) : Except FileError Place := do
  match t.locate p with
  | .ok there => .ok there
  | .error e =>
    if e.kind ≠ .notFound then .error e
    else match p.fileName?, p.parent? with
      | some name, some parent =>
        let directory ← if parent.text = "" then .ok t.current else t.locate parent
        match t.at? directory with
        | some .directory => if p.text.endsWith "/" then .error .isADirectory else .ok (directory ++ [name])
        | _ => .error .notADirectory
      | _, _ => .error .notFound

/-- Writes a file, which may be there already. -/
def write (t : FileTree) (p : Path) (content : ByteArray) : Except FileError FileTree := do
  let there ← t.locateNew p
  match t.at? there with
  | some .directory => .error .isADirectory
  | _ => .ok (t.put there (.file content))

/-- Makes the directories that are missing on the way, part by part. -/
def makeSteps (t : FileTree) (here : Place) : List String → Except FileError FileTree
  | [] => .ok t
  | step :: rest =>
    if step = "" ∨ step = "." then makeSteps t here rest
    else if step = ".." then makeSteps t here.dropLast rest
    else if nameLimit < step.utf8ByteSize then .error .nameTooLong
    else
      let there := here ++ [step]
      match t.at? there with
      | some .directory => makeSteps t there rest
      | some _ => .error (if rest.any (fun s => s ≠ "" && s ≠ ".") then .notADirectory else .alreadyExists)
      | none => makeSteps (t.put there .directory) there rest

/-- Makes a directory and those above it, unless they are there. -/
def makeDirectories (t : FileTree) (p : Path) : Except FileError FileTree :=
  if p.text.contains '\x00' then .error .nulInName
  else t.makeSteps (if p.isAbsolute then [] else t.current) p.pieces

end FileTree

end PluginHost
