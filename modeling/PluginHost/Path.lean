/-!
# File paths

A path is a text with its parts between slashes. Empty parts and single dots count for nothing, apart from a dot at the
very start of a relative path; `parent?`, `join` and `extension?` work on the text, so that what they leave alone keeps
its spelling.
-/

namespace PluginHost

/-- A path as it is written. -/
structure Path where
  text : String
deriving DecidableEq, Repr, Inhabited

namespace Path

/-- What stands between slashes. -/
def splitAtSlashes : List Char → List (List Char)
  | [] => [[]]
  | c :: cs =>
    if c = '/' then [] :: splitAtSlashes cs
    else match splitAtSlashes cs with
      | [] => [[c]]
      | part :: parts => (c :: part) :: parts

/-- The texts between the slashes. -/
def pieces (p : Path) : List String := (splitAtSlashes p.text.toList).map String.ofList

/-- Whether the path starts at the root. -/
def isAbsolute (p : Path) : Bool := p.text.startsWith "/"

/-- Whether the path starts at the current directory. -/
def isRelative (p : Path) : Bool := !p.isAbsolute

/-- The parts that take part in a walk: neither empty nor a single dot. -/
def steps (p : Path) : List String := p.pieces.filter (fun s => s ≠ "" && s ≠ ".")

/-- Drops the slashes and lone dots at the end of a reversed path. A dot at the very start stays. -/
def dropTrailing : List Char → List Char
  | [] => []
  | ['/'] => ['/']
  | '/' :: rest => dropTrailing rest
  | ['.', '/'] => ['/']
  | '.' :: '/' :: rest => dropTrailing ('/' :: rest)
  | cs => cs

/-- The reversed text without what counts for nothing at its end. -/
def reversedCore (p : Path) : List Char := dropTrailing p.text.toList.reverse

/-- The last part, unless the path is empty, a root, or ends in a dot or two. -/
def fileName? (p : Path) : Option String :=
  let last := String.ofList (p.reversedCore.takeWhile (· ≠ '/')).reverse
  if last = "" ∨ last = "." ∨ last = ".." then none else some last

/-- The path without its last part. A path of one part has the empty path as its parent; the empty path and the root have
none. -/
def parent? (p : Path) : Option Path :=
  let core := p.reversedCore
  if core = [] ∨ core = ['/'] then none
  else some ⟨String.ofList (dropTrailing (core.dropWhile (· ≠ '/'))).reverse⟩

/-- The text after the last dot of the file name, if something stands before that dot. -/
def extension? (p : Path) : Option String := do
  let name := (← p.fileName?).toList.reverse
  let after := name.takeWhile (· ≠ '.')
  match name.drop after.length with
  | _ :: _ :: _ => some (String.ofList after.reverse)
  | _ => none

/-- The path `q` seen from the directory `p`; an absolute path stays. -/
def join (p q : Path) : Path :=
  if q.isAbsolute then q
  else if p.text = "" ∨ p.text.endsWith "/" then ⟨p.text ++ q.text⟩
  else ⟨p.text ++ "/" ++ q.text⟩

/-- The path with another last part. -/
def withFileName (p : Path) (name : String) : Path :=
  match p.fileName?, p.parent? with
  | some _, some d => d.join ⟨name⟩
  | _, _ => p.join ⟨name⟩

end Path

instance : ToString Path := ⟨Path.text⟩

end PluginHost
