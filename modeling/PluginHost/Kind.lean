import PluginHost.Path

/-!
# Kinds of plugins

Each kind has a name, which a manifest and the command line use, and some have file extensions by which
`PluginKind.ofPath?` guesses them. Names and extensions are ASCII, and no other character has one of their letters as its
lower-case form, so lowering ASCII letters alone decides every comparison.
-/

namespace PluginHost

/-- What executes a plugin: a shared library called by symbol or by alias, a script, or nothing. -/
inductive PluginKind
  | c | cpp | lua | python | noop
deriving DecidableEq, Repr

namespace PluginKind

/-- All kinds, in the order in which they are listed to the user. -/
def values : List PluginKind := [c, cpp, lua, python, noop]

/-- The kind of an entry that names none. -/
def fallback : PluginKind := c

/-- The name of a kind. -/
def name : PluginKind → String
  | c => "c"
  | cpp => "cpp"
  | lua => "lua"
  | python => "python"
  | noop => "noop"

/-- The kind with a name, if the name is written in lower case. -/
def ofName? (s : String) : Option PluginKind := values.find? (·.name = s)

/-- Reads a kind that a user typed: letter case does not count, and two kinds have a second name. -/
def read? (s : String) : Option PluginKind :=
  match s.toLower with
  | "c++" => some cpp
  | "py" => some python
  | lower => ofName? lower

/-- The kind that a file extension suggests. Shared libraries look alike, so all are taken for the first kind. -/
def ofPath? (p : Path) : Option PluginKind := do
  match (← p.extension?).toLower with
  | "lua" => some lua
  | "py" => some python
  | "so" | "dylib" | "dll" => some c
  | _ => none

/-- Whether a shared library is behind plugins of this kind. -/
def isNative : PluginKind → Bool
  | c | cpp => true
  | lua | python | noop => false

theorem ofName?_name (k : PluginKind) : ofName? k.name = some k := by
  cases k <;> rfl

end PluginKind

instance : ToString PluginKind := ⟨PluginKind.name⟩

end PluginHost
