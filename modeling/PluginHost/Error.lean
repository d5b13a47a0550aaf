import PluginHost.Kind

/-!
# Failures

Failures come in layers: a file operation (`FileError`), the loading of a plugin (`LoadError`), a call into it
(`CallError`), the manifest (`ConfigError`), and any of these as the host reports it (`Error`). Each layer is an inductive
type of causes, with one function that words them.
-/

namespace PluginHost

/-- What went wrong with a file. -/
inductive FileErrorKind
  | notFound | permissionDenied | invalidData | isADirectory | notADirectory | alreadyExists | invalidInput
  | nameTooLong | other
deriving DecidableEq, Repr

/-- A failed file operation and its wording. -/
structure FileError where
  kind : FileErrorKind
  message : String
deriving DecidableEq, Repr

namespace FileError

def notFound : FileError := ⟨.notFound, "No such file or directory (os error 2)"⟩
def alreadyExists : FileError := ⟨.alreadyExists, "File exists (os error 17)"⟩
def notADirectory : FileError := ⟨.notADirectory, "Not a directory (os error 20)"⟩
def isADirectory : FileError := ⟨.isADirectory, "Is a directory (os error 21)"⟩
def invalidArgument : FileError := ⟨.invalidInput, "Invalid argument (os error 22)"⟩
def nameTooLong : FileError := ⟨.nameTooLong, "File name too long (os error 36)"⟩

/-- A path with a NUL never reaches the system. -/
def nulInName : FileError := ⟨.invalidInput, "file name contained an unexpected NUL byte"⟩

/-- A file that should be text is not. -/
def notText : FileError := ⟨.invalidData, "stream did not contain valid UTF-8"⟩

end FileError

/-- Why a plugin could not be loaded. -/
inductive LoadError
  | unknown | fileNotFound | fileInvalid | fileNotReadable
deriving DecidableEq, Repr

namespace LoadError

/-- The wording of a load error. -/
def message : LoadError → String
  | unknown => "unknown"
  | fileNotFound => "file not found"
  | fileInvalid => "file invalid"
  | fileNotReadable => "file not readable"

/-- The load error of a plugin whose file could not be read. -/
def ofFile (e : FileError) : LoadError :=
  match e.kind with
  | .notFound => fileNotFound
  | .permissionDenied => fileNotReadable
  | .invalidData | .isADirectory => fileInvalid
  | .notADirectory | .alreadyExists | .invalidInput | .nameTooLong | .other => unknown

end LoadError

/-- The categories of failed calls. -/
inductive CallErrorCode
  | unknown | notLoaded | symbolNotFound | incorrectType
deriving DecidableEq, Repr

namespace CallErrorCode

/-- All categories. -/
def values : List CallErrorCode := [unknown, notLoaded, symbolNotFound, incorrectType]

/-- The name of a category. -/
def name : CallErrorCode → String
  | unknown => "unknown"
  | notLoaded => "not loaded"
  | symbolNotFound => "symbol not found"
  | incorrectType => "incorrect type"

end CallErrorCode

/-- A failed call: its category, and a description that may be empty. -/
structure CallError where
  code : CallErrorCode
  description : String
deriving DecidableEq, Repr

namespace CallError

/-- A failure without a description. -/
def ofCode (code : CallErrorCode) : CallError := ⟨code, ""⟩

def unknown (description : String) : CallError := ⟨.unknown, description⟩

def incorrectType (description : String) : CallError := ⟨.incorrectType, description⟩

def notLoaded : CallError := ⟨.notLoaded, "plugin is not loaded"⟩

def symbolNotFound (name : String) : CallError := ⟨.symbolNotFound, "symbol '" ++ name ++ "' not found"⟩

/-- The description, or the name of the category if there is none. -/
def what (e : CallError) : String := if e.description = "" then e.code.name else e.description

/-- The category and the description. -/
def message (e : CallError) : String :=
  if e.description = "" then e.code.name else e.code.name ++ ": " ++ e.description

/-- The report of a failure at a place. -/
def report (e : CallError) (place : String) : String := place ++ " - " ++ e.what ++ " (" ++ e.code.name ++ ")"

/-- Two failures count as the same if their categories agree. -/
def alike (a b : CallError) : Bool := a.code == b.code

end CallError

/-- What is wrong with a manifest or with the settings of the host. -/
inductive ConfigError
  | pluginNotFound (name : String)
  | duplicatePlugin (name : String)
  | missingPath (name : String)
  | emptyPluginName
  | crashGuardUnsupported (name : String) (kind : PluginKind)
  | invalidPluginKind (text : String)
  | document (message : String)
  | other (message : String)
deriving DecidableEq, Repr

/-- The wording of a manifest error. -/
def ConfigError.message : ConfigError → String
  | pluginNotFound name => "plugin not found: " ++ name
  | duplicatePlugin name => "duplicate plugin name: " ++ name
  | missingPath name => "plugin '" ++ name ++ "' needs a path"
  | emptyPluginName => "plugin name must not be empty"
  | crashGuardUnsupported name kind =>
    "plugin '" ++ name ++ "' has kind '" ++ kind.name ++ "'; crash_guard is only available for c plugins"
  | invalidPluginKind text => "invalid plugin kind: " ++ text
  | document message => "TOML parse error: " ++ message
  | other message => message

/-- Any failure, as the host reports it. -/
inductive Error
  | file (e : FileError)
  | config (e : ConfigError)
  | parse (message : String)
  | load (path : Path) (e : LoadError)
  | call (e : CallError)
  | other (message : String)
deriving DecidableEq, Repr

/-- The wording of a failure. -/
def Error.message : Error → String
  | file e => "I/O error: " ++ e.message
  | config e => "configuration error: " ++ e.message
  | parse m => "parse error: " ++ m
  | load path e => "failed to load plugin '" ++ path.text ++ "': " ++ e.message
  | call e => "plugin call failed: " ++ e.message
  | other m => m

/-- The failure that caused this one, in words, if the report of this one is followed by its cause. -/
def Error.cause : Error → Option String
  | file e => some e.message
  | load _ e => some e.message
  | call e => some e.message
  | config _ | parse _ | other _ => none

end PluginHost
