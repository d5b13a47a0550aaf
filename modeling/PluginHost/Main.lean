import PluginHost.CommandLine.Tasks
import PluginHost.Samples.Workspace

/-!
# The command

The command looks at the files that a request is about, does what is asked for on what it has seen, and puts what comes out
where it belongs: texts, log events, files and the exit code. Shared libraries cannot be run here; those whose functions are
known by the name of the file take their place.
-/

namespace PluginHost.CommandLine

/-! ## Looking at files -/

/-- The parts of a path from the root, without dots. -/
def placeOf (current : Place) (p : Path) : Place :=
  p.steps.foldl (fun here step => if step = ".." then here.dropLast else here ++ [step]) (if p.isAbsolute then [] else current)

/-- How the system names a place. -/
def nameOf (p : Place) : String := "/" ++ "/".intercalate p

/-- The bytes of a file, if it can be read. -/
def readBytes? (name : String) : IO (Option ByteArray) := do
  try return some (← IO.FS.readBinFile name)
  catch _ => return none

/-- Whether a directory has a name. -/
def isDirectory (name : String) : IO Bool := do ((← IO.currentDir).join name).isDir

/-- The library whose file has a name, if its functions are known. -/
def knownLibrary? (name : String) : Option Native.Image :=
  Samples.workspace.nodes.findSome? fun (place, node) => match node with
    | .library image => if place.getLast? = some name then some image else none
    | _ => none

/-- What a file with some bytes is. -/
def nodeOf (place : Place) (bytes : ByteArray) : Node :=
  let isLibrary := (bytes.extract 0 4).toList = [0x7F, 0x45, 0x4C, 0x46]
  match if isLibrary then place.getLast?.bind knownLibrary? else none with
  | some image => .library image
  | none => .file bytes

/-- Adds what stands at the places on the way to a place. -/
def lookAlong (t : FileTree) (before : Place) : List String → IO FileTree
  | [] => return t
  | step :: rest => do
    let here := before ++ [step]
    if ← isDirectory (nameOf here) then lookAlong (t.put here .directory) here rest
    else match ← readBytes? (nameOf here) with
      | some bytes => return t.put here (nodeOf here bytes)
      | none => return t

/-- Adds what a path leads to. -/
def look (t : FileTree) (p : Path) : IO FileTree := lookAlong t [] (placeOf t.current p)

/-- Adds what a path of a plugin leads to, or the library that it stands for. -/
def lookForPlugin (t : FileTree) (p : Path) : IO FileTree := do
  let t ← look t p
  match p.fileName? with
  | some name => look t (p.withFileName (Native.Loader.decorate name))
  | none => return t

/-- Adds the files that a request is about. -/
def lookFor (t : FileTree) (request : Request) (env : Environment) : IO FileTree := do
  match request.task with
  | .check paths _ _ => paths.foldlM lookForPlugin t
  | .init path _ => look t path
  | .run path _ _ =>
    let t ← look t path
    match readManifest t path with
    | .error _ => return t
    | .ok c =>
      let t ← c.plugins.foldlM (fun t e => lookForPlugin t (Manager.entryPath c e)) t
      match LogSettings.directory c.logging.file env with
      | .ok d => look t d
      | .error _ => return t

/-- Makes the directories and files that were not there before, or had other bytes. -/
def store (old new : FileTree) : IO Unit :=
  new.nodes.reverse.forM fun (place, node) => do
    match node, old.at? place with
    | .directory, none => IO.FS.createDirAll (nameOf place)
    | .file bytes, some (.file before) => if bytes ≠ before then IO.FS.writeBinFile (nameOf place) bytes
    | .file bytes, none => IO.FS.writeBinFile (nameOf place) bytes
    | _, _ => return ()

/-! ## Doing what is asked for -/

/-- The environment variables that matter. -/
def readEnvironment : IO Environment := do
  let names := ["TRELLIS_LOG", "RUST_LOG", "TRELLIS_LOG_FORMAT", "TRELLIS_LOG_DIR", "HOME", "USERPROFILE"]
  let values : List (Option String) ← names.mapM fun n => IO.getEnv n
  return (names.zip values).filterMap fun (n, v) => v.map (n, ·)

/-- A log event as a line. -/
def eventLine (format : LogFormat) (e : Event) : String :=
  match format with
  | .json => "\x7b\"level\":" ++ jsonText e.level.name ++ ",\"fields\":\x7b\"message\":" ++ jsonText e.message
      ++ "\x7d,\"target\":" ++ jsonText e.target ++ "\x7d"
  | .pretty | .compact => e.level.name ++ " " ++ e.target ++ ": " ++ e.message

/-- An operation of the host while the command runs. -/
abbrev Running := StateT World IO

/-- Runs an operation of the host. -/
def lift {α : Type} (x : Host α) : Running α := fun w => return x.run w

/-- Writes out what was printed and logged so far. -/
def flush (log : Option LogSettings) (env : Environment) : Running Unit := do
  let w ← get
  let out ← IO.getStdout
  w.output.forM fun text => out.putStr text
  out.flush
  match log with
  | some s =>
    let shown := w.events.toList.filter (s.filter env).admits
    shown.forM fun e => IO.eprintln (eventLine (s.formatInForce env) e)
  | none => pure ()
  set { w with output := #[], events := #[] }

/-- Rounds with pauses in milliseconds between them, the first of which has the number `n`. -/
def pacedRounds (d : Drive) (log : LogSettings) (env : Environment) (pause n : Nat) : Nat → Running Drive
  | 0 => return d
  | left + 1 => do
    let d ← lift (d.round n)
    flush log env
    if 0 < left ∧ 0 < pause then IO.sleep (UInt32.ofNat pause)
    pacedRounds d log env pause (n + 1) left

/-- Does what a request asks for. A run pauses between its rounds. -/
def performPaced (request : Request) (env : Environment) : Running Outcome := do
  match request.task with
  | .run path rounds pause => match ← lift (prepareRun request path env) with
    | .error f => return .of (.error f) none
    | .ok (c, log) => match ← lift (beginRun c) with
      | .error f => return .of (.error f) log
      | .ok d =>
        flush log env
        lift (endRun (← pacedRounds d log env pause 0 rounds) rounds)
        return .of (.ok ()) log
  | .check .. | .init .. => lift (perform request env)

/-- The directory that relative paths start at. -/
def readCurrent : IO Place := return placeOf [] ⟨(← IO.currentDir).toString⟩

/-- Does what the words behind the name of the command ask for. -/
def performWords (words : List String) (env : Environment) : Running Outcome := do
  match Request.ofArguments words with
  | .error r => lift (refuse r)
  | .ok request =>
    let before ← lookFor ⟨[], ← readCurrent⟩ request env
    modify fun w => { w with files := before }
    let o ← performPaced request env
    store before (← get).files
    return o

end PluginHost.CommandLine

open PluginHost PluginHost.CommandLine in
/-- The command. -/
def main (words : List String) : IO UInt32 := do
  let env ← readEnvironment
  let (o, w) ← (performWords words env).run { files := ⟨[], []⟩ }
  let _ ← (flush o.log env).run w
  match o.failure with
  | some f => IO.eprintln ((if o.exitCode = 2 then "error: " else label .red "Error" ++ " ") ++ f.message)
  | none => pure ()
  return UInt32.ofNat o.exitCode
