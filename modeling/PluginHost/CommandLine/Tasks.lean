import PluginHost.CommandLine.Arguments
import PluginHost.CommandLine.Report
import PluginHost.Logging.Filter
import PluginHost.Manager

/-!
# The tasks of the command

`check` tries to load plugins, `run` loads those of a manifest and calls them round by round, and `init` writes a manifest to
start from. A run goes through stages (`Drive`), so that what waits between the rounds can be outside. `perform` does what a
request asks for, and `Outcome` is what the caller of the command gets.
-/

namespace PluginHost.CommandLine

/-! ## Checking -/

/-- Tries to load one plugin. A plugin that loads ends at once. -/
def checkPath (m : Manager) (kind : Option PluginKind) (path : Path) : Host (LoadReport × Manager) := do
  match kind.or (PluginKind.ofPath? path) with
  | none => return (⟨path, none, false, some "cannot guess the plugin kind; pass --kind"⟩, m)
  | some k => match ← m.load k path with
    | (.ok p, m) =>
      p.close
      return (⟨path, some k, p.isLoaded, none⟩, m)
    | (.error e, m) => return (⟨path, some k, false, some e.message⟩, m)

/-- Tries to load plugins, in order. -/
def checkPaths (m : Manager) (kind : Option PluginKind) : List Path → Host (List LoadReport × Manager)
  | [] => return ([], m)
  | p :: ps => do
    let (r, m) ← checkPath m kind p
    let (rs, m) ← checkPaths m kind ps
    return (r :: rs, m)

/-- Tries to load plugins and prints the reports. -/
def check (paths : List Path) (kind : Option PluginKind) (asJson : Bool) : Host (Except Failure Unit) := do
  let (reports, m) ← checkPaths {} kind paths
  m.close
  Host.print (if asJson then jsonReports reports else String.join (reports.map (·.line)))
  let failed := (reports.filter (!·.isLoaded)).length
  if failed = 0 then return .ok ()
  else return .error (.of (toString failed ++ " of " ++ toString reports.length ++ " plugins failed to load"))

/-! ## Running -/

/-- The plugins of a manifest while they run. -/
structure Drive where
  manager : Manager
  plugins : List ConfiguredPlugin
  /-- How many calls have failed. -/
  failures : Nat := 0

namespace Drive

def eventTarget : String := "trellis"

/-- Calls the function with a name in each plugin, in order; the result also says how many calls failed. -/
def callEach (name : String) (args : List (Ty × Datum)) : List ConfiguredPlugin → Host (Nat × List ConfiguredPlugin)
  | [] => return (0, [])
  | p :: ps => do
    let (r, p) ← p.call name args .unit
    let failed ← match r with
      | .ok _ => pure 0
      | .error _ =>
        Host.emit .error eventTarget "plugin call failed"
        pure 1
    let (more, ps) ← callEach name args ps
    return (failed + more, p :: ps)

/-- Calls the function with a name in each plugin and counts the failures. -/
def callAll (d : Drive) (name : String) (args : List (Ty × Datum)) : Host Drive := do
  let (failed, plugins) ← callEach name args d.plugins
  return { d with plugins, failures := d.failures + failed }

/-- Loads the plugins of a manifest and initializes each. -/
def start (c : Manifest.Config) : Host (Except Error Drive) := do
  match ← (Manager.ofConfig c).loadConfigured c with
  | (.error e, manager) =>
    manager.close
    return .error e
  | (.ok plugins, manager) => return .ok (← { manager, plugins : Drive }.callAll "initialize" [])

/-- The number that plugins get in a round. It stops at the greatest that they can take. -/
def counter (n : Nat) : Datum := .int (min (n : Int) (2 ^ 31 - 1))

/-- One round. -/
def round (d : Drive) (n : Nat) : Host Drive := d.callAll "loop" [(.int .i32, counter n)]

/-- Rounds, the first of which has the number `n`. -/
def rounds (d : Drive) (n : Nat) : Nat → Host Drive
  | 0 => return d
  | count + 1 => do (← d.round n).rounds (n + 1) count

/-- Ends all plugins. -/
def close (d : Drive) : Host Unit := do
  ConfiguredPlugin.closeAll d.plugins
  d.manager.close

end Drive

/-- Says which plugins will run. -/
def announce (c : Manifest.Config) : String :=
  label .blue "Info" ++ " Running " ++ tint .cyan (toString c.plugins.length) ++ " plugins\n"
    ++ String.join (c.plugins.map fun e => "  - " ++ tint .cyan e.name ++ " (" ++ e.kind.name ++ ")\n")

/-- Says how a run went. -/
def summary (rounds failures : Nat) : String :=
  if failures = 0 then label .green "Success" ++ " Completed " ++ toString rounds ++ " rounds\n"
  else label .yellow "Warning" ++ " Completed " ++ toString rounds ++ " rounds with " ++ toString failures
    ++ " failed calls\n"

/-- Begins a run. -/
def beginRun (c : Manifest.Config) : Host (Except Failure Drive) := do
  Host.print (announce c)
  return (← Drive.start c).mapError (.during "Failed to load plugins")

/-- Ends a run of so many rounds. -/
def endRun (d : Drive) (rounds : Nat) : Host Unit := do
  d.close
  Host.print (summary rounds d.failures)

/-- Loads the plugins of a manifest and calls them for some rounds. -/
def run (c : Manifest.Config) (rounds : Nat) : Host (Except Failure Unit) := do
  match ← beginRun c with
  | .error f => return .error f
  | .ok d =>
    endRun (← d.rounds 0 rounds) rounds
    return .ok ()

/-! ## Writing a manifest -/

/-- Writes the sample manifest. What is there stays unless told otherwise. -/
def init (path : Path) (overwrites : Bool) : Host (Except Failure Unit) := do
  let files ← Host.files
  if files.exists? path ∧ !overwrites then
    return .error (.of (path.text ++ " already exists; pass --force to overwrite it"))
  else match files.write path Manifest.Config.sample.toUTF8 with
    | .error e => return .error ⟨["Failed to write config", e.message]⟩
    | .ok files =>
      modify fun w => { w with files }
      Host.print (label .green "Success" ++ " Created config at " ++ path.text ++ "\n")
      return .ok ()

/-! ## The whole command -/

/-- Reads a manifest that should be there. -/
def readManifest (files : FileTree) (path : Path) : Except Failure Manifest.Config :=
  if files.exists? path then
    (Manifest.Config.ofFile files path).mapError (.during ("Failed to load config from " ++ path.text))
  else .error (.of ("Config not found at " ++ path.text ++ "; run `trellis init` to create one"))

/-- Makes the log output ready. -/
def readyLog (s : LogSettings) (env : Environment) : Host (Except Failure Unit) := do
  return (← startLogging s env).mapError (.during "Failed to initialize logging")

/-- Reads the manifest of a run and makes the log output ready. -/
def prepareRun (request : Request) (path : Path) (env : Environment) :
    Host (Except Failure (Manifest.Config × LogSettings)) := do
  match readManifest (← Host.files) path with
  | .error f => return .error f
  | .ok c =>
    let settings := (LogSettings.ofManifest c.logging).override request.level request.format
    return (← readyLog settings env).map fun () => (c, settings)

/-- What the caller of the command gets, besides what is printed. -/
structure Outcome where
  exitCode : Nat := 0
  failure : Option Failure := none
  /-- The settings of the log output, if it was made ready. -/
  log : Option LogSettings := none
deriving DecidableEq, Repr

/-- The outcome of a task. -/
def Outcome.of (r : Except Failure Unit) (log : Option LogSettings) : Outcome :=
  match r with
  | .ok () => { log }
  | .error f => { exitCode := 1, failure := some f, log }

/-- Does what a request asks for. -/
def perform (request : Request) (env : Environment) : Host Outcome := do
  match request.task with
  | .check paths kind asJson =>
    let settings := ({} : LogSettings).override request.level request.format
    match ← readyLog settings env with
    | .error f => return .of (.error f) none
    | .ok () => return .of (← check paths kind asJson) settings
  | .run path rounds _ => match ← prepareRun request path env with
    | .error f => return .of (.error f) none
    | .ok (c, settings) => return .of (← run c rounds) settings
  | .init path overwrites => return .of (← init path overwrites) none

/-- The name and the version of the command. -/
def versionLine : String := "trellis 0.1.0\n"

/-- How the command is used. -/
def helpText : String := "Load plugins written in C, C++, Lua and Python behind one interface

Usage: trellis [OPTIONS] <COMMAND>

Commands:
  check  Try to load plugins and report which ones load
  run    Load the configured plugins, call initialize() once, then loop(counter) on every plugin
  init   Write an example trellis.toml
  help   Print this message or the help of the given subcommand(s)

Options:
      --log-level <LEVEL>    Log level for stderr output (default: config's [logging] level, or warn)
      --log-format <FORMAT>  Log format: pretty, json or compact
  -h, --help                 Print help
  -V, --version              Print version
"

/-- The outcome of arguments that ask for no task. -/
def refuse (r : Refusal) : Host Outcome := do
  match r with
  | .usage complaint => return { exitCode := 2, failure := some (.of complaint) }
  | .help =>
    Host.print helpText
    return {}
  | .version =>
    Host.print versionLine
    return {}

/-- The command with the words behind its name. -/
def command (words : List String) (env : Environment) : Host Outcome :=
  match Request.ofArguments words with
  | .error r => refuse r
  | .ok request => perform request env

/-- The events that the log output shows. -/
def Outcome.shownEvents (o : Outcome) (env : Environment) (events : List Event) : List Event :=
  match o.log with
  | none => []
  | some s => events.filter (s.filter env).admits

end PluginHost.CommandLine
