import PluginHost.Instances
import PluginHost.Logging.Format

/-!
# Arguments of the command

`Request.ofArguments` reads the words behind the name of the command: options about the log output anywhere, one
subcommand, and what belongs to it. An option with a value takes it from the same word or from the next one, which must not
look like an option. Each option stands at most once before the subcommand and at most once behind it, where it counts more.
-/

namespace PluginHost.CommandLine

/-- What is to be done. -/
inductive Task
  /-- Load plugins and report which of them load. -/
  | check (paths : List Path) (kind : Option PluginKind) (asJson : Bool)
  /-- Load the plugins of a manifest and call them, with a pause in milliseconds between the rounds. -/
  | run (manifest : Path) (rounds pause : Nat)
  /-- Write a manifest to start from. -/
  | init (path : Path) (overwrites : Bool)
deriving DecidableEq, Repr

/-- What the user asks for. -/
structure Request where
  level : Option String := none
  format : Option LogFormat := none
  task : Task
deriving DecidableEq, Repr

/-- Why nothing is to be done. -/
inductive Refusal
  | usage (complaint : String)
  | help
  | version
deriving DecidableEq, Repr

/-! ## Options -/

/-- The subcommands. -/
inductive Subcommand
  | check | run | init
deriving DecidableEq, Repr

/-- The subcommand with a name. -/
def Subcommand.ofName? : String → Option Subcommand
  | "check" => some check
  | "run" => some run
  | "init" => some init
  | _ => none

/-- The options. -/
inductive Key
  | logLevel | logFormat | kind | json | manifest | iterations | interval | path | force | help | version
deriving DecidableEq, Repr

/-- How an option is written. -/
structure Switch where
  key : Key
  long : String
  short : Option Char := none
  takesValue : Bool := true

/-- The options that can stand before the subcommand (`none`) or behind it. -/
def switches : Option Subcommand → List Switch
  | none => common ++ [⟨.version, "version", some 'V', false⟩]
  | some .check => common ++ [⟨.kind, "kind", some 'k', true⟩, ⟨.json, "json", none, false⟩]
  | some .run => common ++ [⟨.manifest, "config", some 'c', true⟩, ⟨.iterations, "iterations", some 'n', true⟩,
      ⟨.interval, "interval-ms", none, true⟩]
  | some .init => common ++ [⟨.path, "path", some 'p', true⟩, ⟨.force, "force", some 'f', false⟩]
where
  /-- The options that can stand anywhere. -/
  common : List Switch :=
    [⟨.logLevel, "log-level", none, true⟩, ⟨.logFormat, "log-format", none, true⟩, ⟨.help, "help", some 'h', false⟩]

/-- What was read so far. -/
structure Draft where
  subcommand : Option Subcommand := none
  /-- The options that were given on this side of the subcommand. -/
  given : List Key := []
  level : Option String := none
  format : Option LogFormat := none
  paths : List Path := []
  kind : Option PluginKind := none
  json : Bool := false
  /-- The manifest to read or to write. -/
  manifest : Option Path := none
  iterations : Option Nat := none
  interval : Option Nat := none
  force : Bool := false

/-- Reads a number below a bound. A plus sign is allowed; so is a minus sign before zero, if the number is read with a sign. -/
def readNumber? (bound : Nat) (isSigned : Bool) (s : String) : Option Nat :=
  match s.toList with
  | '+' :: ds => digits? ds
  | '-' :: ds => if isSigned then (digits? ds).filter (· = 0) else none
  | ds => digits? ds
where
  /-- The number that digits stand for. -/
  digits? (ds : List Char) : Option Nat :=
    if ds ≠ [] ∧ ds.all Char.isDigit then
      let n := ds.foldl (fun n c => n * 10 + (c.toNat - '0'.toNat)) 0
      if n < bound then some n else none
    else none

/-- Reads a path, which is never empty. -/
def readPath (s : String) : Except Refusal Path :=
  if s = "" then .error (.usage "a value is required but none was supplied") else .ok ⟨s⟩

/-- What is said about a value that an option does not take. -/
def invalidValue (value reason : String) : Refusal := .usage ("invalid value '" ++ value ++ "': " ++ reason)

/-- Takes the value of an option. -/
def Draft.take (d : Draft) (k : Key) (value : String) : Except Refusal Draft :=
  if k ∈ d.given then .error (.usage "an option cannot be used multiple times")
  else
    let d := { d with given := k :: d.given }
    let number (bound : Nat) (isSigned : Bool) : Except Refusal Nat :=
      match readNumber? bound isSigned value with
      | some n => .ok n
      | none => .error (invalidValue value "no number in range")
    match k with
    | .logLevel => .ok { d with level := some value }
    | .logFormat => match LogFormat.read? value with
      | some f => .ok { d with format := some f }
      | none => .error (invalidValue value (LogFormat.complaint value))
    | .kind => match PluginKind.read? value with
      | some kind => .ok { d with kind := some kind }
      | none => .error (invalidValue value (ConfigError.invalidPluginKind value).message)
    | .manifest | .path => do
      let p ← readPath value
      return { d with manifest := some p }
    | .iterations => do
      let n ← number (2 ^ 32) true
      return { d with iterations := some n }
    | .interval => do
      let n ← number (2 ^ 64) false
      return { d with interval := some n }
    | .json => .ok { d with json := true }
    | .force => .ok { d with force := true }
    | .help => .error .help
    | .version => .error .version

/-! ## Words -/

/-- What is said about a word that has no place. -/
def unexpected (word : String) : Refusal := .usage ("unexpected argument '" ++ word ++ "' found")

/-- Takes a word that is no option. -/
def Draft.takeWord (d : Draft) (word : String) : Except Refusal Draft :=
  match d.subcommand with
  | some .check => do
    let p ← readPath word
    return { d with paths := d.paths ++ [p] }
  | some .run | some .init | none => .error (unexpected word)

/-- Takes an option that was written out; the result also says which option waits for its value. -/
def Draft.takeLong (d : Draft) (body : String) : Except Refusal (Draft × Option Key) :=
  let cs := body.toList
  let name := String.ofList (cs.takeWhile (· ≠ '='))
  let attached := match cs.dropWhile (· ≠ '=') with
    | _ :: value => some (String.ofList value)
    | [] => none
  match (switches d.subcommand).find? (·.long = name), attached with
  | none, _ => .error (unexpected ("--" ++ body))
  | some s, some value =>
    if s.takesValue then do return (← d.take s.key value, none)
    else .error (.usage ("unexpected value '" ++ value ++ "' found; no more were expected"))
  | some s, none =>
    if s.takesValue then .ok (d, some s.key) else do return (← d.take s.key "", none)

/-- Takes the letters of a word of short options; the result also says which option waits for its value. -/
def Draft.takeShort (d : Draft) : List Char → Except Refusal (Draft × Option Key)
  | [] => .ok (d, none)
  | c :: rest => match (switches d.subcommand).find? (·.short = some c) with
    | none => .error (unexpected ("-" ++ String.singleton c))
    | some s =>
      if s.takesValue then match rest with
        | [] => .ok (d, some s.key)
        | '=' :: value => do return (← d.take s.key (String.ofList value), none)
        | value => do return (← d.take s.key (String.ofList value), none)
      else do takeShort (← d.take s.key "") rest

/-- The subcommands that help is asked for: at most one. -/
def readHelp : List String → Refusal
  | [] | ["help"] => .help
  | [name] => if (Subcommand.ofName? name).isSome then .help else .usage ("unrecognized subcommand '" ++ name ++ "'")
  | _ => .usage "unrecognized subcommand"

/-- Takes all words. Behind two dashes no word is an option. -/
def Draft.takeAll (d : Draft) (waiting : Option Key) : List String → Except Refusal Draft
  | [] => match waiting with
    | none => .ok d
    | some _ => .error (.usage "a value is required but none was supplied")
  | word :: rest =>
    match word.toList, waiting with
    | '-' :: _ :: _, some _ => .error (.usage "a value is required but none was supplied")
    | ['-', '-'], none => rest.foldlM Draft.takeWord d
    | '-' :: '-' :: body, none => do
      let (d, waiting) ← d.takeLong (String.ofList body)
      d.takeAll waiting rest
    | '-' :: c :: cs, none => do
      let (d, waiting) ← d.takeShort (c :: cs)
      d.takeAll waiting rest
    | _, some k => do
      let d ← d.take k word
      d.takeAll none rest
    | _, none =>
      if d.subcommand.isSome then do
        let d ← d.takeWord word
        d.takeAll none rest
      else if word = "help" then .error (readHelp rest)
      else match Subcommand.ofName? word with
        | none => .error (.usage ("unrecognized subcommand '" ++ word ++ "'"))
        | some s => { d with subcommand := some s, given := [] }.takeAll none rest

/-- The manifest that is read or written if no other is named. -/
def manifestName : Path := ⟨"trellis.toml"⟩

/-- The request that was read. -/
def Draft.finish (d : Draft) : Except Refusal Request :=
  let request (task : Task) : Except Refusal Request := .ok ⟨d.level, d.format, task⟩
  match d.subcommand with
  | none => .error (.usage "a subcommand is required")
  | some .check =>
    if d.paths = [] then .error (.usage "the following required arguments were not provided: <PATH>...")
    else request (.check d.paths d.kind d.json)
  | some .run => request (.run (d.manifest.getD manifestName) (d.iterations.getD 10) (d.interval.getD 500))
  | some .init => request (.init (d.manifest.getD manifestName) d.force)

/-- Reads the words behind the name of the command. -/
def Request.ofArguments (words : List String) : Except Refusal Request := do
  (← ({} : Draft).takeAll none words).finish

end PluginHost.CommandLine
