import PluginHost.Logging.Format
import PluginHost.World

/-!
# Filtering events

A filter is a list of directives, each of which lets the events of some targets through up to a level. Of the directives that
apply to an event the one with the longest target decides (`Filter.admits`). A bare level in the settings stands for the
host's own parts only.
-/

namespace PluginHost

/-- Which events a directive lets through: those of targets that start with `target`, up to a rank. -/
structure Directive where
  target : Option String
  rank : Nat
  /-- The directive is limited to spans of work or to fields, which events of the host have none of. -/
  limited : Bool := false
deriving DecidableEq, Repr

namespace Directive

/-- The rank of a level by name or number. -/
def rank? (s : String) : Option Nat :=
  match s.toLower with
  | "" | "error" => some 1
  | "off" => some 0
  | "warn" => some 2
  | "info" => some 3
  | "debug" => some 4
  | "trace" => some 5
  | other =>
    let digits := if other.startsWith "+" then (other.drop 1).toString else other
    if !digits.isEmpty && digits.all Char.isDigit then
      match digits.toNat? with
      | some n => if n ≤ 5 then some n else none
      | none => none
    else none

/-- The rank after an equals sign; nothing there lets everything through. -/
def rankAfterTarget? (s : String) : Option Nat := if s = "" then some 5 else rank? s

/-- What may start a directive. -/
def isStart (c : Char) : Bool := c.isAlphanum || c = '-' || c = ':' || c = '_' || 128 ≤ c.toNat

/-- Reads the part of a directive after a span in brackets. -/
def readAfterSpan? (target : Option String) : List Char → Option Directive
  | [] => some ⟨target, 5, true⟩
  | '=' :: level => (rankAfterTarget? (String.ofList level)).map (⟨target, ·, true⟩)
  | _ => none

/-- Reads one directive: a level, a target, or a target and a level; a span in brackets may follow the target. Blank
characters at the ends are passed over in finding the parts, yet they count as text of the parts. -/
def read? (text : String) : Option Directive :=
  let cs := Text.trim text.toList
  match cs with
  | [] => none
  | c :: _ =>
    if c ≠ '[' && !isStart c then none
    else
      let width := (cs.takeWhile (fun c => c ≠ '=' && c ≠ '[')).length
      let target := String.ofList (text.toList.take width)
      match cs.drop width with
      | [] => match rank? text with
        | some r => some ⟨none, r, false⟩
        | none => some ⟨some text, 5, false⟩
      | '=' :: _ => (rankAfterTarget? (String.ofList (text.toList.drop (width + 1)))).map (⟨some target, ·, false⟩)
      | _ :: span => match span.dropWhile (· ≠ ']') with
        | [] => none
        | _ :: rest => readAfterSpan? (if width = 0 then none else some target) rest

/-- How narrow a directive is. -/
def width (d : Directive) : Nat := (d.target.map (·.utf8ByteSize + 1)).getD 0

/-- Whether a directive applies to an event. -/
def appliesTo (d : Directive) (e : Event) : Bool :=
  !d.limited && (d.target.map fun t => e.target.startsWith t).getD true

end Directive

/-- A list of directives. -/
abbrev Filter := List Directive

namespace Filter

/-- Lets grave events through only. -/
def fallback (level : LogLevel) : Filter := [⟨none, level.rank, false⟩]

/-- Reads directives with commas between them. One that cannot be read spoils all; none at all means errors only. -/
def read? (text : String) : Option Filter := do
  let directives ← ((text.splitOn ",").filter (· ≠ "")).mapM Directive.read?
  if directives = [] then some (fallback .error) else some directives

/-- The directive that decides about an event: the narrowest one, and of several with one target the last. -/
def decisive? (f : Filter) (e : Event) : Option Directive :=
  (f.filter (·.appliesTo e)).foldl (fun best d => match best with
    | some b => if b.width ≤ d.width then some d else some b
    | none => some d) none

/-- Whether a filter lets an event through. -/
def admits (f : Filter) (e : Event) : Bool :=
  match f.decisive? e with
  | some d => decide (e.level.rank ≤ d.rank)
  | none => false

/-- The parts of the host that a bare level stands for. -/
def ownTargets : List String := ["trellis", "trellis_core", "trellis_native", "trellis_lua", "trellis_python"]

/-- The directives that a level in the settings stands for. -/
def directiveText (level : String) : String :=
  if level.contains '=' || level.contains ',' then level
  else "warn" ++ String.join (ownTargets.map fun t => "," ++ t ++ "=" ++ level)

/-- The filter that a text describes, or else warnings. -/
def ofText (text : String) : Filter := (read? text).getD (fallback .warn)

end Filter

/-- The environment variables of the host. -/
abbrev Environment := List (String × String)

/-- The value of an environment variable. -/
def Environment.get? (env : Environment) (name : String) : Option String := (env.find? (·.1 = name)).map (·.2)

namespace LogSettings

/-- The filter in force: two environment variables win over the settings. -/
def filter (s : LogSettings) (env : Environment) : Filter :=
  .ofText ((env.get? "TRELLIS_LOG").or (env.get? "RUST_LOG") |>.getD (Filter.directiveText s.level))

/-- The format in force. Nobody watches the log, so the plain format is the last resort. -/
def formatInForce (s : LogSettings) (env : Environment) : LogFormat :=
  ((env.get? "TRELLIS_LOG_FORMAT").bind LogFormat.read?).or s.format |>.getD .compact

/-- The directory of log files. -/
def directory (file : Manifest.FileLogging) (env : Environment) : Except Error Path :=
  match (env.get? "TRELLIS_LOG_DIR").map Path.mk |>.or file.directory with
  | some d => .ok d
  | none => match (env.get? "HOME").or (env.get? "USERPROFILE") with
    | some home => .ok (((Path.mk home).join ⟨".trellis"⟩).join ⟨"logs"⟩)
    | none => .error (.config (.other "no home directory for file logging; set logging.file.directory"))

end LogSettings

/-- Makes the log output ready: the directory of log files has to be there. -/
def startLogging (s : LogSettings) (env : Environment) : Host (Except Error Unit) := do
  match s.file with
  | none => return .ok ()
  | some file => match LogSettings.directory file env with
    | .error e => return .error e
    | .ok d => match (← Host.files).makeDirectories d with
      | .error e => return .error (.file e)
      | .ok files =>
        modify fun w => { w with files }
        return .ok ()

end PluginHost
