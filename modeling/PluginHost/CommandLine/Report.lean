import PluginHost.Error

/-!
# What the command prints

Lines for people have colours; the report for machines is JSON.
-/

namespace PluginHost.CommandLine

/-- The colours of a terminal. -/
inductive Colour
  | red | green | yellow | blue | cyan
deriving DecidableEq, Repr

/-- The number of a colour. -/
def Colour.code : Colour → String
  | red => "31"
  | green => "32"
  | yellow => "33"
  | blue => "34"
  | cyan => "36"

/-- A text in a colour. -/
def tint (c : Colour) (text : String) : String := "\x1b[" ++ c.code ++ "m" ++ text ++ "\x1b[39m"

/-- A text in a colour and bold, with a colon. -/
def label (c : Colour) (text : String) : String := "\x1b[1m" ++ tint c (text ++ ":") ++ "\x1b[0m"

/-! ## Failures -/

/-- Why a command failed: what was being done, and the causes, each the cause of the one before. -/
structure Failure where
  reasons : List String
deriving DecidableEq, Repr

/-- A failure with one reason. -/
def Failure.of (reason : String) : Failure := ⟨[reason]⟩

/-- A failure of something that was being done. -/
def Failure.during (doing : String) (e : Error) : Failure := ⟨doing :: e.message :: e.cause.toList⟩

/-- A failure in words. -/
def Failure.message (f : Failure) : String := ": ".intercalate f.reasons

/-! ## Reports on plugins -/

/-- How the loading of a plugin went. Without a kind it was not tried. -/
structure LoadReport where
  path : Path
  kind : Option PluginKind
  isLoaded : Bool
  error : Option String
deriving DecidableEq, Repr

/-- A report as a line. -/
def LoadReport.line (r : LoadReport) : String :=
  let subject := " " ++ r.path.text ++ " (" ++ tint .cyan ((r.kind.map (·.name)).getD "?") ++ ")"
  match r.error with
  | none => label .green "Loaded" ++ subject ++ "\n"
  | some e => label .red "Failed" ++ subject ++ ": " ++ e ++ "\n"

/-- A character inside a JSON text. -/
def jsonChar (c : Char) : String :=
  match c with
  | '"' => "\\\""
  | '\\' => "\\\\"
  | '\n' => "\\n"
  | '\r' => "\\r"
  | '\t' => "\\t"
  | '\x08' => "\\b"
  | '\x0c' => "\\f"
  | c => if c.toNat < 32 then "\\u00" ++ String.ofList [(c.toNat / 16).digitChar, (c.toNat % 16).digitChar] else c.toString

/-- A JSON text. -/
def jsonText (s : String) : String := "\"" ++ String.join (s.toList.map jsonChar) ++ "\""

/-- A JSON text, or null. -/
def jsonText? (s : Option String) : String := (s.map jsonText).getD "null"

/-- A report as a JSON object, inside a list. -/
def LoadReport.json (r : LoadReport) : String :=
  "  \x7b\n    \"path\": " ++ jsonText r.path.text ++ ",\n    \"kind\": " ++ jsonText? (r.kind.map (·.name))
    ++ ",\n    \"loaded\": " ++ (if r.isLoaded then "true" else "false") ++ ",\n    \"error\": " ++ jsonText? r.error
    ++ "\n  \x7d"

/-- Reports as a JSON list. -/
def jsonReports (rs : List LoadReport) : String :=
  if rs = [] then "[]\n" else "[\n" ++ ",\n".intercalate (rs.map (·.json)) ++ "\n]\n"

end PluginHost.CommandLine
