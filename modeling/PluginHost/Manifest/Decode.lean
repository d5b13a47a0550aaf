import PluginHost.Decimal.Notation
import PluginHost.Manifest.Config
import PluginHost.Manifest.Reader
import PluginHost.Text.Quoted

/-!
# From documents to manifests

Every section is a *record*: a list of fields, each with a decoder. A record may be written as a table, in any order of
keys, or as an array of its fields in their order. Unknown keys are refused. A refusal (`Refusal`) says what was expected and
points at the offending key or value.
-/

namespace PluginHost.Manifest

/-- What a decoder refuses. -/
inductive Complaint
  | wrongType (found expected : String)
  | unknownField (name : String) (fields : List String)
  | missingField (name : String)
  | missingItem (count : Nat) (record : String) (fields : Nat)
  | unknownVariant (name : String) (variants : List String)
  | notAVariant
  | notOneVariant (many : Bool)
  | notEmpty
  | unfit
  | noCharacter
  | malformed
deriving DecidableEq, Repr

/-- Names in the notation of lists of alternatives. -/
def ticked (s : String) : String := "`" ++ s ++ "`"

/-- The alternatives that were expected. -/
def alternatives : List String → String
  | [] => "there are no fields"
  | [a] => "expected " ++ ticked a
  | [a, b] => "expected " ++ ticked a ++ " or " ++ ticked b
  | names => "expected one of " ++ ", ".intercalate (names.map ticked)

/-- The wording of a complaint. -/
def Complaint.message : Complaint → String
  | wrongType found expected => "invalid type: " ++ found ++ ", expected " ++ expected
  | unknownField name fields => "unknown field " ++ ticked name ++ ", " ++ alternatives fields
  | missingField name => "missing field " ++ ticked name
  | missingItem count record fields =>
    "invalid length " ++ toString count ++ ", expected struct " ++ record ++ " with " ++ toString fields ++ " elements"
  | unknownVariant name variants => "unknown variant " ++ ticked name ++ ", " ++ alternatives variants
  | notAVariant => "wanted string or table"
  | notOneVariant false => "wanted exactly 1 element, found 0 elements"
  | notOneVariant true => "wanted exactly 1 element, more than 1 element"
  | notEmpty => "expected empty table"
  | unfit => "number overflowed"
  | noCharacter => "invalid value, expected unicode hexadecimal value"
  | malformed => "malformed document"

/-- A complaint and the part of the text it is about. -/
structure Refusal where
  complaint : Complaint
  span : Span
deriving DecidableEq, Repr

/-- A decoder of values that stand somewhere in the text. -/
abbrev Decoder (α : Type) := Span → Value → Except Refusal α

/-- A finite number with a point, whatever its size. -/
def floatText (x : Float) : String :=
  let t := Decimal.plain (.ofFloat x)
  if x.isFinite && !t.contains '.' then t ++ ".0" else t

/-- What a value is called in a complaint; numbers beyond all types have a complaint of their own. -/
def Value.description : Value → String
  | text s => "string " ++ Text.quote s
  | integer n =>
    if n < -2 ^ 63 ∨ 2 ^ 64 ≤ n then "integer " ++ ticked (toString n) ++
      (if n < 2 ^ 127 then " as i128" else " as u128")
    else "integer " ++ ticked (toString n)
  | float x => "floating point " ++ ticked (floatText x)
  | boolean b => "boolean " ++ ticked (toString b)
  | array _ _ => "sequence"
  | datetime | table _ _ | unfit => "map"

/-- Refuses a value that is not of the expected type. -/
def refuseType {α : Type} (expected : String) (span : Span) (v : Value) : Except Refusal α :=
  match v with
  | .unfit => .error ⟨.unfit, span⟩
  | _ => .error ⟨.wrongType v.description expected, span⟩

def decodeText : Decoder String
  | _, .text s => .ok s
  | span, v => refuseType "a string" span v

def decodeBoolean : Decoder Bool
  | _, .boolean b => .ok b
  | span, v => refuseType "a boolean" span v

def decodePath : Decoder Path
  | _, .text s => .ok ⟨s⟩
  | span, v => refuseType "path string" span v

/-- The kind with a name, which stands at `span`. -/
def decodeKindName (span : Span) (name : String) : Except Refusal PluginKind :=
  match PluginKind.ofName? name with
  | some k => .ok k
  | none => .error ⟨.unknownVariant name (PluginKind.values.map (·.name)), span⟩

/-- A kind is a name, or a table whose only key is the name, with nothing in it. -/
def decodeKind : Decoder PluginKind
  | span, .text s => decodeKindName span s
  | span, .table _ [] => .error ⟨.notOneVariant false, span⟩
  | _, .table _ [(key, at_, v)] => do
    let k ← decodeKindName key.span key.name
    match v with
    | .table _ [] | .array _ [] => .ok k
    | _ => .error ⟨.notEmpty, at_⟩
  | span, .table _ (_ :: _ :: _) => .error ⟨.notOneVariant true, span⟩
  | span, _ => .error ⟨.notAVariant, span⟩

/-- A field of the record `α`: its name and how its value changes the record. -/
structure Field (α : Type) where
  name : String
  put : Span → Value → α → Except Refusal α

/-- A field whose decoded value replaces a part of the record. -/
def Field.of {α β : Type} (name : String) (decode : Decoder β) (set : β → α → α) : Field α :=
  ⟨name, fun span v a => return set (← decode span v) a⟩

/-- A record under construction: its name, its fields in order, and how many of the first ones have to be given. -/
structure Record (α : Type) where
  name : String
  fields : List (Field α)
  required : Nat := 0

/-- The field of a date or time, which is a table of its own kind. -/
def datetimeField : String := "$__toml_private_datetime"

namespace Record

variable {α : Type}

/-- The names of the fields. -/
def fieldNames (r : Record α) : List String := r.fields.map (·.name)

/-- Puts the entries of a table into the record. -/
def putEntries (r : Record α) (a : α) : Entries → Except Refusal α
  | [] => .ok a
  | (key, span, v) :: rest => match r.fields.find? (·.name = key.name) with
    | none => .error ⟨.unknownField key.name r.fieldNames, key.span⟩
    | some field => do r.putEntries (← field.put span v a) rest

/-- Puts the items of an array into the fields, one by one. Items beyond the last field do not count. -/
def putItems (a : α) : List (Field α) → List (Span × Value) → Except Refusal α
  | field :: fields, (span, v) :: items => do putItems (← field.put span v a) fields items
  | _, _ => .ok a

/-- Decodes a record that starts as `a`. -/
def decode (r : Record α) (a : α) : Decoder α
  | span, .table _ entries => do
    let result ← r.putEntries a (Entries.sorted entries)
    match (r.fieldNames.take r.required).find? fun name => (Entries.get? entries name).isNone with
    | some name => .error ⟨.missingField name, span⟩
    | none => .ok result
  | span, .array _ items => do
    let result ← putItems a r.fields items
    if items.length < r.required then .error ⟨.missingItem items.length r.name r.fields.length, span⟩ else .ok result
  | span, .datetime => .error ⟨.unknownField datetimeField r.fieldNames, span⟩
  | span, v => refuseType ("struct " ++ r.name) span v

end Record

/-! ## The sections -/

def FileLogging.record : Record FileLogging where
  name := "FileLoggingConfig"
  fields := [
    .of "enabled" decodeBoolean fun b r => { r with enabled := b },
    .of "level" decodeText fun s r => { r with level := s },
    .of "directory" decodePath fun p r => { r with directory := some p }]

def Logging.record : Record Logging where
  name := "LoggingSection"
  fields := [
    .of "level" decodeText fun s r => { r with level := s },
    .of "format" decodeText fun s r => { r with format := s },
    .of "file" (FileLogging.record.decode {}) fun f r => { r with file := f }]

def LuaOptions.record : Record LuaOptions where
  name := "LuaSection"
  fields := [
    .of "open_standard_libraries" decodeBoolean fun b r => { r with openStandardLibraries := b },
    .of "auto_run" decodeBoolean fun b r => { r with autoRun := b }]

def PythonOptions.record : Record PythonOptions where
  name := "PythonSection"
  fields := [.of "own_gil" decodeBoolean fun b r => { r with ownLock := b }]

def Entry.record : Record Entry where
  name := "PluginEntry"
  fields := [
    .of "name" decodeText fun s r => { r with name := s },
    .of "kind" decodeKind fun k r => { r with kind := k },
    .of "path" decodePath fun p r => { r with path := some p },
    .of "crash_guard" decodeBoolean fun b r => { r with crashGuard := b },
    .of "optional" decodeBoolean fun b r => { r with optional := b }]
  required := 2

/-- The entries of the manifest, in the order of the document. -/
def decodePlugins : Decoder (List Entry)
  | _, .array _ items => items.mapM fun (span, v) => Entry.record.decode ⟨"", .fallback, none, false, false⟩ span v
  | span, v => refuseType "a sequence" span v

def Config.record : Record Config where
  name := "Config"
  fields := [
    .of "logging" (Logging.record.decode {}) fun s c => { c with logging := s },
    .of "lua" (LuaOptions.record.decode {}) fun s c => { c with lua := s },
    .of "python" (PythonOptions.record.decode {}) fun s c => { c with python := s },
    .of "plugins" decodePlugins fun es c => { c with plugins := es }]

/-- Decodes the entries of a document. -/
def Config.ofEntries (entries : Entries) : Except Refusal Config :=
  Config.record.putEntries {} (Entries.sorted entries)

/-! ## Pointing at the text -/

/-- Drops bytes from a text that is given as characters. -/
def dropBytes : Nat → List Char → List Char
  | _, [] => []
  | n, c :: cs => if n = 0 then c :: cs else dropBytes (n - c.utf8Size) cs

/-- The characters among the first `n` bytes. -/
def takeBytes : Nat → List Char → List Char
  | _, [] => []
  | n, c :: cs => if n = 0 then [] else c :: takeBytes (n - c.utf8Size) cs

/-- The complaint under the line it is about, with a mark below the offending part. -/
def Refusal.render (r : Refusal) (text : String) : String :=
  let before := takeBytes r.span.start text.toList
  let line := (before.filter (· = '\n')).length
  let column := (before.reverse.takeWhile (· ≠ '\n')).length
  let content := (text.splitOn "\n").getD line ""
  let width := max 1 (min (r.span.stop - r.span.start) (content.utf8ByteSize - column))
  let number := toString (line + 1)
  let gutter := String.ofList (List.replicate (number.length + 1) ' ') ++ "|"
  "TOML parse error at line " ++ number ++ ", column " ++ toString (column + 1) ++ "\n"
    ++ gutter ++ "\n"
    ++ number ++ " | " ++ content ++ "\n"
    ++ gutter ++ String.ofList (List.replicate (column + 1) ' ') ++ String.ofList (List.replicate width '^') ++ "\n"
    ++ r.complaint.message ++ "\n"

/-- The refusal that a fault of the document amounts to. -/
def DocumentFault.refusal : DocumentFault → Refusal
  | malformed offset => ⟨.malformed, ⟨offset, offset⟩⟩
  | noCharacter offset => ⟨.noCharacter, ⟨offset, offset⟩⟩

/-- The manifest that a document describes, before its entries are looked at together. -/
def Config.decode (text : String) : Except Refusal Config :=
  match readDocument text with
  | .error fault => .error fault.refusal
  | .ok entries => Config.ofEntries entries

/-- Reads a manifest. -/
def Config.ofText (text : String) : Except ConfigError Config :=
  match Config.decode text with
  | .error refusal => .error (.document (refusal.render text))
  | .ok c => c.validate

end PluginHost.Manifest
