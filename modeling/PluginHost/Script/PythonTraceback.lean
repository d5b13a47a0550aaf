import PluginHost.Script.PythonParser
import PluginHost.Script.PythonValue
import PluginHost.Script.PythonText
import PluginHost.Text.Wide

/-!
# Reports of the places that an exception went through

Each place is reported with its file, its line and its function. If the file is there, the line follows, and below it marks
under the part that was being evaluated, unless that is the whole line. Operators and indexes are marked on their own.
-/

namespace PluginHost.Python

/-- The lines of a file, each with its end; none if the file is not there or is no text. -/
def sourceLines (files : FileTree) (path : String) : List (List Char) :=
  match files.readText ⟨path⟩ with
  | .error _ => []
  | .ok s =>
    let cs := match unifyLineEnds s.toList with
      | '\uFEFF' :: cs => cs
      | cs => cs
    let cs := if cs = [] ∨ cs.getLast? = some '\n' then cs else cs ++ ['\n']
    splitLines [] cs
where
  /-- The lines of a text, each with its end. -/
  splitLines (acc : List Char) : List Char → List (List Char)
    | [] => if acc = [] then [] else [acc.reverse]
    | '\n' :: cs => ('\n' :: acc).reverse :: splitLines [] cs
    | c :: cs => splitLines (c :: acc) cs

/-- Whether a character is white space. -/
def isSpaceChar (c : Char) : Bool := Text.isSpace c.toNat

/-- A line without the white space at its ends. -/
def stripLine (cs : List Char) : List Char :=
  ((cs.dropWhile isSpaceChar).reverse.dropWhile isSpaceChar).reverse

/-- How many characters some bytes of a line are; a character that is cut counts. -/
def charactersIn (cs : List Char) (bytes : Nat) : Nat :=
  match cs with
  | [] => 0
  | c :: cs => if bytes = 0 then 0 else 1 + charactersIn cs (bytes - c.utf8Size)

/-- The columns of the first characters of a line. -/
def columnsOf (cs : List Char) (count : Nat) : Nat := ((cs.take count).map Text.columns).foldl (· + ·) 0

/-- The first index, from one on, at which a line has a character that is looked for; its length if there is none. -/
def seek (cs : List Char) (isFound : Char → Bool) (i : Nat) : Nat :=
  i + ((cs.drop i).takeWhile fun c => !isFound c).length

/-- Which characters of an expression are marked on their own: those of its operator, or the index with its brackets. -/
def anchors? (segment : List Char) : Option (Nat × Nat) := do
  match ← parseLine? (String.ofList segment) with
  | .binary _ left right _ =>
    let start := charactersIn segment left.span.endColumn
    let stop := charactersIn segment right.span.column
    let operator := (segment.drop start).take (stop - start)
    let blanks := (operator.takeWhile isSpaceChar).length
    let first := left.span.endColumn + blanks
    let width := match operator[blanks + 1]? with
      | some c => if isSpaceChar c then 1 else 2
      | none => 1
    let first := seek segment (fun c => !(isSpaceChar c || c = ')' || c = '#')) first
    return (charactersIn segment first, charactersIn segment (first + width))
  | .subscript object index _ =>
    let open_ := seek segment (· = '[') (charactersIn segment object.span.endColumn)
    let close := seek segment (· = ']') (charactersIn segment (index.span.endColumn + 1))
    return (open_, if close < segment.length then close + 1 else close)
  | _ => none

/-- The marks below a line, if the place is not the whole line. -/
def marks? (line : List Char) (span : Span) : Option String :=
  let stripped := stripLine line
  let outside := line.length - stripped.length
  let start := charactersIn line span.column
  let stop := charactersIn line span.endColumn
  let isOneLine := decide (span.line = span.endLine)
  let segment := (line.take stop).drop start
  let anchors := if isOneLine then anchors? segment else none
  let stop := if isOneLine then stop else (line.reverse.dropWhile isSpaceChar).length
  let stands : Bool := anchors.any fun (left, right) => decide (left < right)
  if stop < start + stripped.length || stands then
    let first := columnsOf line start + 1
    let last := columnsOf line stop + 1
    let fill (c : Char) (count : Int) : List Char := List.replicate count.toNat c
    let marks := match anchors with
      | some (left, right) =>
        let left := columnsOf segment left
        let right := columnsOf segment right
        fill '~' left ++ fill '^' ((right : Int) - left) ++ fill '~' ((last : Int) - first - right)
      | none => fill '^' ((last : Int) - first)
    some (String.ofList (fill ' ' (4 + ((first - outside : Nat) : Int)) ++ marks ++ ['\n']))
  else none

/-- The report of a place. -/
def TraceEntry.report (files : FileTree) (e : TraceEntry) : String :=
  let head := "  File \"" ++ e.file ++ "\", line " ++ toString e.span.line ++ ", in " ++ e.function ++ "\n"
  match (sourceLines files e.file)[e.span.line - 1]? with
  | none => head
  | some line =>
    let stripped := stripLine line
    if stripped = [] then head
    else head ++ "    " ++ String.ofList stripped ++ "\n" ++ (marks? line e.span).getD ""

/-- How often a place is reported before it is only counted. -/
def repeatLimit : Nat := 3

/-- The line that counts the places left out. -/
def repeatLine (count : Nat) : List String :=
  if count ≤ repeatLimit then []
  else
    let more := count - repeatLimit
    ["  [Previous line repeated " ++ toString more ++ " more time" ++ (if more = 1 then "" else "s") ++ "]\n"]

/-- The reports of places, outermost first; `last` is the place before and how often it came in a row. -/
def reports (files : FileTree) : Option TraceEntry → Nat → List TraceEntry → List String
  | _, count, [] => repeatLine count
  | last, count, e :: rest =>
    let isSame := match last with
      | some l => l.file == e.file && l.span.line == e.span.line && l.function == e.function
      | none => false
    if isSame then
      if repeatLimit ≤ count then reports files last (count + 1) rest
      else e.report files :: reports files (some e) (count + 1) rest
    else repeatLine count ++ e.report files :: reports files (some e) 1 rest

end PluginHost.Python
