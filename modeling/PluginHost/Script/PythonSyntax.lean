/-!
# Syntax of Python modules

The syntax trees that the parser makes. Whatever can fail while it runs carries its place in the source, because reports of
errors underline it. Texts are sequences of code points, since a program may hold code points that are no characters.
-/

namespace PluginHost.Python

/-- A text: its code points. -/
abbrev Text := List Nat

/-- The text of a string. -/
def Text.ofString (s : String) : Text := s.toList.map Char.toNat

/-- A place in the source: lines from one, columns in bytes from zero, the end excluded. -/
structure Span where
  line : Nat := 1
  column : Nat := 0
  endLine : Nat := 1
  endColumn : Nat := 0
deriving DecidableEq, Repr, Inhabited

/-- Binary operators. -/
inductive BinOp
  | add | sub | mul | matMul | div | mod | pow | lshift | rshift | bitOr | bitXor | bitAnd | floorDiv
deriving DecidableEq, Repr

/-- Unary operators. -/
inductive UnOp
  | neg | pos | invert | not
deriving DecidableEq, Repr

/-- Comparisons. -/
inductive CmpOp
  | eq | ne | lt | le | gt | ge | is | isNot | «in» | notIn
deriving DecidableEq, Repr

/-- Constants. -/
inductive Literal
  | none | ellipsis
  | bool (b : Bool)
  | int (n : Int)
  | float (x : Float)
  | imaginary (x : Float)
  | str (s : Text)
  | bytes (b : List UInt8)

/-- What a comprehension makes. -/
inductive CompKind
  | list | set | generator
deriving DecidableEq, Repr

mutual

/-- Expressions. -/
inductive Expr
  | literal (value : Literal) (span : Span)
  | name (id : String) (span : Span)
  | tuple (items : List Expr) (span : Span)
  | list (items : List Expr) (span : Span)
  | set (items : List Expr) (span : Span)
  /-- Entries; one without a key is a mapping to be merged. -/
  | dict (entries : List (Option Expr × Expr)) (span : Span)
  | unary (op : UnOp) (operand : Expr) (span : Span)
  | binary (op : BinOp) (left right : Expr) (span : Span)
  | all (operands : List Expr) (span : Span)
  | any (operands : List Expr) (span : Span)
  | compare (first : Expr) (rest : List (CmpOp × Expr)) (span : Span)
  | call (function : Expr) (args : List Arg) (span : Span)
  | field (object : Expr) (name : String) (span : Span)
  | subscript (object index : Expr) (span : Span)
  | slice (start stop step : Option Expr) (span : Span)
  | lambda (body : FunctionCode) (span : Span)
  | choose (condition yes no : Expr) (span : Span)
  | comp (kind : CompKind) (item : Expr) (clauses : List Clause) (locals : List String) (span : Span)
  | dictComp (key value : Expr) (clauses : List Clause) (locals : List String) (span : Span)
  | starred (e : Expr) (span : Span)
  | walrus (name : String) (value : Expr) (span : Span)
  /-- A text with values in it. -/
  | joined (parts : List Part) (span : Span)
  | yield (value : Option Expr) (span : Span)

/-- Arguments of a call. -/
inductive Arg
  | positional (e : Expr)
  | spread (e : Expr)
  | keyword (name : String) (e : Expr)
  | merge (e : Expr)

/-- A loop of a comprehension with its conditions. -/
inductive Clause
  | mk (target iterable : Expr) (conditions : List Expr)

/-- Pieces of a text with values in it: how a value is converted, and how it is formatted. -/
inductive Part
  | text (s : Text)
  | value (e : Expr) (conversion : Option Char) (format : List Part)

/-- A parameter with the expression of its default. -/
inductive Param
  | mk (name : String) (default : Option Expr)

/-- A function: its parameters, its statements, which names it binds itself, and whether it hands values out. -/
inductive FunctionCode
  | mk (name : String) (params : List Param) (positionalOnly : Nat) (rest : Option String) (keywordOnly : List Param)
      (restKeywords : Option String) (body : List Stmt) (locals globals : List String) (yields : Bool)

/-- Handlers of exceptions. -/
inductive Handler
  | mk (type : Option Expr) (name : Option String) (body : List Stmt)

/-- Statements. -/
inductive Stmt
  | expr (e : Expr)
  | assign (targets : List Expr) (value : Expr) (span : Span)
  | augmented (op : BinOp) (target value : Expr) (span : Span)
  | «return» (value : Option Expr) (span : Span)
  | raise (exception cause : Option Expr) (span : Span)
  | assert (test : Expr) (message : Option Expr) (span : Span)
  | del (targets : List Expr)
  | pass
  | «break»
  | «continue»
  /-- Modules, each with the name it is bound to, if that differs. -/
  | «import» (modules : List (String × Option String)) (span : Span)
  | importFrom (module : String) (names : List (String × Option String)) (span : Span)
  | branch (condition : Expr) (yes no : List Stmt)
  | «while» (condition : Expr) (body otherwise : List Stmt)
  | «for» (target iterable : Expr) (body otherwise : List Stmt) (span : Span)
  | «try» (body : List Stmt) (handlers : List Handler) (otherwise : List Stmt) (cleanup : List Stmt)
  | «with» (context : Expr) (target : Option Expr) (body : List Stmt) (span : Span)
  | function (code : FunctionCode) (decorators : List Expr) (span : Span)
  | cls (name : String) (bases : List Arg) (body : List Stmt) (locals globals : List String) (decorators : List Expr)
      (span : Span)

end

instance : Inhabited Expr := ⟨.literal .none {}⟩
instance : Inhabited FunctionCode := ⟨.mk "" [] 0 none [] none [] [] [] false⟩

/-- The place of an expression. -/
def Expr.span : Expr → Span
  | literal _ s | name _ s | tuple _ s | list _ s | set _ s | dict _ s | unary _ _ s | binary _ _ _ s | all _ s | any _ s
  | compare _ _ s | call _ _ s | field _ _ s | subscript _ _ s | slice _ _ _ s | lambda _ s | choose _ _ _ s
  | comp _ _ _ _ s | dictComp _ _ _ _ s | starred _ s | walrus _ _ s | joined _ s | yield _ s => s

namespace FunctionCode

/-- The name of a function. -/
def name : FunctionCode → String | mk n .. => n
/-- The parameters that can be given by place. -/
def params : FunctionCode → List Param | mk _ ps .. => ps
/-- How many parameters can be given by place only. -/
def positionalOnly : FunctionCode → Nat | mk _ _ n .. => n
/-- The parameter that takes further arguments. -/
def rest : FunctionCode → Option String | mk _ _ _ r .. => r
/-- The parameters that can be given by name only. -/
def keywordOnly : FunctionCode → List Param | mk _ _ _ _ k .. => k
/-- The parameter that takes further arguments with names. -/
def restKeywords : FunctionCode → Option String | mk _ _ _ _ _ r .. => r
/-- The statements. -/
def body : FunctionCode → List Stmt | mk _ _ _ _ _ _ b .. => b
/-- The names that the function binds itself. -/
def locals : FunctionCode → List String | mk _ _ _ _ _ _ _ ls .. => ls
/-- The names that the function declares to be globals. -/
def globals : FunctionCode → List String | mk _ _ _ _ _ _ _ _ gs _ => gs
/-- Whether the function hands values out one by one. -/
def yields : FunctionCode → Bool | mk _ _ _ _ _ _ _ _ _ y => y

end FunctionCode

/-- The name of a parameter. -/
def Param.name : Param → String | mk n _ => n
/-- The default of a parameter. -/
def Param.default : Param → Option Expr | mk _ d => d

end PluginHost.Python
