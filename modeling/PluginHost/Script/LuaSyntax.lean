/-!
# Syntax of Lua chunks

The syntax trees that the parser makes and the machine runs. Names are resolved: an expression says whether a name is a
local of its own function, a local of a function around it, or a global, because the wording of run-time errors depends on it.
Each operation that can fail carries its line.
-/

namespace PluginHost.Lua

/-- Binary operators that work on values. -/
inductive BinOp
  | add | sub | mul | div | mod | pow | idiv | band | bor | bxor | shl | shr | concat | eq | ne | lt | le | gt | ge
deriving DecidableEq, Repr

/-- Unary operators. -/
inductive UnOp
  | neg | not | len | bnot
deriving DecidableEq, Repr

/-- Where a name is bound. -/
inductive Scope
  | «local» | upvalue
deriving DecidableEq, Repr

/-- What a declaration promises about a variable. -/
inductive Attribute
  | none | «const» | close
deriving DecidableEq, Repr

mutual

/-- Expressions. -/
inductive Expr
  | nil
  | boolean (b : Bool)
  | integer (n : Int64)
  | number (x : Float)
  | text (s : ByteArray)
  | vararg
  | variable (scope : Scope) (name : String)
  | global (name : String) (line : Nat)
  | index (object key : Expr) (line : Nat)
  | call (function : Expr) (args : List Expr) (line : Nat)
  | method (object : Expr) (name : String) (args : List Expr) (line : Nat)
  | function (body : FunctionBody)
  | unary (op : UnOp) (operand : Expr) (line : Nat)
  | binary (op : BinOp) (left right : Expr) (line : Nat)
  | and (left right : Expr)
  | or (left right : Expr)
  | paren (inner : Expr)
  | table (fields : List Field) (line : Nat)

/-- Parts of a table constructor. -/
inductive Field
  | item (value : Expr)
  | entry (key value : Expr)

/-- A function: its parameters, what it does, and the names it uses from around it, in the order of their first use. -/
inductive FunctionBody
  | mk (params : List String) (isVararg : Bool) (body : List Stmt) (outer : List String)

/-- Statements. -/
inductive Stmt
  | «local» (names : List (String × Attribute)) (values : List Expr) (line : Nat)
  | localFunction (name : String) (body : FunctionBody)
  | assign (targets values : List Expr) (line : Nat)
  | call (e : Expr)
  | block (body : List Stmt)
  | «while» (condition : Expr) (body : List Stmt)
  | «repeat» (body : List Stmt) (condition : Expr)
  | branch (arms : List (Expr × List Stmt)) (otherwise : List Stmt)
  | numericFor (name : String) (start limit : Expr) (step : Option Expr) (body : List Stmt) (line : Nat)
  | genericFor (names : List String) (values : List Expr) (body : List Stmt) (line : Nat)
  | «return» (values : List Expr) (line : Nat)
  | «break»
  | goto (label : String)
  | label (name : String)

end

/-- The names of the parameters. -/
def FunctionBody.params : FunctionBody → List String | mk ps _ _ _ => ps
/-- Whether more arguments than parameters are kept. -/
def FunctionBody.isVararg : FunctionBody → Bool | mk _ v _ _ => v
/-- What the function does. -/
def FunctionBody.body : FunctionBody → List Stmt | mk _ _ b _ => b
/-- The names from around the function; the table of globals is one of them. -/
def FunctionBody.outer : FunctionBody → List String | mk _ _ _ o => o

/-- The name under which functions use the table of globals. -/
def globalsName : String := "_ENV"

instance : Inhabited Expr := ⟨.nil⟩

/-- Whether an expression may have any number of values. -/
def Expr.isMulti : Expr → Bool
  | call .. | method .. | vararg => true
  | _ => false

end PluginHost.Lua
