import PluginHost.Script.LuaLexer
import PluginHost.Script.LuaSyntax

/-!
# Parsing Lua chunks

A recursive-descent parser over words. It keeps the names in scope of each function around the current place, so that it can
resolve names and refuse assignments to constants; loops and labels are checked as well, since a chunk with a jump to nowhere
is refused as a whole. The fuel of the functions bounds how deep they call each other and is computed from the number of words.
-/

namespace PluginHost.Lua

/-- What is in scope inside one function. -/
structure FunctionScope where
  /-- The locals, innermost first. -/
  locals : List (String × Attribute) := []
  isVararg : Bool := false
  /-- Whether a loop is around the current place. -/
  inLoop : Bool := false
  /-- The labels of the blocks around the current place, innermost first. -/
  labels : List (List String) := []
  /-- The names used from around the function, in the order of their first use. -/
  outer : List String := []

/-- Notes that a function uses a name from around it. -/
def FunctionScope.use (s : FunctionScope) (name : String) : FunctionScope :=
  if s.outer.contains name then s else { s with outer := s.outer ++ [name] }

/-- The unread words, the line of the last word read, and the scopes, innermost function first. -/
structure ParserState where
  tokens : List Placed
  lastLine : Nat := 1
  scopes : List FunctionScope

/-- A parser fails without a reason. -/
abbrev Parser := StateT ParserState Option

namespace Parser

/-- The next word. -/
def peek : Parser Token := do
  match (← get).tokens with
  | (t, _) :: _ => return t
  | [] => return .eof

/-- The line of the next word. -/
def line : Parser Nat := do
  match (← get).tokens with
  | (_, l) :: _ => return l
  | [] => return (← get).lastLine

/-- The line of the last word read. -/
def lastLine : Parser Nat := return (← get).lastLine

/-- Takes the next word. -/
def advance : Parser Token := do
  match (← get).tokens with
  | (t, l) :: rest =>
    modify fun s => { s with tokens := rest, lastLine := l }
    return t
  | [] => return .eof

/-- Whether the next word is a certain sign or keyword. -/
def at_ (word : String) : Parser Bool := do
  match ← peek with
  | .symbol s => return s = word
  | .keyword s => return s = word
  | _ => return false

/-- Takes a sign or keyword, if it comes next. -/
def accept (word : String) : Parser Bool := do
  if ← at_ word then
    let _ ← advance
    return true
  else return false

/-- Takes a sign or keyword that has to come next. -/
def expect (word : String) : Parser Unit := do
  unless ← accept word do failure

/-- Takes a name. -/
def name : Parser String := do
  match ← advance with
  | .name s => return s
  | _ => failure

/-- The scope of the current function. -/
def scope : Parser FunctionScope := return ((← get).scopes.head?).getD {}

/-- Changes the scope of the current function. -/
def modifyScope (f : FunctionScope → FunctionScope) : Parser Unit :=
  modify fun s => match s.scopes with
    | top :: rest => { s with scopes := f top :: rest }
    | [] => s

/-- Brings locals into scope. -/
def declare (names : List (String × Attribute)) : Parser Unit :=
  modifyScope fun s => { s with locals := names.reverse ++ s.locals }

/-- Runs a parser with the current scope and restores the scope afterwards, except for what it used from around. -/
def inScope {α : Type} (p : Parser α) : Parser α := do
  let saved ← scope
  let a ← p
  modifyScope fun s => { saved with outer := s.outer }
  return a

/-- Notes in the innermost functions, as many as given, that they use a name from around them. -/
def useOuter (name : String) (depth : Nat) : Parser Unit :=
  modify fun s => { s with scopes := (s.scopes.take depth).map (·.use name) ++ s.scopes.drop depth }

/-- What a name means here. -/
def resolve (name : String) (line : Nat) : Parser (Expr × Attribute) := do
  let scopes := (← get).scopes
  let found := scopes.zipIdx.findSome? fun (s, i) => (s.locals.find? (·.1 = name)).map fun (_, a) => (i, a)
  match found with
  | some (0, a) => return (.variable .local name, a)
  | some (depth, a) =>
    useOuter name depth
    return (.variable .upvalue name, a)
  | none =>
    useOuter globalsName scopes.length
    return (.global name line, .none)

end Parser

open PluginHost.Lua.Parser

/-- The binding strength of a binary operator on its left and its right. -/
def strength? : Token → Option (String × Nat × Nat)
  | .keyword "or" => some ("or", 1, 1)
  | .keyword "and" => some ("and", 2, 2)
  | .symbol s => match s with
    | "<" | ">" | "<=" | ">=" | "~=" | "==" => some (s, 3, 3)
    | "|" => some (s, 4, 4)
    | "~" => some (s, 5, 5)
    | "&" => some (s, 6, 6)
    | "<<" | ">>" => some (s, 7, 7)
    | ".." => some (s, 9, 8)
    | "+" | "-" => some (s, 10, 10)
    | "*" | "/" | "//" | "%" => some (s, 11, 11)
    | "^" => some (s, 14, 13)
    | _ => none
  | _ => none

/-- How strongly a unary operator binds. -/
def unaryStrength : Nat := 12

/-- The unary operator that a word is. -/
def unaryOp? : Token → Option UnOp
  | .keyword "not" => some .not
  | .symbol "-" => some .neg
  | .symbol "#" => some .len
  | .symbol "~" => some .bnot
  | _ => none

/-- The binary operator that a sign is. -/
def binaryOp? : String → Option BinOp
  | "+" => some .add
  | "-" => some .sub
  | "*" => some .mul
  | "/" => some .div
  | "%" => some .mod
  | "^" => some .pow
  | "//" => some .idiv
  | "&" => some .band
  | "|" => some .bor
  | "~" => some .bxor
  | "<<" => some .shl
  | ">>" => some .shr
  | ".." => some .concat
  | "==" => some .eq
  | "~=" => some .ne
  | "<" => some .lt
  | "<=" => some .le
  | ">" => some .gt
  | ">=" => some .ge
  | _ => none

/-- A numeral under a minus sign is a number of its own. -/
def foldUnary (op : UnOp) (e : Expr) (line : Nat) : Expr :=
  match op, e with
  | .neg, .integer n => .integer (-n)
  | .neg, .number x => if x == 0.0 then .unary op e line else .number (-x)
  | _, _ => .unary op e line

/-- A constant text, as the key of a field. -/
def textExpr (s : String) : Expr := .text (Bytes.ofString s)

/-- The labels that a block declares itself. -/
def labelsOf (body : List Stmt) : List String :=
  body.filterMap fun
    | .label name => some name
    | _ => none

mutual

/-- Whether every jump inside leads to a label of a block around it; `outer` are the labels around. -/
def jumpsResolve (outer : List String) : List Stmt → Bool
  | [] => true
  | s :: rest => jumpResolves outer s && jumpsResolve outer rest

/-- Whether the jumps inside one statement lead to a label. -/
def jumpResolves (outer : List String) : Stmt → Bool
  | .goto label => outer.contains label
  | .block body => jumpsResolve (outer ++ labelsOf body) body
  | .while _ body => jumpsResolve (outer ++ labelsOf body) body
  | .repeat body _ => jumpsResolve (outer ++ labelsOf body) body
  | .numericFor _ _ _ _ body _ => jumpsResolve (outer ++ labelsOf body) body
  | .genericFor _ _ body _ => jumpsResolve (outer ++ labelsOf body) body
  | .branch arms otherwise => armsResolve outer arms && jumpsResolve (outer ++ labelsOf otherwise) otherwise
  | _ => true

/-- Whether the jumps inside the arms of a branch lead to a label. -/
def armsResolve (outer : List String) : List (Expr × List Stmt) → Bool
  | [] => true
  | (_, body) :: rest => jumpsResolve (outer ++ labelsOf body) body && armsResolve outer rest

end

/-- A body whose jumps all resolve and whose labels are distinct. -/
def checkedBody (body : List Stmt) : Parser (List Stmt) :=
  if jumpsResolve (labelsOf body) body then return body else failure

mutual

/-- An expression whose operators bind more strongly than `limit`. -/
def parseExpr : Nat → Nat → Parser Expr
  | 0, _ => failure
  | fuel + 1, limit => do
    let line ← line
    let left ← match unaryOp? (← peek) with
      | some op =>
        let _ ← advance
        let operand ← parseExpr fuel unaryStrength
        pure (foldUnary op operand line)
      | none => parseSimple fuel
    parseOperators fuel limit left

/-- The operators that follow an operand. -/
def parseOperators : Nat → Nat → Expr → Parser Expr
  | 0, _, _ => failure
  | fuel + 1, limit, left => do
    match strength? (← peek) with
    | none => return left
    | some (sign, leftStrength, rightStrength) =>
      if leftStrength ≤ limit then return left
      else
        let line ← line
        let _ ← advance
        let right ← parseExpr fuel rightStrength
        let e ← match sign with
          | "and" => pure (Expr.and left right)
          | "or" => pure (Expr.or left right)
          | _ => match binaryOp? sign with
            | some op => pure (Expr.binary op left right line)
            | none => failure
        parseOperators fuel limit e

/-- A constant, a function, a table, or an expression with suffixes. -/
def parseSimple : Nat → Parser Expr
  | 0 => failure
  | fuel + 1 => do
    match ← peek with
    | .number (.integer n) => let _ ← advance; return .integer n
    | .number (.float x) => let _ ← advance; return .number x
    | .text s => let _ ← advance; return .text s
    | .keyword "nil" => let _ ← advance; return .nil
    | .keyword "true" => let _ ← advance; return .boolean true
    | .keyword "false" => let _ ← advance; return .boolean false
    | .symbol "..." =>
      let _ ← advance
      if (← scope).isVararg then return .vararg else failure
    | .symbol "\x7b" => parseTable fuel
    | .keyword "function" =>
      let _ ← advance
      return .function (← parseFunction fuel [])
    | _ => parseSuffixed fuel

/-- A table constructor. -/
def parseTable : Nat → Parser Expr
  | 0 => failure
  | fuel + 1 => do
    let line ← line
    expect "\x7b"
    let fields ← parseFields fuel
    return .table fields line

/-- The rest of a table constructor. -/
def parseFields : Nat → Parser (List Field)
  | 0 => failure
  | fuel + 1 => do
    if ← accept "\x7d" then return []
    else
      let field ← match (← get).tokens with
        | (.name s, _) :: (.symbol "=", _) :: _ =>
          let _ ← advance
          let _ ← advance
          pure (Field.entry (textExpr s) (← parseExpr fuel 0))
        | (.symbol "[", _) :: _ =>
          let _ ← advance
          let key ← parseExpr fuel 0
          expect "]"
          expect "="
          pure (Field.entry key (← parseExpr fuel 0))
        | _ => pure (Field.item (← parseExpr fuel 0))
      if (← accept ",") || (← accept ";") then return field :: (← parseFields fuel)
      else
        expect "\x7d"
        return [field]

/-- A name or an expression in parentheses. -/
def parsePrimary : Nat → Parser Expr
  | 0 => failure
  | fuel + 1 => do
    let line ← line
    match ← advance with
    | .name s => return (← resolve s line).1
    | .symbol "(" =>
      let e ← parseExpr fuel 0
      expect ")"
      return if e.isMulti then .paren e else e
    | _ => failure

/-- An expression with field accesses and calls behind it. -/
def parseSuffixed : Nat → Parser Expr
  | 0 => failure
  | fuel + 1 => do
    let e ← parsePrimary fuel
    parseSuffixes fuel e

/-- The field accesses and calls behind an expression. -/
def parseSuffixes : Nat → Expr → Parser Expr
  | 0, _ => failure
  | fuel + 1, e => do
    let line ← line
    match ← peek with
    | .symbol "." =>
      let _ ← advance
      let key ← name
      parseSuffixes fuel (.index e (textExpr key) (← lastLine))
    | .symbol "[" =>
      let _ ← advance
      let key ← parseExpr fuel 0
      expect "]"
      parseSuffixes fuel (.index e key (← lastLine))
    | .symbol ":" =>
      let _ ← advance
      let key ← name
      let line ← Parser.line
      let args ← parseArgs fuel
      parseSuffixes fuel (.method e key args line)
    | .symbol "(" | .symbol "\x7b" | .text _ =>
      let args ← parseArgs fuel
      parseSuffixes fuel (.call e args line)
    | _ => return e

/-- The arguments of a call. -/
def parseArgs : Nat → Parser (List Expr)
  | 0 => failure
  | fuel + 1 => do
    match ← peek with
    | .text s => let _ ← advance; return [.text s]
    | .symbol "\x7b" => return [← parseTable fuel]
    | .symbol "(" =>
      let _ ← advance
      if ← accept ")" then return []
      else
        let args ← parseExprs fuel
        expect ")"
        return args
    | _ => failure

/-- One or more expressions with commas between them. -/
def parseExprs : Nat → Parser (List Expr)
  | 0 => failure
  | fuel + 1 => do
    let e ← parseExpr fuel 0
    if ← accept "," then return e :: (← parseExprs fuel) else return [e]

/-- The parameters and the body of a function; `self` may come in front. -/
def parseFunction : Nat → List String → Parser FunctionBody
  | 0, _ => failure
  | fuel + 1, leading => do
    expect "("
    let (params, isVararg) ← if ← accept ")" then pure ([], false) else parseParams fuel
    let params := leading ++ params
    modify fun s => { s with scopes := { isVararg } :: s.scopes }
    declare (params.map (·, .none))
    let body ← checkedBody (← parseBlock fuel)
    expect "end"
    let outer := (← scope).outer
    modify fun s => { s with scopes := s.scopes.tail }
    return .mk params isVararg body outer

/-- The parameters up to the closing parenthesis. -/
def parseParams : Nat → Parser (List String × Bool)
  | 0 => failure
  | fuel + 1 => do
    if ← accept "..." then
      expect ")"
      return ([], true)
    else
      let p ← name
      if ← accept "," then
        let (ps, isVararg) ← parseParams fuel
        return (p :: ps, isVararg)
      else
        expect ")"
        return ([p], false)

/-- The statements of a block, in a scope of their own. -/
def parseBlock : Nat → Parser (List Stmt)
  | 0 => failure
  | fuel + 1 => inScope (parseStmts fuel)

/-- Statements up to a word that ends a block. -/
def parseStmts : Nat → Parser (List Stmt)
  | 0 => failure
  | fuel + 1 => do
    match ← peek with
    | .eof | .keyword "end" | .keyword "else" | .keyword "elseif" | .keyword "until" => return []
    | .symbol ";" => let _ ← advance; parseStmts fuel
    | .keyword "return" =>
      let line ← line
      let _ ← advance
      let values ← match ← peek with
        | .eof | .keyword "end" | .keyword "else" | .keyword "elseif" | .keyword "until" | .symbol ";" => pure []
        | _ => parseExprs fuel
      let _ ← accept ";"
      match ← peek with
      | .eof | .keyword "end" | .keyword "else" | .keyword "elseif" | .keyword "until" =>
        return [.return values line]
      | _ => failure
    | _ =>
      let s ← parseStmt fuel
      return s :: (← parseStmts fuel)

/-- A block that is the body of a loop. -/
def parseLoopBody : Nat → List String → Parser (List Stmt)
  | 0, _ => failure
  | fuel + 1, names => inScope do
    modifyScope fun s => { s with inLoop := true }
    declare (names.map (·, .none))
    expect "do"
    let body ← parseBlock fuel
    expect "end"
    return body

/-- The arms of a branch after its first keyword. -/
def parseArms : Nat → Parser (List (Expr × List Stmt) × List Stmt)
  | 0 => failure
  | fuel + 1 => do
    let condition ← parseExpr fuel 0
    expect "then"
    let body ← parseBlock fuel
    if ← accept "elseif" then
      let (arms, otherwise) ← parseArms fuel
      return ((condition, body) :: arms, otherwise)
    else if ← accept "else" then
      let otherwise ← parseBlock fuel
      expect "end"
      return ([(condition, body)], otherwise)
    else
      expect "end"
      return ([(condition, body)], [])

/-- One statement. -/
def parseStmt : Nat → Parser Stmt
  | 0 => failure
  | fuel + 1 => do
    let line ← line
    match ← peek with
    | .keyword "if" => let _ ← advance; let (arms, otherwise) ← parseArms fuel; return .branch arms otherwise
    | .keyword "while" =>
      let _ ← advance
      let condition ← parseExpr fuel 0
      return .while condition (← parseLoopBody fuel [])
    | .keyword "do" =>
      let _ ← advance
      let body ← parseBlock fuel
      expect "end"
      return .block body
    | .keyword "repeat" =>
      let _ ← advance
      inScope do
        modifyScope fun s => { s with inLoop := true }
        let body ← parseStmts fuel
        expect "until"
        let condition ← parseExpr fuel 0
        return .repeat body condition
    | .keyword "for" => let _ ← advance; parseFor fuel line
    | .keyword "function" => let _ ← advance; parseFunctionStmt fuel line
    | .keyword "local" => let _ ← advance; parseLocal fuel line
    | .keyword "goto" => let _ ← advance; return .goto (← name)
    | .keyword "break" =>
      let _ ← advance
      if (← scope).inLoop then return .break else failure
    | .symbol "::" =>
      let _ ← advance
      let label ← name
      expect "::"
      if ((← scope).labels.any (·.contains label)) then failure
      else
        modifyScope fun s => { s with labels := [label] :: s.labels }
        return .label label
    | _ => parseExprStmt fuel

/-- The rest of a loop over numbers or over an iterator. -/
def parseFor : Nat → Nat → Parser Stmt
  | 0, _ => failure
  | fuel + 1, line => do
    let first ← name
    if ← accept "=" then
      let start ← parseExpr fuel 0
      expect ","
      let limit ← parseExpr fuel 0
      let step ← if ← accept "," then pure (some (← parseExpr fuel 0)) else pure none
      return .numericFor first start limit step (← parseLoopBody fuel [first]) line
    else
      let names ← parseMoreNames fuel
      expect "in"
      let values ← parseExprs fuel
      return .genericFor (first :: names) values (← parseLoopBody fuel (first :: names)) line

/-- More names, each after a comma. -/
def parseMoreNames : Nat → Parser (List String)
  | 0 => failure
  | fuel + 1 => do
    if ← accept "," then
      let n ← name
      return n :: (← parseMoreNames fuel)
    else return []

/-- A function with a name that may lead through tables. -/
def parseFunctionStmt : Nat → Nat → Parser Stmt
  | 0, _ => failure
  | fuel + 1, line => do
    let first ← name
    let (root, promise) ← resolve first line
    let (target, isMethod) ← parseFunctionName fuel root
    -- a bare name is assigned to and so must not be constant
    match target with
    | .variable .. => unless promise = .none do failure
    | _ => pure ()
    let body ← parseFunction fuel (if isMethod then ["self"] else [])
    return .assign [target] [.function body] line

/-- The fields behind the name of a function, the last of which may be a method. -/
def parseFunctionName : Nat → Expr → Parser (Expr × Bool)
  | 0, _ => failure
  | fuel + 1, e => do
    if ← accept "." then
      let key ← name
      parseFunctionName fuel (.index e (textExpr key) (← lastLine))
    else if ← accept ":" then
      let key ← name
      return (.index e (textExpr key) (← lastLine), true)
    else return (e, false)

/-- The rest of a declaration. -/
def parseLocal : Nat → Nat → Parser Stmt
  | 0, _ => failure
  | fuel + 1, line => do
    if ← accept "function" then
      let f ← name
      declare [(f, .none)]
      return .localFunction f (← parseFunction fuel [])
    else
      let names ← parseAttributedNames fuel
      if 1 < (names.filter (·.2 = .close)).length then failure
      else
        let values ← if ← accept "=" then parseExprs fuel else pure []
        declare names
        return .local names values line

/-- Names with what is promised about them. -/
def parseAttributedNames : Nat → Parser (List (String × Attribute))
  | 0 => failure
  | fuel + 1 => do
    let n ← name
    let promise ← if ← accept "<" then do
        let word ← name
        expect ">"
        match word with
        | "const" => pure Attribute.const
        | "close" => pure Attribute.close
        | _ => failure
      else pure Attribute.none
    if ← accept "," then return (n, promise) :: (← parseAttributedNames fuel) else return [(n, promise)]

/-- An assignment or a call. -/
def parseExprStmt : Nat → Parser Stmt
  | 0 => failure
  | fuel + 1 => do
    let e ← parseSuffixed fuel
    if (← at_ "=") || (← at_ ",") then
      let targets ← parseTargets fuel e
      expect "="
      let values ← parseExprs fuel
      return .assign targets values (← lastLine)
    else match e with
      | .call .. | .method .. => return .call e
      | _ => failure

/-- The targets of an assignment, the first of which has been read. -/
def parseTargets : Nat → Expr → Parser (List Expr)
  | 0, _ => failure
  | fuel + 1, e => do
    match e with
    | .variable _ n => unless (← resolve n 0).2 = .none do failure
    | .global .. | .index .. => pure ()
    | _ => failure
    if ← accept "," then
      let next ← parseSuffixed fuel
      return e :: (← parseTargets fuel next)
    else return [e]

end

/-- The function that a chunk is: it takes any arguments. -/
def parseChunk? (cs : List Char) : Option FunctionBody := do
  let tokens ← readTokens? cs
  let parser : Parser FunctionBody := do
    let body ← checkedBody (← parseBlock (20 * tokens.length + 100))
    match ← peek with
    | .eof => return .mk [] true body (← scope).outer
    | _ => failure
  (·.1) <$> parser.run { tokens, scopes := [{ isVararg := true }] }

end PluginHost.Lua
