import PluginHost.Script.PythonLexer

/-!
# Parsing Python modules

A recursive-descent parser over words. While it reads a function or a class it collects the names that are bound there, so that
each function knows its own variables. What can only be used inside a function or a loop is refused elsewhere. The fuel of the
functions bounds how deep they call each other and is computed from the number of words.
-/

namespace PluginHost.Python

/-- The names of a function, a class or the module. -/
structure NameScope where
  bound : List String := []
  globals : List String := []
  nonlocals : List String := []
  isFunction : Bool := false
  inLoop : Bool := false
  yields : Bool := false

/-- The words, the next one, the end of the last one, and the scopes, innermost first. -/
structure ParserState where
  tokens : Array Placed
  next : Nat := 0
  lastEnd : Nat × Nat := (1, 0)
  scopes : List NameScope := [{}]

/-- A parser fails without a reason. -/
abbrev Parser := StateT ParserState Option

namespace Parser

/-- The next word. -/
def peek : Parser Token := do
  let s ← get
  return match s.tokens[s.next]? with
    | some p => p.token
    | none => .eof

/-- The word behind the next one. -/
def peekSecond : Parser Token := do
  let s ← get
  return match s.tokens[s.next + 1]? with
    | some p => p.token
    | none => .eof

/-- Where the next word starts. -/
def start : Parser (Nat × Nat) := do
  let s ← get
  return match s.tokens[s.next]? with
    | some p => (p.span.line, p.span.column)
    | none => s.lastEnd

/-- The place from a start to the end of the last word. -/
def since (start : Nat × Nat) : Parser Span := do
  let (l, c) := (← get).lastEnd
  return ⟨start.1, start.2, l, c⟩

/-- Takes the next word. -/
def advance : Parser Token := do
  let s ← get
  match s.tokens[s.next]? with
  | some p =>
    set { s with next := s.next + 1, lastEnd := (p.span.endLine, p.span.endColumn) }
    return p.token
  | none => return .eof

/-- Whether the next word is a certain sign or keyword. -/
def at_ (word : String) : Parser Bool := do
  return match ← peek with
    | .symbol s | .keyword s => s = word
    | _ => false

/-- Takes a sign or keyword, if it comes next. -/
def accept (word : String) : Parser Bool := do
  if ← at_ word then
    let _ ← advance
    return true
  else return false

/-- Takes a sign or keyword that has to come next. -/
def expect (word : String) : Parser Unit := do
  unless ← accept word do failure

/-- Takes the end of a line. -/
def newline : Parser Unit := do
  match ← advance with
  | .newline => return ()
  | _ => failure

/-- Takes a name. -/
def name : Parser String := do
  match ← advance with
  | .name s => return s
  | _ => failure

/-- The scope of the current function. -/
def scope : Parser NameScope := return ((← get).scopes.head?).getD {}

/-- Changes the scope of the current function. -/
def modifyScope (f : NameScope → NameScope) : Parser Unit :=
  modify fun s => match s.scopes with
    | top :: rest => { s with scopes := f top :: rest }
    | [] => s

/-- Notes that a name is bound. -/
def bind (name : String) : Parser Unit :=
  modifyScope fun s => if s.bound.contains name then s else { s with bound := s.bound ++ [name] }

/-- Runs a parser in a scope of its own and gives that scope as well. -/
def inScope {α : Type} (inner : NameScope) (p : Parser α) : Parser (α × NameScope) := do
  modify fun s => { s with scopes := inner :: s.scopes }
  let a ← p
  let s ← scope
  modify fun st => { st with scopes := st.scopes.tail }
  return (a, s)

/-- Runs a parser as the body of a loop. -/
def inLoop {α : Type} (p : Parser α) : Parser α := do
  let before := (← scope).inLoop
  modifyScope fun s => { s with inLoop := true }
  let a ← p
  modifyScope fun s => { s with inLoop := before }
  return a

end Parser

open PluginHost.Python.Parser

/-- The names that a scope binds itself. -/
def NameScope.locals (s : NameScope) : List String :=
  s.bound.filter fun n => !s.globals.contains n && !s.nonlocals.contains n

/-- The comparison that starts with a word, given the word behind it; and how many words it is. -/
def comparison? : Token → Token → Option (CmpOp × Nat)
  | .symbol s, _ => match s with
    | "==" => some (.eq, 1)
    | "!=" => some (.ne, 1)
    | "<" => some (.lt, 1)
    | "<=" => some (.le, 1)
    | ">" => some (.gt, 1)
    | ">=" => some (.ge, 1)
    | _ => none
  | .keyword "in", _ => some (.in, 1)
  | .keyword "not", .keyword "in" => some (.notIn, 2)
  | .keyword "is", .keyword "not" => some (.isNot, 2)
  | .keyword "is", _ => some (.is, 1)
  | _, _ => none

/-- The binary operator that a sign is, and how strongly it binds. -/
def operator? : String → Option (BinOp × Nat)
  | "|" => some (.bitOr, 1)
  | "^" => some (.bitXor, 2)
  | "&" => some (.bitAnd, 3)
  | "<<" => some (.lshift, 4)
  | ">>" => some (.rshift, 4)
  | "+" => some (.add, 5)
  | "-" => some (.sub, 5)
  | "*" => some (.mul, 6)
  | "/" => some (.div, 6)
  | "//" => some (.floorDiv, 6)
  | "%" => some (.mod, 6)
  | "@" => some (.matMul, 6)
  | _ => none

/-- The operator of an augmented assignment. -/
def augmented? : String → Option BinOp
  | "**=" => some .pow
  | ">>=" => some .rshift
  | "<<=" => some .lshift
  | "//=" => some .floorDiv
  | s => match s.toList with
    | [c, '='] => (operator? (String.singleton c)).map (·.1)
    | _ => none

/-- Joins texts that stand next to each other. -/
def joinParts (parts : List Part) : List Part :=
  parts.foldr (fun p rest => match p, rest with
    | .text a, .text b :: rest => .text (a ++ b) :: rest
    | p, rest => p :: rest) []

/-- Whether an expression can be assigned to. -/
def isTarget : Expr → Bool
  | .name .. | .field .. | .subscript .. => true
  | .tuple items _ | .list items _ => areTargets items
  | _ => false
where
  /-- Whether expressions can be assigned to together; one of them may take what is left over. -/
  areTargets : List Expr → Bool
    | [] => true
    | .starred e _ :: rest => isTarget e && areTargets rest
    | e :: rest => isTarget e && areTargets rest

/-- The names that an assignment to an expression binds. -/
def targetNames : Expr → List String
  | .name n _ => [n]
  | .tuple items _ | .list items _ => allNames items
  | .starred e _ => targetNames e
  | _ => []
where
  /-- The names that assignments to expressions bind. -/
  allNames : List Expr → List String
    | [] => []
    | e :: rest => targetNames e ++ allNames rest

/-- Notes the names of a target, which has to be one. -/
def bindTarget (e : Expr) : Parser Unit := do
  unless isTarget e do failure
  for n in targetNames e do Parser.bind n

/-- Splits the text of a replacement field off: its characters up to the brace that ends it. Brackets and quotes inside
count. The fuel is the length of the text. -/
def takeField : Nat → List Char → Nat → List Char → Option (List Char × List Char)
  | 0, _, _, _ => none
  | _ + 1, [], _, _ => none
  | fuel + 1, c :: cs, depth, acc =>
    if c = '\x7d' ∧ depth = 0 then some (acc.reverse, cs)
    else if c = '(' ∨ c = '[' ∨ c = '\x7b' then takeField fuel cs (depth + 1) (c :: acc)
    else if c = ')' ∨ c = ']' ∨ c = '\x7d' then takeField fuel cs (depth - 1) (c :: acc)
    else takeField fuel cs depth (c :: acc)

/-- Splits a replacement field into its expression, its conversion and its format. -/
def splitField : List Char → Nat → List Char → List Char × Option Char × List Char
  | [], _, acc => (acc.reverse, none, [])
  | '!' :: '=' :: cs, depth, acc => splitField cs depth ('=' :: '!' :: acc)
  | '!' :: c :: cs, 0, acc => (acc.reverse, some c, cs.drop 1)
  | ':' :: cs, 0, acc => (acc.reverse, none, cs)
  | c :: cs, depth, acc =>
    let depth := if c = '(' ∨ c = '[' ∨ c = '\x7b' then depth + 1
      else if c = ')' ∨ c = ']' ∨ c = '\x7d' then depth - 1 else depth
    splitField cs depth (c :: acc)

mutual

/-- An expression, or the binding of one to a name. -/
def parseNamed : Nat → Parser Expr
  | 0 => failure
  | fuel + 1 => do
    let from_ ← start
    match ← peek, ← peekSecond with
    | .name n, .symbol ":=" =>
      let _ ← advance
      let _ ← advance
      let e ← parseExpr fuel
      Parser.bind n
      return .walrus n e (← since from_)
    | _, _ => parseExpr fuel

/-- An expression. -/
def parseExpr : Nat → Parser Expr
  | 0 => failure
  | fuel + 1 => do
    let from_ ← start
    if ← at_ "lambda" then parseLambda fuel
    else
      let e ← parseAny fuel
      if ← accept "if" then
        let condition ← parseAny fuel
        expect "else"
        let other ← parseExpr fuel
        return .choose condition e other (← since from_)
      else return e

/-- A function without a name. -/
def parseLambda : Nat → Parser Expr
  | 0 => failure
  | fuel + 1 => do
    let from_ ← start
    expect "lambda"
    let (code, _) ← inScope { isFunction := true } do
      let (params, positionalOnly, rest, keywordOnly, restKeywords) ← parseParams fuel ":" false
      expect ":"
      let start ← start
      let e ← parseExpr fuel
      let s ← scope
      return FunctionCode.mk "<lambda>" params positionalOnly rest keywordOnly restKeywords
        [.return (some e) (← since start)] s.locals s.globals s.yields
    return .lambda code (← since from_)

/-- Alternatives. -/
def parseAny : Nat → Parser Expr
  | 0 => failure
  | fuel + 1 => do
    let from_ ← start
    let first ← parseAll fuel
    let rest ← parseMany fuel "or" false
    if rest.isEmpty then return first else return .any (first :: rest) (← since from_)

/-- Conditions that hold together. -/
def parseAll : Nat → Parser Expr
  | 0 => failure
  | fuel + 1 => do
    let from_ ← start
    let first ← parseNot fuel
    let rest ← parseMany fuel "and" true
    if rest.isEmpty then return first else return .all (first :: rest) (← since from_)

/-- Further operands behind a word. -/
def parseMany : Nat → String → Bool → Parser (List Expr)
  | 0, _, _ => failure
  | fuel + 1, word, isAnd => do
    if ← accept word then
      let e ← if isAnd then parseNot fuel else parseAll fuel
      return e :: (← parseMany fuel word isAnd)
    else return []

/-- A condition or its opposite. -/
def parseNot : Nat → Parser Expr
  | 0 => failure
  | fuel + 1 => do
    let from_ ← start
    if ← accept "not" then
      let e ← parseNot fuel
      return .unary .not e (← since from_)
    else
      let first ← parseBinary fuel 1
      let rest ← parseComparisons fuel
      if rest.isEmpty then return first else return .compare first rest (← since from_)

/-- Comparisons behind an operand. -/
def parseComparisons : Nat → Parser (List (CmpOp × Expr))
  | 0 => failure
  | fuel + 1 => do
    match comparison? (← peek) (← peekSecond) with
    | some (op, words) =>
      let _ ← advance
      if words = 2 then let _ ← advance
      let e ← parseBinary fuel 1
      return (op, e) :: (← parseComparisons fuel)
    | none => return []

/-- Operators that bind at least as strongly as a level. -/
def parseBinary : Nat → Nat → Parser Expr
  | 0, _ => failure
  | fuel + 1, level => do
    let from_ ← start
    let left ← parseUnary fuel
    parseOperators fuel level from_ left

/-- The operators that follow an operand. -/
def parseOperators : Nat → Nat → Nat × Nat → Expr → Parser Expr
  | 0, _, _, _ => failure
  | fuel + 1, level, from_, left => do
    match ← peek with
    | .symbol s => match operator? s with
      | some (op, strength) =>
        if strength < level then return left
        else
          let _ ← advance
          let right ← parseBinary fuel (strength + 1)
          parseOperators fuel level from_ (.binary op left right (← since from_))
      | none => return left
    | _ => return left

/-- Signs in front, and powers. -/
def parseUnary : Nat → Parser Expr
  | 0 => failure
  | fuel + 1 => do
    let from_ ← start
    let op? ← match ← peek with
      | .symbol "-" => pure (some UnOp.neg)
      | .symbol "+" => pure (some UnOp.pos)
      | .symbol "~" => pure (some UnOp.invert)
      | _ => pure none
    match op? with
    | some op =>
      let _ ← advance
      let e ← parseUnary fuel
      return .unary op e (← since from_)
    | none =>
      let e ← parsePrimary fuel
      if ← accept "**" then
        let power ← parseUnary fuel
        return .binary .pow e power (← since from_)
      else return e

/-- An operand with calls, fields and items behind it. -/
def parsePrimary : Nat → Parser Expr
  | 0 => failure
  | fuel + 1 => do
    let from_ ← start
    let e ← parseAtom fuel
    parseTrailers fuel from_ e

/-- The calls, fields and items behind an operand. -/
def parseTrailers : Nat → Nat × Nat → Expr → Parser Expr
  | 0, _, _ => failure
  | fuel + 1, from_, e => do
    if ← accept "." then
      let n ← name
      parseTrailers fuel from_ (.field e n (← since from_))
    else if ← at_ "(" then
      let args ← parseCallArgs fuel
      parseTrailers fuel from_ (.call e args (← since from_))
    else if ← accept "[" then
      let inner ← start
      let first ← parseSlice fuel
      let index ← if ← at_ "," then do
          let items ← parseSlices fuel
          pure (Expr.tuple (first :: items) (← since inner))
        else match first with
          | .starred .. => pure (Expr.tuple [first] (← since inner))
          | _ => pure first
      expect "]"
      parseTrailers fuel from_ (.subscript e index (← since from_))
    else return e

/-- Further items of an index. -/
def parseSlices : Nat → Parser (List Expr)
  | 0 => failure
  | fuel + 1 => do
    if ← accept "," then
      if ← at_ "]" then return []
      else
        let e ← parseSlice fuel
        return e :: (← parseSlices fuel)
    else return []

/-- An index or a range of them. -/
def parseSlice : Nat → Parser Expr
  | 0 => failure
  | fuel + 1 => do
    let from_ ← start
    let bound : Parser (Option Expr) := do
      if (← at_ ":") || (← at_ "]") || (← at_ ",") then return none else return some (← parseExpr fuel)
    if ← accept "*" then
      let e ← parseBinary fuel 1
      return .starred e (← since from_)
    else
      let first ← if ← at_ ":" then pure none else pure (some (← parseNamed fuel))
      if ← accept ":" then
        let stop ← bound
        let step ← if ← accept ":" then bound else pure none
        return .slice first stop step (← since from_)
      else match first with
        | some e => return e
        | none => failure

/-- The arguments of a call in their parentheses. -/
def parseCallArgs : Nat → Parser (List Arg)
  | 0 => failure
  | fuel + 1 => do
    let from_ ← start
    expect "("
    let args ← parseArgs fuel false
    match args with
    | [.positional e] =>
      -- a generator that is the only argument shares the parentheses
      if ← at_ "for" then
        let (clauses, locals) ← parseClauses fuel
        expect ")"
        return [.positional (.comp .generator e clauses locals (← since from_))]
      else
        expect ")"
        return args
    | _ =>
      expect ")"
      return args

/-- Arguments; positional ones come first. -/
def parseArgs : Nat → Bool → Parser (List Arg)
  | 0, _ => failure
  | fuel + 1, named => do
    if ← at_ ")" then return []
    else
      let (arg, named) ← if ← accept "*" then do
          pure (Arg.spread (← parseExpr fuel), named)
        else if ← accept "**" then do
          pure (Arg.merge (← parseExpr fuel), true)
        else match ← peek, ← peekSecond with
          | .name n, .symbol "=" => do
            let _ ← advance
            let _ ← advance
            pure (Arg.keyword n (← parseExpr fuel), true)
          | _, _ => do
            if named then failure
            pure (Arg.positional (← parseNamed fuel), false)
      if ← accept "," then return arg :: (← parseArgs fuel named) else return [arg]

/-- The loops of a comprehension, with the names that they bind. -/
def parseClauses : Nat → Parser (List Clause × List String)
  | 0 => failure
  | fuel + 1 => do
    if ← accept "for" then
      let target ← parseTargetList fuel
      expect "in"
      let iterable ← parseAny fuel
      let conditions ← parseConditions fuel
      let (rest, names) ← parseClauses fuel
      return (.mk target iterable conditions :: rest, targetNames target ++ names)
    else return ([], [])

/-- The conditions of a loop of a comprehension. -/
def parseConditions : Nat → Parser (List Expr)
  | 0 => failure
  | fuel + 1 => do
    if ← accept "if" then
      let e ← parseAny fuel
      return e :: (← parseConditions fuel)
    else return []

/-- Targets of a loop. -/
def parseTargetList : Nat → Parser Expr
  | 0 => failure
  | fuel + 1 => do
    let from_ ← start
    let first ← parseTarget fuel
    if ← at_ "," then
      let rest ← parseMoreTargets fuel
      return .tuple (first :: rest) (← since from_)
    else
      unless isTarget first do failure
      return first

/-- One target of a loop. -/
def parseTarget : Nat → Parser Expr
  | 0 => failure
  | fuel + 1 => do
    let from_ ← start
    if ← accept "*" then
      let e ← parsePrimary fuel
      return .starred e (← since from_)
    else
      let e ← parsePrimary fuel
      unless isTarget e do failure
      return e

/-- Further targets of a loop. -/
def parseMoreTargets : Nat → Parser (List Expr)
  | 0 => failure
  | fuel + 1 => do
    if ← accept "," then
      if ← at_ "in" then return []
      else
        let e ← parseTarget fuel
        return e :: (← parseMoreTargets fuel)
    else return []

/-- An operand by itself. -/
def parseAtom : Nat → Parser Expr
  | 0 => failure
  | fuel + 1 => do
    let from_ ← start
    let constant (v : Literal) : Parser Expr := do
      let _ ← advance
      return .literal v (← since from_)
    match ← peek with
    | .name n =>
      let _ ← advance
      return .name n (← since from_)
    | .int n => constant (.int n)
    | .float x => constant (.float x)
    | .imaginary x => constant (.imaginary x)
    | .keyword "None" => constant .none
    | .keyword "True" => constant (.bool true)
    | .keyword "False" => constant (.bool false)
    | .symbol "..." => constant .ellipsis
    | .bytes b =>
      let _ ← advance
      let more ← parseMoreBytes fuel
      return .literal (.bytes (b ++ more)) (← since from_)
    | .str _ | .joined .. =>
      let parts := joinParts (← parseTexts fuel)
      let isPlain := parts.all fun
        | .text _ => true
        | .value .. => false
      if isPlain then
        return .literal (.str (parts.flatMap fun
          | .text s => s
          | .value .. => [])) (← since from_)
      else return .joined parts (← since from_)
    | .symbol "(" => parseGroup fuel
    | .symbol "[" =>
      let _ ← advance
      if ← accept "]" then return .list [] (← since from_)
      else
        let first ← parseStarNamed fuel
        if ← at_ "for" then
          let (clauses, locals) ← parseClauses fuel
          expect "]"
          return .comp .list first clauses locals (← since from_)
        else
          let rest ← parseItems fuel "]"
          expect "]"
          return .list (first :: rest) (← since from_)
    | .symbol "\x7b" => parseBraces fuel
    | _ => failure

/-- Further sequences of bytes next to one. -/
def parseMoreBytes : Nat → Parser (List UInt8)
  | 0 => failure
  | fuel + 1 => do
    match ← peek with
    | .bytes b =>
      let _ ← advance
      return b ++ (← parseMoreBytes fuel)
    | _ => return []

/-- Texts next to each other. -/
def parseTexts : Nat → Parser (List Part)
  | 0 => failure
  | fuel + 1 => do
    match ← peek with
    | .str s =>
      let _ ← advance
      return .text s :: (← parseTexts fuel)
    | .joined cs isRaw lead =>
      let from_ ← start
      let _ ← advance
      let parts ← parseParts fuel ⟨cs, from_.1, from_.2 + lead⟩ isRaw
      return parts ++ (← parseTexts fuel)
    | .bytes _ => failure
    | _ => return []

/-- The pieces of a text with values in it. -/
def parseParts : Nat → Cursor → Bool → Parser (List Part)
  | 0, _, _ => failure
  | fuel + 1, here, isRaw => match here.rest with
    | [] => return []
    | '\x7b' :: '\x7b' :: _ => return .text [123] :: (← parseParts fuel (here.advance 2) isRaw)
    | '\x7d' :: '\x7d' :: _ => return .text [125] :: (← parseParts fuel (here.advance 2) isRaw)
    | '\x7b' :: cs => do
      let (field, rest) ← takeField (cs.length + 1) cs 0 []
      let (source, conversion, format) := splitField field 0 []
      let tokens ← readTokensFrom? { here with rest := '(' :: source ++ [')'] }
      -- the expression is read from words of its own, in the scope of the text
      let outer ← get
      set { outer with tokens, next := 0 }
      let e ← parseGroup fuel
      let inner ← get
      set { outer with scopes := inner.scopes }
      let before := here.advance (1 + field.length - format.length)
      let format ← parseParts fuel { before with rest := format } isRaw
      return .value e conversion format :: (← parseParts fuel (here.advance (1 + cs.length - rest.length)) isRaw)
    | '\x7d' :: _ => failure
    | cs => do
      let plain := cs.takeWhile fun c => c ≠ '\x7b' && c ≠ '\x7d'
      let ns ← if isRaw then pure (plain.map Char.toNat) else unescape? false (plain.length + 1) plain
      return .text ns :: (← parseParts fuel (here.advance plain.length) isRaw)

/-- An expression in parentheses, a tuple, or a generator. -/
def parseGroup : Nat → Parser Expr
  | 0 => failure
  | fuel + 1 => do
    let from_ ← start
    expect "("
    if ← accept ")" then return .tuple [] (← since from_)
    else if ← at_ "yield" then
      let e ← parseYield fuel
      expect ")"
      return e
    else
      let first ← parseStarNamed fuel
      if ← at_ "for" then
        let (clauses, locals) ← parseClauses fuel
        expect ")"
        return .comp .generator first clauses locals (← since from_)
      else if ← at_ "," then
        let rest ← parseItems fuel ")"
        expect ")"
        return .tuple (first :: rest) (← since from_)
      else
        expect ")"
        match first with
        | .starred .. => failure
        | e => return e

/-- A set or a dictionary, or a comprehension of one. -/
def parseBraces : Nat → Parser Expr
  | 0 => failure
  | fuel + 1 => do
    let from_ ← start
    expect "\x7b"
    if ← accept "\x7d" then return .dict [] (← since from_)
    else if ← accept "**" then
      let e ← parseBinary fuel 1
      let rest ← parseEntries fuel
      expect "\x7d"
      return .dict ((none, e) :: rest) (← since from_)
    else
      let first ← parseStarNamed fuel
      if ← accept ":" then
        let v ← parseExpr fuel
        if ← at_ "for" then
          let (clauses, locals) ← parseClauses fuel
          expect "\x7d"
          return .dictComp first v clauses locals (← since from_)
        else
          let rest ← parseEntries fuel
          expect "\x7d"
          return .dict ((some first, v) :: rest) (← since from_)
      else if ← at_ "for" then
        let (clauses, locals) ← parseClauses fuel
        expect "\x7d"
        return .comp .set first clauses locals (← since from_)
      else
        let rest ← parseItems fuel "\x7d"
        expect "\x7d"
        return .set (first :: rest) (← since from_)

/-- Further entries of a dictionary. -/
def parseEntries : Nat → Parser (List (Option Expr × Expr))
  | 0 => failure
  | fuel + 1 => do
    if ← accept "," then
      if ← at_ "\x7d" then return []
      else if ← accept "**" then
        let e ← parseBinary fuel 1
        return (none, e) :: (← parseEntries fuel)
      else
        let k ← parseExpr fuel
        expect ":"
        let v ← parseExpr fuel
        return (some k, v) :: (← parseEntries fuel)
    else return []

/-- Further items up to a closing bracket. -/
def parseItems : Nat → String → Parser (List Expr)
  | 0, _ => failure
  | fuel + 1, close => do
    if ← accept "," then
      if ← at_ close then return []
      else
        let e ← parseStarNamed fuel
        return e :: (← parseItems fuel close)
    else return []

/-- An expression that may be spread. -/
def parseStarNamed : Nat → Parser Expr
  | 0 => failure
  | fuel + 1 => do
    let from_ ← start
    if ← accept "*" then
      let e ← parseBinary fuel 1
      return .starred e (← since from_)
    else parseNamed fuel

/-- Expressions with commas between them, which are a tuple. -/
def parseExprs : Nat → Parser Expr
  | 0 => failure
  | fuel + 1 => do
    let from_ ← start
    if ← at_ "yield" then parseYield fuel
    else
      let first ← parseStarNamed fuel
      if ← at_ "," then
        let rest ← parseMoreExprs fuel
        return .tuple (first :: rest) (← since from_)
      else match first with
        | .starred .. => failure
        | e => return e

/-- Further expressions of a tuple without parentheses. -/
def parseMoreExprs : Nat → Parser (List Expr)
  | 0 => failure
  | fuel + 1 => do
    if ← accept "," then
      let ends ← match ← peek with
        | .newline | .eof => pure true
        | .symbol s => pure (s = "=" || s = ")" || s = ":" || s = ";" || (augmented? s).isSome)
        | _ => pure false
      if ends then return []
      else
        let e ← parseStarNamed fuel
        return e :: (← parseMoreExprs fuel)
    else return []

/-- A value handed out of a function that goes on later. -/
def parseYield : Nat → Parser Expr
  | 0 => failure
  | fuel + 1 => do
    let from_ ← start
    expect "yield"
    unless (← scope).isFunction do failure
    modifyScope fun s => { s with yields := true }
    match ← peek with
    | .newline | .symbol ")" | .symbol "=" | .symbol ";" => return .yield none (← since from_)
    | _ =>
      let e ← parseExprs fuel
      return .yield (some e) (← since from_)

/-- Parameters up to a sign. Those with defaults come last. -/
def parseParams : Nat → String → Bool → Parser (List Param × Nat × Option String × List Param × Option String)
  | 0, _, _ => failure
  | fuel + 1, close, typed => do
    let params ← parseParamList fuel close typed
    -- what comes before a slash is positional only, what comes behind a star is named only
    let mut positional : List Param := []
    let mut positionalOnly := 0
    let mut rest : Option String := none
    let mut keywordOnly : List Param := []
    let mut restKeywords : Option String := none
    let mut named := false
    for (mark, p) in params do
      if restKeywords.isSome then failure
      match mark with
      | "/" =>
        if named ∨ positionalOnly ≠ 0 ∨ positional.isEmpty then failure
        positionalOnly := positional.length
      | "*" =>
        if named then failure
        named := true
        if p.name ≠ "" then rest := some p.name
      | "**" => restKeywords := some p.name
      | _ =>
        if named then keywordOnly := keywordOnly ++ [p]
        else
          if p.default.isNone ∧ positional.any (·.default.isSome) then failure
          positional := positional ++ [p]
    if named ∧ rest.isNone ∧ keywordOnly.isEmpty then failure
    let names := (positional ++ keywordOnly).map Param.name ++ rest.toList ++ restKeywords.toList
    unless names.eraseDups.length = names.length do failure
    for n in names do Parser.bind n
    return (positional, positionalOnly, rest, keywordOnly, restKeywords)

/-- Parameters with their marks. -/
def parseParamList : Nat → String → Bool → Parser (List (String × Param))
  | 0, _, _ => failure
  | fuel + 1, close, typed => do
    if ← at_ close then return []
    else
      let p ← if ← accept "/" then pure ("/", Param.mk "" none)
        else if ← accept "**" then pure ("**", Param.mk (← parseParamName fuel typed) none)
        else if ← accept "*" then
          if ← at_ "," then pure ("*", Param.mk "" none) else pure ("*", Param.mk (← parseParamName fuel typed) none)
        else do
          let n ← parseParamName fuel typed
          let default ← if ← accept "=" then pure (some (← parseExpr fuel)) else pure none
          pure ("", Param.mk n default)
      if ← accept "," then return p :: (← parseParamList fuel close typed) else return [p]

/-- The name of a parameter, and the note on its type, which means nothing. -/
def parseParamName : Nat → Bool → Parser String
  | 0, _ => failure
  | fuel + 1, typed => do
    let n ← name
    if typed then
      if ← accept ":" then let _ ← parseExpr fuel
    return n

/-- A block behind a colon: further statements on the line, or indented lines. -/
def parseBlock : Nat → Parser (List Stmt)
  | 0 => failure
  | fuel + 1 => do
    expect ":"
    match ← peek with
    | .newline =>
      let _ ← advance
      match ← advance with
      | .indent =>
        let body ← parseStmts fuel
        match ← advance with
        | .dedent => return body
        | _ => failure
      | _ => failure
    | _ => parseSimples fuel

/-- Statements up to the end of a block. -/
def parseStmts : Nat → Parser (List Stmt)
  | 0 => failure
  | fuel + 1 => do
    match ← peek with
    | .dedent | .eof => return []
    | _ =>
      let s ← parseStmt fuel
      return s ++ (← parseStmts fuel)

/-- Statements on one line. -/
def parseSimples : Nat → Parser (List Stmt)
  | 0 => failure
  | fuel + 1 => do
    let s ← parseSimple fuel
    if ← accept ";" then
      match ← peek with
      | .newline =>
        let _ ← advance
        return [s]
      | _ => return s :: (← parseSimples fuel)
    else
      newline
      return [s]

/-- One statement, or the statements of one line. -/
def parseStmt : Nat → Parser (List Stmt)
  | 0 => failure
  | fuel + 1 => do
    let from_ ← start
    match ← peek with
    | .keyword "if" =>
      let _ ← advance
      return [← parseBranch fuel]
    | .keyword "while" =>
      let _ ← advance
      let condition ← parseNamed fuel
      let body ← inLoop (parseBlock fuel)
      let otherwise ← if ← accept "else" then parseBlock fuel else pure []
      return [.while condition body otherwise]
    | .keyword "for" =>
      let _ ← advance
      let target ← parseTargetList fuel
      bindTarget target
      expect "in"
      let iterable ← parseExprs fuel
      let body ← inLoop (parseBlock fuel)
      let otherwise ← if ← accept "else" then parseBlock fuel else pure []
      return [.for target iterable body otherwise (← since from_)]
    | .keyword "try" =>
      let _ ← advance
      let body ← parseBlock fuel
      let handlers ← parseHandlers fuel
      let otherwise ← if !handlers.isEmpty ∧ (← accept "else") then parseBlock fuel else pure []
      if ← accept "finally" then return [.try body handlers otherwise (← parseBlock fuel)]
      else if handlers.isEmpty then failure
      else return [.try body handlers otherwise []]
    | .keyword "with" =>
      let _ ← advance
      return [← parseWith fuel from_]
    | .keyword "def" => return [← parseDef fuel []]
    | .keyword "class" => return [← parseClass fuel []]
    | .symbol "@" =>
      let decorators ← parseDecorators fuel
      match ← peek with
      | .keyword "def" => return [← parseDef fuel decorators]
      | .keyword "class" => return [← parseClass fuel decorators]
      | _ => failure
    | _ => parseSimples fuel

/-- The rest of a branch behind its keyword. -/
def parseBranch : Nat → Parser Stmt
  | 0 => failure
  | fuel + 1 => do
    let condition ← parseNamed fuel
    let yes ← parseBlock fuel
    if ← accept "elif" then return .branch condition yes [← parseBranch fuel]
    else if ← accept "else" then return .branch condition yes (← parseBlock fuel)
    else return .branch condition yes []

/-- The handlers of a block. -/
def parseHandlers : Nat → Parser (List Handler)
  | 0 => failure
  | fuel + 1 => do
    if ← accept "except" then
      let type ← if ← at_ ":" then pure none else pure (some (← parseExprs fuel))
      let name ← if type.isSome ∧ (← accept "as") then do
          let n ← name
          Parser.bind n
          pure (some n)
        else pure none
      let body ← parseBlock fuel
      return .mk type name body :: (← parseHandlers fuel)
    else return []

/-- The contexts of a block. -/
def parseWith : Nat → Nat × Nat → Parser Stmt
  | 0, _ => failure
  | fuel + 1, from_ => do
    let context ← parseExpr fuel
    let target ← if ← accept "as" then do
        let t ← parseTarget fuel
        bindTarget t
        pure (some t)
      else pure none
    if ← accept "," then
      let inner ← parseWith fuel from_
      return .with context target [inner] (← since from_)
    else
      let body ← parseBlock fuel
      return .with context target body (← since from_)

/-- What a definition is handed to. -/
def parseDecorators : Nat → Parser (List Expr)
  | 0 => failure
  | fuel + 1 => do
    if ← accept "@" then
      let e ← parseNamed fuel
      newline
      return e :: (← parseDecorators fuel)
    else return []

/-- A function with a name. -/
def parseDef : Nat → List Expr → Parser Stmt
  | 0, _ => failure
  | fuel + 1, decorators => do
    let from_ ← start
    expect "def"
    let n ← name
    Parser.bind n
    let (code, _) ← inScope { isFunction := true } do
      expect "("
      let (params, positionalOnly, rest, keywordOnly, restKeywords) ← parseParams fuel ")" true
      expect ")"
      if ← accept "->" then let _ ← parseExpr fuel
      let body ← parseBlock fuel
      let s ← scope
      return FunctionCode.mk n params positionalOnly rest keywordOnly restKeywords body s.locals s.globals s.yields
    return .function code decorators (← since from_)

/-- A class. -/
def parseClass : Nat → List Expr → Parser Stmt
  | 0, _ => failure
  | fuel + 1, decorators => do
    let from_ ← start
    expect "class"
    let n ← name
    Parser.bind n
    let bases ← if ← at_ "(" then parseCallArgs fuel else pure []
    let (body, s) ← inScope {} (parseBlock fuel)
    return .cls n bases body s.locals s.globals decorators (← since from_)

/-- Dotted names, joined again. -/
def parseDotted : Nat → Parser String
  | 0 => failure
  | fuel + 1 => do
    let n ← name
    if ← accept "." then return n ++ "." ++ (← parseDotted fuel) else return n

/-- Modules with the names that they are bound to. -/
def parseModules : Nat → Parser (List (String × Option String))
  | 0 => failure
  | fuel + 1 => do
    let m ← parseDotted fuel
    let as_ ← if ← accept "as" then pure (some (← name)) else pure none
    Parser.bind (as_.getD ((m.splitOn ".").headD m))
    if ← accept "," then return (m, as_) :: (← parseModules fuel) else return [(m, as_)]

/-- What is taken from a module. -/
def parseImported : Nat → Parser (List (String × Option String))
  | 0 => failure
  | fuel + 1 => do
    let n ← name
    let as_ ← if ← accept "as" then pure (some (← name)) else pure none
    Parser.bind (as_.getD n)
    if ← accept "," then
      if ← at_ ")" then return [(n, as_)] else return (n, as_) :: (← parseImported fuel)
    else return [(n, as_)]

/-- Names with commas between them. -/
def parseNames : Nat → Parser (List String)
  | 0 => failure
  | fuel + 1 => do
    let n ← name
    if ← accept "," then return n :: (← parseNames fuel) else return [n]

/-- A statement that is no block. -/
def parseSimple : Nat → Parser Stmt
  | 0 => failure
  | fuel + 1 => do
    let from_ ← start
    let atEnd : Parser Bool := do
      match ← peek with
      | .newline | .symbol ";" => return true
      | _ => return false
    match ← peek with
    | .keyword "pass" => let _ ← advance; return .pass
    | .keyword "break" =>
      let _ ← advance
      if (← scope).inLoop then return .break else failure
    | .keyword "continue" =>
      let _ ← advance
      if (← scope).inLoop then return .continue else failure
    | .keyword "return" =>
      let _ ← advance
      unless (← scope).isFunction do failure
      let value ← if ← atEnd then pure none else pure (some (← parseExprs fuel))
      return .return value (← since from_)
    | .keyword "raise" =>
      let _ ← advance
      if ← atEnd then return .raise none none (← since from_)
      else
        let e ← parseExpr fuel
        let cause ← if ← accept "from" then pure (some (← parseExpr fuel)) else pure none
        return .raise (some e) cause (← since from_)
    | .keyword "assert" =>
      let _ ← advance
      let test ← parseExpr fuel
      let message ← if ← accept "," then pure (some (← parseExpr fuel)) else pure none
      return .assert test message (← since from_)
    | .keyword "del" =>
      let _ ← advance
      let e ← parseExprs fuel
      bindTarget e
      return .del (match e with
        | .tuple items _ => items
        | e => [e])
    | .keyword "global" =>
      let _ ← advance
      let names ← parseNames fuel
      modifyScope fun s => { s with globals := s.globals ++ names }
      return .pass
    | .keyword "nonlocal" =>
      let _ ← advance
      let names ← parseNames fuel
      unless (← scope).isFunction do failure
      modifyScope fun s => { s with nonlocals := s.nonlocals ++ names }
      return .pass
    | .keyword "import" =>
      let _ ← advance
      let modules ← parseModules fuel
      return .import modules (← since from_)
    | .keyword "from" =>
      let _ ← advance
      let m ← parseDotted fuel
      expect "import"
      let names ← if ← accept "(" then do
          let names ← parseImported fuel
          expect ")"
          pure names
        else parseImported fuel
      return .importFrom m names (← since from_)
    | _ =>
      let first ← parseExprs fuel
      match ← peek with
      | .symbol "=" =>
        let (targets, value) ← parseAssigned fuel [first]
        return .assign targets value (← since from_)
      | .symbol ":" =>
        -- a note on a type means nothing, but a bare one binds nothing either
        let _ ← advance
        let _ ← parseExpr fuel
        unless isTarget first do failure
        if ← accept "=" then
          let value ← parseExprs fuel
          bindTarget first
          return .assign [first] value (← since from_)
        else return .pass
      | .symbol s => match augmented? s with
        | some op =>
          let _ ← advance
          let value ← parseExprs fuel
          match first with
          | .name n _ => Parser.bind n
          | .field .. | .subscript .. => pure ()
          | _ => failure
          return .augmented op first value (← since from_)
        | none => return .expr first
      | _ => return .expr first

/-- The rest of an assignment that may have several targets. -/
def parseAssigned : Nat → List Expr → Parser (List Expr × Expr)
  | 0, _ => failure
  | fuel + 1, seen => do
    if ← accept "=" then
      let e ← parseExprs fuel
      parseAssigned fuel (seen ++ [e])
    else match seen.reverse with
      | value :: targets =>
        for t in targets do bindTarget t
        return (targets.reverse, value)
      | [] => failure

end

/-- The fuel for some words. -/
def parserFuel (tokens : Array Placed) : Nat := 30 * tokens.size + 100

/-- The statements of a module. -/
def parseModule? (source : String) : Option (List Stmt) := do
  let tokens ← readTokens? source
  let parser : Parser (List Stmt) := do
    let body ← parseStmts (parserFuel tokens)
    match ← peek with
    | .eof => return body
    | _ => failure
  (·.1) <$> parser.run { tokens }

/-- The one expression that a line consists of. -/
def parseLine? (source : String) : Option Expr :=
  match parseModule? source with
  | some [.expr e] => some e
  | _ => none

end PluginHost.Python
