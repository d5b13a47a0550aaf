import PluginHost.Script.PythonObject

/-!
# Operators of Python programs

Arithmetic, comparison, membership and indexing. Each first asks the methods that a program defines, then works on plain values,
and refuses what is left with the exception that names the types of the operands.
-/

namespace PluginHost.Python

open Run

/-- The sign of an operator. -/
def BinOp.sign : BinOp → String
  | .add => "+" | .sub => "-" | .mul => "*" | .matMul => "@" | .div => "/" | .mod => "%" | .pow => "**" | .lshift => "<<"
  | .rshift => ">>" | .bitOr => "|" | .bitXor => "^" | .bitAnd => "&" | .floorDiv => "//"

/-- The name of the methods for an operator, without underscores. -/
def BinOp.method : BinOp → String
  | .add => "add" | .sub => "sub" | .mul => "mul" | .matMul => "matmul" | .div => "truediv" | .mod => "mod" | .pow => "pow"
  | .lshift => "lshift" | .rshift => "rshift" | .bitOr => "or" | .bitXor => "xor" | .bitAnd => "and"
  | .floorDiv => "floordiv"

/-! ## Arithmetic on numbers -/

/-- The integer that a value is, truth values included. -/
def Value.int? : Value → Option Int
  | .int n => Option.some n
  | .bool b => Option.some (if b then 1 else 0)
  | _ => Option.none

/-- Raises the exception for a division by zero. -/
def divideByZero {α : Type} (message : String) : Run α := fail "ZeroDivisionError" message

/-- Raises the exception for an integer that is too large for a double. -/
def needFloat (n : Int) : Run Float := do
  match intToFloat? n with
  | some x => return x
  | none => fail "OverflowError" "int too large to convert to float"

/-- A power of doubles. -/
def floatPower (x y : Float) : Run Value := do
  if x == 0.0 && y < 0.0 then divideByZero "0.0 cannot be raised to a negative power"
  else if x < 0.0 && !x.isInf && !y.isInf && y.floor != y then
    -- a root of a negative number turns by half a circle times the exponent
    let size := (-x).pow y
    let angle := y * 3.141592653589793
    return .complex (size * angle.cos) (size * angle.sin)
  else
    let r := x.pow y
    if r.isInf && !x.isInf && !y.isInf then
      throwValue (← exception "OverflowError" [.int 34, .ofString "Numerical result out of range"] [])
    else return .float r

/-- An operator on integers. -/
def intArith (op : BinOp) (a b : Int) : Run (Option Value) := do
  match op with
  | .add => return some (.int (a + b))
  | .sub => return some (.int (a - b))
  | .mul => return some (.int (a * b))
  | .matMul => return none
  | .div =>
    if b = 0 then divideByZero "division by zero"
    else match trueQuotient? a b with
      | some x => return some (.float x)
      | none => fail "OverflowError" "integer division result too large for a float"
  | .floorDiv => if b = 0 then divideByZero "integer division or modulo by zero" else return some (.int (a.fdiv b))
  | .mod => if b = 0 then divideByZero "integer modulo by zero" else return some (.int (a.fmod b))
  | .pow => if b < 0 then return some (← floatPower (← needFloat a) (← needFloat b)) else return some (.int (a ^ b.toNat))
  | .lshift => if b < 0 then fail "ValueError" "negative shift count" else return some (.int (a * 2 ^ b.toNat))
  | .rshift => if b < 0 then fail "ValueError" "negative shift count" else return some (.int (a.fdiv (2 ^ b.toNat)))
  | .bitOr => return some (.int (bitwise (· || ·) a b))
  | .bitXor => return some (.int (bitwise (· != ·) a b))
  | .bitAnd => return some (.int (bitwise (· && ·) a b))
where
  /-- An operation on the bits of two's complements, wide enough for both numbers. -/
  bitwise (f : Bool → Bool → Bool) (a b : Int) : Int :=
    let width := max (Nat.log2 a.natAbs) (Nat.log2 b.natAbs) + 2
    let modulus : Nat := 2 ^ width
    let x := (a % modulus).toNat
    let y := (b % modulus).toNat
    Int.bmod (Nat.bitwise f x y % modulus : Nat) modulus

/-- An operator on doubles. -/
def floatArith (op : BinOp) (x y : Float) : Run (Option Value) := do
  match op with
  | .add => return some (.float (x + y))
  | .sub => return some (.float (x - y))
  | .mul => return some (.float (x * y))
  | .div => if y == 0.0 then divideByZero "float division by zero" else return some (.float (x / y))
  | .floorDiv => if y == 0.0 then divideByZero "float floor division by zero" else return some (.float (floatFloorDiv x y))
  | .mod => if y == 0.0 then divideByZero "float modulo" else return some (.float (floatMod x y))
  | .pow => return some (← floatPower x y)
  | _ => return none

/-- An operator on complex numbers. -/
def complexArith (op : BinOp) (a b c d : Float) : Run (Option Value) := do
  match op with
  | .add => return some (.complex (a + c) (b + d))
  | .sub => return some (.complex (a - c) (b - d))
  | .mul => return some (.complex (a * c - b * d) (a * d + b * c))
  | .div =>
    let size := c * c + d * d
    if size == 0.0 then divideByZero "complex division by zero"
    else return some (.complex ((a * c + b * d) / size) ((b * c - a * d) / size))
  | _ => return none

/-- The parts of a number as a complex one. -/
def complexParts? (v : Value) : Run (Option (Float × Float)) := do
  match v with
  | .complex re im => return some (re, im)
  | .float x => return some (x, 0.0)
  | v => match v.int? with
    | some n => return some (← needFloat n, 0.0)
    | none => return none

/-- An operator on numbers, if the values are numbers that it is for. -/
def numberArith (op : BinOp) (a b : Value) : Run (Option Value) := do
  match a, b with
  | .bool x, .bool y => match op with
    | .bitAnd => return some (.bool (x && y))
    | .bitOr => return some (.bool (x || y))
    | .bitXor => return some (.bool (x != y))
    | _ => intArith op (if x then 1 else 0) (if y then 1 else 0)
  | .float x, .float y => floatArith op x y
  | .complex r i, b => match ← complexParts? b with
    | some (s, j) => complexArith op r i s j
    | none => return none
  | a, .complex s j => match ← complexParts? a with
    | some (r, i) => complexArith op r i s j
    | none => return none
  | .float x, b => match b.int? with
    | some n => floatArith op x (← needFloat n)
    | none => return none
  | a, .float y => match a.int? with
    | some n => floatArith op (← needFloat n) y
    | none => return none
  | a, b => match a.int?, b.int? with
    | some m, some n => intArith op m n
    | _, _ => return none

/-! ## Formats -/

/-- A text padded to a width. -/
def padText (fill : Nat) (align : Char) (width : Nat) (s : Text) : Text :=
  let room := width - s.length
  match align with
  | '<' => s ++ List.replicate room fill
  | '^' => List.replicate (room / 2) fill ++ s ++ List.replicate (room - room / 2) fill
  | _ => List.replicate room fill ++ s

/-- A format: how a value is padded and written. -/
structure FormatSpec where
  fill : Nat := 32
  align : Option Char := none
  sign : Char := '-'
  alternate : Bool := false
  width : Nat := 0
  grouping : Option Char := none
  precision : Option Nat := none
  type : Option Char := none

/-- Reads a format. -/
def FormatSpec.read? (s : Text) : Option FormatSpec :=
  let isAlign (c : Char) : Bool := c = '<' || c = '>' || c = '=' || c = '^'
  let cs := s.chars
  let (f, cs) : FormatSpec × List Char := match cs with
    | a :: b :: rest => if isAlign b then ({ fill := a.toNat, align := some b }, rest)
      else if isAlign a then ({ align := some a }, b :: rest) else ({}, a :: b :: rest)
    | [a] => if isAlign a then ({ align := some a }, []) else ({}, [a])
    | [] => ({}, [])
  let (f, cs) := match cs with
    | c :: rest => if c = '+' ∨ c = '-' ∨ c = ' ' then ({ f with sign := c }, rest) else (f, cs)
    | [] => (f, cs)
  let (f, cs) := match cs with
    | '#' :: rest => ({ f with alternate := true }, rest)
    | cs => (f, cs)
  let (f, cs) := match cs with
    | '0' :: rest => ({ f with fill := if f.align.isNone then 48 else f.fill, align := f.align <|> some '=' }, rest)
    | cs => (f, cs)
  let digits := cs.takeWhile Char.isDigit
  let (f, cs) := ({ f with width := digitsIn 10 digits }, cs.drop digits.length)
  let (f, cs) := match cs with
    | c :: rest => if c = ',' ∨ c = '_' then ({ f with grouping := some c }, rest) else (f, cs)
    | [] => (f, cs)
  let (f, cs) := match cs with
    | '.' :: rest =>
      let ds := rest.takeWhile Char.isDigit
      ({ f with precision := if ds = [] then none else some (digitsIn 10 ds) }, rest.drop ds.length)
    | cs => (f, cs)
  match cs with
  | [] => some f
  | [c] => some { f with type := some c }
  | _ => none

/-- Digits in groups. -/
def groupDigits (sep : Char) (size : Nat) (digits : List Char) : List Char :=
  let rec go : List Char → Nat → List Char
    | [], _ => []
    | c :: cs, n => if n ≠ 0 ∧ n % size = 0 then sep :: c :: go cs (n + 1) else c :: go cs (n + 1)
  (go digits.reverse 0).reverse

/-- A number written with its sign, padded behind the sign if the format says so. -/
def FormatSpec.number (f : FormatSpec) (negative : Bool) (mark digits : String) : Text :=
  let sign := if negative then "-" else if f.sign = '-' then "" else String.singleton f.sign
  let head := Text.ofString (sign ++ mark)
  let body := Text.ofString digits
  match f.align with
  | some '=' => head ++ padText f.fill '>' (f.width - head.length) body
  | a => padText f.fill (a.getD '>') f.width (head ++ body)

/-- A value in a format. -/
def formatPlain (eng : Engine) (v : Value) (spec : Text) : Run Text := do
  let unknown (c : Char) : Run Text := do
    fail "ValueError" ("Unknown format code '" ++ String.singleton c ++ "' for object of type '" ++ (← v.typeName) ++ "'")
  let p ← v.plain
  if spec = [] then str eng v
  else match FormatSpec.read? spec with
    | none => fail "ValueError" ("Invalid format specifier '" ++ spec.string ++ "' for object of type '" ++ (← v.typeName) ++ "'")
    | some f =>
      let float (x : Float) : Run Text := do
        let parts := Decimal.Parts.ofFloat (if isNegativeFloat x then -x else x)
        let digits? : Option String := match f.type with
          | none => some (match f.precision with
            | some n => Decimal.general (max n 1) parts
            | none => Decimal.shortestGeneral parts)
          | some 'f' | some 'F' => some (Decimal.fixed (f.precision.getD 6) parts)
          | some 'e' => some (Decimal.exponential (f.precision.getD 6) parts)
          | some 'E' => some (Decimal.exponential (f.precision.getD 6) parts).toUpper
          | some 'g' => some (Decimal.general (max (f.precision.getD 6) 1) parts)
          | some '%' => some (Decimal.fixed (f.precision.getD 6) (.ofFloat ((if isNegativeFloat x then -x else x) * 100.0)) ++ "%")
          | _ => none
        match digits? with
        | some ds =>
          let ds := match f.grouping with
            | some sep =>
              let whole := ds.toList.takeWhile Char.isDigit
              String.ofList (groupDigits sep 3 whole ++ ds.toList.drop whole.length)
            | none => ds
          return f.number (isNegativeFloat x) "" ds
        | none => unknown (f.type.getD ' ')
      match p with
      | .str s => match f.type with
        | none | some 's' =>
          let s := match f.precision with
            | some n => s.take n
            | none => s
          return padText f.fill (f.align.getD '<') f.width s
        | some c => unknown c
      | .float x => float x
      | p => match p.int? with
        | some n =>
          let base (b : Nat) (mark : String) (upper : Bool) : Run Text := do
            let ds := String.ofList (Nat.toDigits b n.natAbs)
            return f.number (n < 0) (if f.alternate then mark else "") (if upper then ds.toUpper else ds)
          match f.type with
          | none | some 'd' | some 'n' =>
            let ds := (toString n.natAbs).toList
            let ds := match f.grouping with
              | some sep => groupDigits sep 3 ds
              | none => ds
            return f.number (n < 0) "" (String.ofList ds)
          | some 'x' => base 16 "0x" false
          | some 'X' => base 16 "0X" true
          | some 'o' => base 8 "0o" false
          | some 'b' => base 2 "0b" false
          | some 'c' => return padText f.fill (f.align.getD '<') f.width [n.toNat]
          | some c =>
            if c = 'f' ∨ c = 'F' ∨ c = 'e' ∨ c = 'E' ∨ c = 'g' ∨ c = 'G' ∨ c = '%' then float (← needFloat n) else unknown c
        | none =>
          typeError ("unsupported format string passed to " ++ (← v.typeName) ++ ".__format__")

/-- A value in a format. -/
def format (eng : Engine) (v : Value) (spec : Text) : Run Text := do
  match ← v.special? "__format__" with
  | some f => match ← (← eng.call f [v, .str spec] []).plain with
    | .str s => return s
    | r => typeError ("__format__ must return a str, not " ++ (← r.typeName))
  | none => formatPlain eng v spec

/-- The text of a value with the characters that are not of the Latin alphabet escaped. -/
def asciiRepr (eng : Engine) (v : Value) : Run Text := do
  return (← repr eng v).flatMap fun n => if n < 128 then [n]
    else if n < 0x100 then Text.ofString ("\\x" ++ hexPadded 2 n)
    else if n < 0x10000 then Text.ofString ("\\u" ++ hexPadded 4 n)
    else Text.ofString ("\\U" ++ hexPadded 8 n)

/-- A text with values put in for its marks. The fuel is the length of the text. -/
def percentFormat (eng : Engine) (args : Value) : Nat → List Value → Text → Run (Text × List Value)
  | 0, rest, s => return (s, rest)
  | _ + 1, rest, [] => return ([], rest)
  | fuel + 1, rest, 37 :: s => do
    -- a key in parentheses, flags, a width, a precision, and the letter of the kind
    let (key?, s) : Option Text × Text := match s with
      | 40 :: s => (some (s.takeWhile (· ≠ 41)), (s.dropWhile (· ≠ 41)).drop 1)
      | s => (none, s)
    let isFlag (n : Nat) : Bool := n == 35 || n == 48 || n == 45 || n == 32 || n == 43
    let isDigit (n : Nat) : Bool := 48 ≤ n && n ≤ 57
    let flags := s.takeWhile isFlag
    let s := s.dropWhile isFlag
    let width := digitsIn 10 (Text.chars (s.takeWhile isDigit))
    let s := s.dropWhile isDigit
    let (precision, s) : Option Nat × Text := match s with
      | 46 :: s => (some (digitsIn 10 (Text.chars (s.takeWhile isDigit))), s.dropWhile isDigit)
      | s => (none, s)
    match s with
    | [] => fail "ValueError" "incomplete format"
    | 37 :: s => do
      let (t, rest) ← percentFormat eng args fuel rest s
      return (37 :: t, rest)
    | c :: s => do
      let (v, rest) ← match key? with
        | some key => match args with
          | .ref id => match Dict.find? (← get).heap (← entriesOf id) (.str key) with
            | some v => pure (v, rest)
            | none => throwValue (← exception "KeyError" [.str key] [])
          | _ => typeError "format requires a mapping"
        | none => match rest with
          | v :: rest => pure (v, rest)
          | [] => typeError "not enough arguments for format string"
      let align : Char := if flags.contains 45 then '<' else '>'
      let spec : FormatSpec := { fill := if flags.contains 48 && !flags.contains 45 then 48 else 32,
                                 align := some (if flags.contains 48 && !flags.contains 45 then '=' else align),
                                 sign := if flags.contains 43 then '+' else if flags.contains 32 then ' ' else '-',
                                 alternate := flags.contains 35, width, precision }
      let text ← match Char.ofNat c with
        | 's' => do pure (padText 32 align width (cut precision (← str eng v)))
        | 'r' => do pure (padText 32 align width (cut precision (← repr eng v)))
        | 'a' => do pure (padText 32 align width (cut precision (← asciiRepr eng v)))
        | 'd' | 'i' | 'u' => do match ← v.plain with
          | .float x => match Decimal.truncate? x with
            | some n => pure (spec.number (n < 0) "" (toString n.natAbs))
            | none => fail "OverflowError" "cannot convert float infinity to integer"
          | p => match p.int? with
            | some n => pure (spec.number (n < 0) "" (toString n.natAbs))
            | none => typeError ("%d format: a real number is required, not " ++ (← v.typeName))
        | 'x' => based eng spec v 16 "0x"
        | 'o' => based eng spec v 8 "0o"
        | 'f' | 'F' | 'e' | 'E' | 'g' | 'G' => do match ← v.plain with
          | .float x => formatFloat spec (Char.ofNat c) x
          | p => match p.int? with
            | some n => formatFloat spec (Char.ofNat c) (← needFloat n)
            | none => typeError ("must be real number, not " ++ (← v.typeName))
        | 'c' => do match ← v.plain with
          | .str [n] => pure (padText 32 align width [n])
          | p => match p.int? with
            | some n => pure (padText 32 align width [n.toNat])
            | none => typeError "%c requires int or char"
        | other => fail "ValueError" ("unsupported format character '" ++ String.singleton other ++ "' (0x" ++ hexPadded 1 c
            ++ ")")
      let (t, rest) ← percentFormat eng args fuel rest s
      return (text ++ t, rest)
  | fuel + 1, rest, c :: s => do
    let (t, rest) ← percentFormat eng args fuel rest s
    return (c :: t, rest)
where
  /-- The first characters of a text. -/
  cut (precision : Option Nat) (s : Text) : Text := match precision with
    | some n => s.take n
    | none => s
  /-- An integer in a base. -/
  based (_ : Engine) (spec : FormatSpec) (v : Value) (base : Nat) (mark : String) : Run Text := do
    match (← v.plain).int? with
    | some n => return spec.number (n < 0) (if spec.alternate then mark else "") (String.ofList (Nat.toDigits base n.natAbs))
    | none => typeError ("%x format: an integer is required, not " ++ (← v.typeName))
  /-- A double with a precision. -/
  formatFloat (spec : FormatSpec) (kind : Char) (x : Float) : Run Text := do
    let parts := Decimal.Parts.ofFloat (if isNegativeFloat x then -x else x)
    let digits := match kind with
      | 'f' | 'F' => Decimal.fixed (spec.precision.getD 6) parts
      | 'e' | 'E' => Decimal.exponential (spec.precision.getD 6) parts
      | _ => Decimal.general (max (spec.precision.getD 6) 1) parts
    return spec.number (isNegativeFloat x) "" digits

/-! ## Operators -/

/-- The items of a sequence some times over. -/
def repeated {α : Type} (items : List α) (count : Int) : List α := (List.replicate count.toNat items).flatten

/-- An operator on sequences and the like, if the values are of types that it is for. -/
def containerArith (eng : Engine) (op : BinOp) (isInPlace : Bool) (left : Value) (a b : Value) : Run (Option Value) := do
  let sameSets (f : List Value → List Value → Bool → Value → Bool) (xs ys : List Value) (cls : Nat) : Run (Option Value) := do
    -- which members of the left, and which of the right, stay
    let heap := (← get).heap
    let has (s : List Value) (x : Value) : Bool := s.any fun y => (keyOf heap x).sameKey (keyOf heap y)
    let kept := xs.filter (f xs ys true) ++ ys.filter fun y => !has xs y && f xs ys false y
    match isInPlace, left with
    | true, .ref id =>
      if cls = BaseType.set.id then
        setData id (.set kept)
        return some left
      else return some (← alloc { cls, data := .set kept })
    | _, _ => return some (← alloc { cls, data := .set kept })
  match op, a, b with
  | .add, .str s, .str t => return some (.str (s ++ t))
  | .add, .bytes s, .bytes t => return some (.bytes (s ++ t))
  | .add, .tuple s, .tuple t => return some (.tuple (s ++ t))
  | .mod, .str s, b =>
    let args := match b with
      | .tuple items => items
      | b => [b]
    let (t, rest) ← percentFormat eng b (s.length + 1) args s
    let isMapping ← match b with
      | .ref id => match ← data id with
        | .dict _ => pure true
        | _ => pure false
      | _ => pure false
    if rest.isEmpty || isMapping then return some (.str t)
    else typeError "not all arguments converted during string formatting"
  | .add, .ref i, b => match ← data i with
    | .list xs =>
      if isInPlace then
        let ys ← itemsOf eng b
        match ← data i with
        | .list xs => setData i (.list (xs ++ ys.toArray))
        | _ => pure ()
        return some left
      else match b with
        | .ref j => match ← data j with
          | .list ys => return some (← list (xs ++ ys).toList)
          | _ => return none
        | _ => return none
    | .bytearray xs => match b with
      | .bytes ys => return some (← alloc { cls := BaseType.bytearray.id, data := .bytearray (xs ++ ys) })
      | _ => return none
    | _ => return none
  | .mul, a, b => do
    let times (v : Value) (n : Int) : Run (Option Value) := do
      match v with
      | .str s => return some (.str (repeated s n))
      | .bytes s => return some (.bytes (repeated s n))
      | .tuple s => return some (.tuple (repeated s n))
      | .ref i => match ← data i with
        | .list xs =>
          if isInPlace then
            setData i (.list (repeated xs.toList n).toArray)
            return some left
          else return some (← list (repeated xs.toList n))
        | .bytearray xs => return some (← alloc { cls := BaseType.bytearray.id, data := .bytearray (repeated xs n) })
        | _ => return none
      | _ => return none
    match b.int?, a.int? with
    | some n, none => times a n
    | none, some n => times b n
    | _, _ => return none
  | op, .ref i, .ref j => do
    let o ← object i
    match o.data, ← data j with
    | .dict xs, .dict ys =>
      if op = .bitOr then
        let heap := (← get).heap
        let merged := ys.foldl (fun d (k, v) => Dict.insert heap d k v) xs
        if isInPlace then
          setData i (.dict merged)
          return some left
        else return some (← alloc { cls := o.cls, attrs := o.attrs, data := .dict merged })
      else return none
    | .set xs, .set ys =>
      let heap := (← get).heap
      let has (s : List Value) (x : Value) : Bool := s.any fun y => (keyOf heap x).sameKey (keyOf heap y)
      match op with
      | .bitOr => sameSets (fun _ _ _ _ => true) xs ys o.cls
      | .bitAnd => sameSets (fun _ ys isLeft v => isLeft && has ys v) xs ys o.cls
      | .sub => sameSets (fun _ ys isLeft v => isLeft && !has ys v) xs ys o.cls
      | .bitXor => sameSets (fun _ ys isLeft v => !isLeft || !has ys v) xs ys o.cls
      | _ => return none
    | _, _ => return none
  | _, _, _ => return none

/-- Raises the exception for operands that an operator is not for. -/
def refuseOperands {α : Type} (op : BinOp) (isInPlace : Bool) (a b : Value) : Run α := do
  let p ← a.plain
  let q ← b.plain
  let kind (v : Value) : Run String := do
    match v with
    | .str _ => return "str"
    | .bytes _ => return "bytes"
    | .tuple _ => return "tuple"
    | .ref i => match ← data i with
      | .list _ => return "list"
      | .bytearray _ => return "bytearray"
      | _ => return ""
    | _ => return ""
  let left ← kind p
  let right ← kind q
  match op with
  | .add =>
    if left = "bytes" ∨ left = "bytearray" then typeError ("can't concat " ++ (← b.typeName) ++ " to " ++ left)
    else if left ≠ "" then typeError ("can only concatenate " ++ left ++ " (not \"" ++ (← b.typeName) ++ "\") to " ++ left)
    else general
  | .mul =>
    if left ≠ "" then typeError ("can't multiply sequence by non-int of type '" ++ (← b.typeName) ++ "'")
    else if right ≠ "" then typeError ("can't multiply sequence by non-int of type '" ++ (← a.typeName) ++ "'")
    else general
  | _ => general
where
  /-- The exception that names the operator and both types. -/
  general : Run α := do
    let sign := if op = .pow ∧ !isInPlace then "** or pow()" else op.sign ++ (if isInPlace then "=" else "")
    typeError ("unsupported operand type(s) for " ++ sign ++ ": '" ++ (← a.typeName) ++ "' and '" ++ (← b.typeName) ++ "'")

/-- The value of an operator on two values. -/
def binary (eng : Engine) (op : BinOp) (isInPlace : Bool) (a b : Value) : Run Value := do
  let ask (v : Value) (name : String) (other : Value) : Run (Option Value) := do
    match ← v.special? name with
    | none => return none
    | some f => match ← eng.call f [v, other] [] with
      | .notImplemented => return none
      | r => return some r
  let m := op.method
  let inPlace ← if isInPlace then ask a ("__i" ++ m ++ "__") b else pure none
  match inPlace with
  | some r => return r
  | none =>
    let left ← a.typeId
    let right ← b.typeId
    let rightFirst := left ≠ right && (← isSubclass right left)
    let early ← if rightFirst then ask b ("__r" ++ m ++ "__") a else pure none
    match early with
    | some r => return r
    | none => match ← ask a ("__" ++ m ++ "__") b with
      | some r => return r
      | none =>
        let late ← if !rightFirst && left ≠ right then ask b ("__r" ++ m ++ "__") a else pure none
        match late with
        | some r => return r
        | none =>
          let p ← a.plain
          let q ← b.plain
          match ← numberArith op p q with
          | some r => return r
          | none => match ← containerArith eng op isInPlace a p q with
            | some r => return r
            | none => refuseOperands op isInPlace a b

/-- The value of an operator on one value. -/
def unary (eng : Engine) (op : UnOp) (v : Value) : Run Value := do
  let refuse (sign : String) : Run Value := do
    typeError ("bad operand type for unary " ++ sign ++ ": '" ++ (← v.typeName) ++ "'")
  let ask (name : String) (plain : Value → Run Value) : Run Value := do
    match ← v.special? name with
    | some f => eng.call f [v] []
    | none => plain (← v.plain)
  match op with
  | .not => return .bool !(← truth eng v)
  | .neg => ask "__neg__" fun
    | .float x => return .float (-x)
    | .complex re im => return .complex (-re) (-im)
    | p => match p.int? with
      | some n => return .int (-n)
      | none => refuse "-"
  | .pos => ask "__pos__" fun
    | .float x => return .float x
    | .complex re im => return .complex re im
    | p => match p.int? with
      | some n => return .int n
      | none => refuse "+"
  | .invert => ask "__invert__" fun p => match p.int? with
      | some n => return .int (-n - 1)
      | none => refuse "~"

/-! ## Membership and comparison -/

/-- Whether a value has an item. -/
def contains (eng : Engine) (container item : Value) : Run Bool := do
  match ← container.special? "__contains__" with
  | some f => truth eng (← eng.call f [container, item] [])
  | none =>
    let among (items : List Value) : Run Bool := items.anyM fun x => equalOrSame eng x item
    match ← container.plain with
    | .str s => match ← item.plain with
      | .str t => return (Text.find? t s 0).isSome
      | _ => typeError ("'in <string>' requires string as left operand, not " ++ (← item.typeName))
    | .bytes b => match ← item.plain with
      | .bytes t => return (Text.find? (t.map UInt8.toNat) (b.map UInt8.toNat) 0).isSome
      | p => match p.int? with
        | some n => return b.any fun x => (x.toNat : Int) == n
        | none => typeError ("a bytes-like object is required, not '" ++ (← item.typeName) ++ "'")
    | .tuple items => among items
    | .range a b c => match (← item.plain).int? with
      | some n => return (0 < c && a ≤ n && n < b || c < 0 && b < n && n ≤ a) && (n - a) % c == 0
      | none => return false
    | .ref id => match ← data id with
      | .list items => among items.toList
      | .dict entries => do
        checkHashable eng recursionFuel item
        return (Dict.find? (← get).heap entries item).isSome
      | .set items => do
        checkHashable eng recursionFuel item
        let heap := (← get).heap
        return items.any fun x => (keyOf heap x).sameKey (keyOf heap item)
      | _ => viaItems container item
    | _ => viaItems container item
where
  /-- Looks an item up among the items that a value gives one by one. -/
  viaItems (container item : Value) : Run Bool := do
    match ← attempt (iter eng container) with
    | .ok it => (← itemsOf eng it).anyM fun x => equalOrSame eng x item
    | .error _ => typeError ("argument of type '" ++ (← container.typeName) ++ "' is not iterable")

/-- The value of a comparison. -/
def compare (eng : Engine) (op : CmpOp) (a b : Value) : Run Value := do
  let ask (v : Value) (name : String) (other : Value) : Run (Option Value) := do
    match ← v.special? name with
    | none => return none
    | some f => match ← eng.call f [v, other] [] with
      | .notImplemented => return none
      | r => return some r
  match op with
  | .is => return .bool (a.same b)
  | .isNot => return .bool !(a.same b)
  | .in => return .bool (← contains eng b a)
  | .notIn => return .bool !(← contains eng b a)
  | .eq => match ← ask a "__eq__" b with
    | some r => return r
    | none => match ← ask b "__eq__" a with
      | some r => return r
      | none => return .bool (← equal eng a b)
  | .ne => match ← ask a "__ne__" b with
    | some r => return r
    | none => match ← ask b "__ne__" a with
      | some r => return r
      | none => return .bool !(← equal eng a b)
  | op => order eng op a b

/-! ## Indexing -/

/-- The bounds of a slice. -/
def sliceParts (eng : Engine) (start stop step : Value) : Run (Option Int × Option Int × Int) := do
  let part (v : Value) : Run (Option Int) := do
    match v with
    | .none => return none
    | v => match ← index? eng v with
      | some n => return some n
      | none => typeError "slice indices must be integers or None or have an __index__ method"
  let s := (← part step).getD 1
  if s = 0 then fail "ValueError" "slice step cannot be zero"
  else return (← part start, ← part stop, s)

/-- The items of a list at some places. -/
def pick {α : Type} (items : List α) (indexes : List Nat) : List α :=
  let a := items.toArray
  indexes.filterMap fun i => a[i]?

/-- The place that an index means in a sequence; negative ones count from the end. -/
def placeOf? (length : Nat) (n : Int) : Option Nat :=
  let i := if n < 0 then n + length else n
  if 0 ≤ i ∧ i < length then some i.toNat else none

/-- The item of a sequence at an index, or the items of a slice. -/
def sequenceItem {α : Type} (eng : Engine) (items : List α) (index : Value) (one : α → Run Value) (some_ : List α → Run Value)
    (outside wrongType : String) : Run Value := do
  match index with
  | .slice a b c =>
    let (start, stop, step) ← sliceParts eng a b c
    some_ (pick items (sliceIndexes items.length start stop step))
  | index => match ← index? eng index with
    | some n =>
      if n < -(2 ^ 63) ∨ 2 ^ 63 ≤ n then
        fail "IndexError" ("cannot fit '" ++ (← index.typeName) ++ "' into an index-sized integer")
      else match (placeOf? items.length n).bind fun i => items[i]? with
        | some x => one x
        | none => fail "IndexError" outside
    | none => typeError wrongType

/-- The item of a value at an index or a key, for values that do not define how it is found. -/
def plainGetItem (eng : Engine) (v index : Value) : Run Value := do
  let wrong (what : String) : Run String := return what ++ " indices must be integers or slices, not " ++ (← index.typeName)
  match ← v.plain with
  | .str s =>
    sequenceItem eng s index (fun c => return .str [c]) (fun cs => return .str cs) "string index out of range"
      ("string indices must be integers, not '" ++ (← index.typeName) ++ "'")
  | .bytes b =>
    sequenceItem eng b index (fun x => return .int x.toNat) (fun xs => return .bytes xs) "index out of range"
      (← wrong "byte")
  | .tuple items =>
    sequenceItem eng items index pure (fun xs => return .tuple xs) "tuple index out of range" (← wrong "tuple")
  | .range a b c => match index with
    | .slice x y z => do
      let (start, stop, step) ← sliceParts eng x y z
      let (first, bound) := sliceBounds (rangeLength a b c) start stop step
      return .range (a + first * c) (a + bound * c) (c * step)
    | _ =>
      sequenceItem eng (rangeItems a c (rangeLength a b c)) index (fun n => return .int n) (fun _ => return .none)
        "range object index out of range" (← wrong "range")
  | .ref id => do
    let o ← object id
    match o.data with
    | .list items => sequenceItem eng items.toList index pure list "list index out of range" (← wrong "list")
    | .bytearray b =>
      sequenceItem eng b index (fun x => return .int x.toNat)
        (fun xs => alloc { cls := BaseType.bytearray.id, data := .bytearray xs }) "bytearray index out of range"
        (← wrong "bytearray")
    | .dict entries => do
      checkHashable eng recursionFuel index
      match Dict.find? (← get).heap entries index with
      | some x => return x
      | none => match ← v.special? "__missing__" with
        | some f => eng.call f [v, index] []
        | none => match o.attrs.find? (·.1 = "default_factory") with
          | some (_, .none) | none => throwValue (← exception "KeyError" [index] [])
          | some (_, f) => do
            let made ← eng.call f [] []
            setItemOf eng id index made
            return made
    | .cls c =>
      if ← isSubclass o.cls BaseType.enumType.id then
        let members ← match ← ownAttr id "_member_map_" with
          | some (.ref m) => entriesOf m
          | _ => pure []
        match Dict.find? (← get).heap members index with
        | some m => return m
        | none => throwValue (← exception "KeyError" [index] [])
      else match ← attrAmong c.mro "__class_getitem__" with
        | some f => eng.call f [v, index] []
        | none =>
          let isGeneric := [BaseType.list, .dict, .tuple, .set, .frozenset, .type].any fun t => t.id = id
          if isGeneric then return v else typeError ("type '" ++ c.name ++ "' is not subscriptable")
    | _ => typeError ("'" ++ (← v.typeName) ++ "' object is not subscriptable")
  | _ => typeError ("'" ++ (← v.typeName) ++ "' object is not subscriptable")

/-- Sets the item of a value at an index or a key, for values that do not define how. -/
def plainSetItem (eng : Engine) (v index new : Value) : Run Unit := do
  let refuse : Run Unit := do typeError ("'" ++ (← v.typeName) ++ "' object does not support item assignment")
  match v with
  | .ref id => match ← data id with
    | .dict _ => setItemOf eng id index new
    | .list items => match index with
      | .slice a b c => do
        let (start, stop, step) ← sliceParts eng a b c
        let fresh ← itemsOf eng new
        let old := items.toList
        if step = 1 then
          let (first, bound) := sliceBounds old.length start stop 1
          let last := max first bound
          setData id (.list (old.take first.toNat ++ fresh ++ old.drop last.toNat).toArray)
        else
          let places := sliceIndexes old.length start stop step
          if places.length ≠ fresh.length then
            fail "ValueError" ("attempt to assign sequence of size " ++ toString fresh.length
              ++ " to extended slice of size " ++ toString places.length)
          else setData id (.list ((places.zip fresh).foldl (fun xs (i, x) => xs.setIfInBounds i x) items))
      | index => match ← index? eng index with
        | some n => match placeOf? items.size n with
          | some i => setData id (.list (items.setIfInBounds i new))
          | none => fail "IndexError" "list assignment index out of range"
        | none => typeError ("list indices must be integers or slices, not " ++ (← index.typeName))
    | .bytearray b => match ← index? eng index, ← index? eng new with
      | some n, some x => match placeOf? b.length n with
        | some i =>
          if x < 0 ∨ 255 < x then fail "ValueError" "byte must be in range(0, 256)"
          else setData id (.bytearray (b.set i (UInt8.ofNat x.toNat)))
        | none => fail "IndexError" "bytearray index out of range"
      | _, _ => typeError ("bytearray indices must be integers or slices, not " ++ (← index.typeName))
    | _ => refuse
  | _ => refuse

/-- Removes the item of a value at an index or a key, for values that do not define how. -/
def plainDelItem (eng : Engine) (v index : Value) : Run Unit := do
  let refuse : Run Unit := do typeError ("'" ++ (← v.typeName) ++ "' object doesn't support item deletion")
  match v with
  | .ref id => match ← data id with
    | .dict entries => do
      checkHashable eng recursionFuel index
      let heap := (← get).heap
      if (Dict.find? heap entries index).isSome then setData id (.dict (Dict.erase heap entries index))
      else throwValue (← exception "KeyError" [index] [])
    | .list items => match index with
      | .slice a b c => do
        let (start, stop, step) ← sliceParts eng a b c
        let places := sliceIndexes items.size start stop step
        let kept := items.toList.zipIdx.filter fun (_, i) => !places.contains i
        setData id (.list (kept.map (·.1)).toArray)
      | index => match ← index? eng index with
        | some n => match placeOf? items.size n with
          | some i => setData id (.list (items.toList.eraseIdx i).toArray)
          | none => fail "IndexError" "list assignment index out of range"
        | none => typeError ("list indices must be integers or slices, not " ++ (← index.typeName))
    | _ => refuse
  | _ => refuse

/-- The item of a value at an index or a key. -/
def getItem (eng : Engine) (v index : Value) : Run Value := do
  match ← v.special? "__getitem__" with
  | some f => eng.call f [v, index] []
  | none => plainGetItem eng v index

/-- Sets the item of a value at an index or a key. -/
def setItem (eng : Engine) (v index new : Value) : Run Unit := do
  match ← v.special? "__setitem__" with
  | some f => let _ ← eng.call f [v, index, new] []
  | none => plainSetItem eng v index new

/-- Removes the item of a value at an index or a key. -/
def delItem (eng : Engine) (v index : Value) : Run Unit := do
  match ← v.special? "__delitem__" with
  | some f => let _ ← eng.call f [v, index] []
  | none => plainDelItem eng v index

end PluginHost.Python
