import PluginHost.Script.PythonEncoding

/-!
# The methods of texts of Python
-/

namespace PluginHost.Python

open Run

/-- The bounds that arguments give for a search. -/
def searchBounds (eng : Engine) (length : Nat) (start stop : Option Value) : Run (Nat × Nat) := do
  let bound (v : Option Value) (default : Nat) : Run Nat := do
    match v with
    | none | some .none => return default
    | some v =>
      let n ← needInt eng v
      return (if n < 0 then max (n + length) 0 else min n length).toNat
  return (← bound start 0, ← bound stop length)

/-- Where a text is found from the left or the right in another. -/
def findText (eng : Engine) (s needle : Text) (start stop : Option Value) (fromRight : Bool) : Run (Option Nat) := do
  let (a, b) ← searchBounds eng s.length start stop
  let part := (s.take b).drop a
  if a > b then return none
  else if fromRight then
    return (Text.find? needle.reverse part.reverse 0).map fun i => a + (part.length - i - needle.length)
  else return (Text.find? needle part 0).map (a + ·)

/-- The letters of the Latin alphabet in upper or lower case. -/
def mapCase (f : Char → Char) (s : Text) : Text := s.map fun n => if n < 128 then (f (Char.ofNat n)).toNat else n

/-- Whether a code point is a letter. -/
def isLetter (n : Nat) : Bool := if n < 128 then (Char.ofNat n).isAlpha else isPrintable n

/-- A text with capital letters where words start. -/
def titled : Bool → Text → Text
  | _, [] => []
  | inWord, c :: cs => mapCase (if inWord then Char.toLower else Char.toUpper) [c] ++ titled (isLetter c) cs

/-- The lines of a text, behind what was read of the first one. -/
def linesOf (keep : Bool) : Text → Text → List Text
  | acc, [] => if acc = [] then [] else [acc.reverse]
  | acc, 13 :: 10 :: cs => (if keep then 10 :: 13 :: acc else acc).reverse :: linesOf keep [] cs
  | acc, c :: cs =>
    if c = 10 ∨ c = 13 ∨ c = 11 ∨ c = 12 ∨ c = 0x85 ∨ c = 0x2028 ∨ c = 0x2029 ∨ (28 ≤ c ∧ c ≤ 30) then
      (if keep then c :: acc else acc).reverse :: linesOf keep [] cs
    else linesOf keep (c :: acc) cs

/-- The texts that a text may start or end with. -/
def affixes (name : String) (v : Value) : Run (List Text) := do
  match v with
  | .tuple items => items.mapM fun i => do
    match ← i.plain with
    | .str t => return t
    | _ => typeError ("tuple for " ++ name ++ " must only contain str, not " ++ (← i.typeName))
  | v => match ← v.plain with
    | .str t => return [t]
    | _ => typeError (name ++ " first arg must be str or a tuple of str, not " ++ (← v.typeName))

/-- A method on texts. -/
def textZero (name : String) (f : Text → Run Value) : String × NativeBody :=
  methodZero "str" name fun _ self => do
    match ← self.plain with
    | .str s => f s
    | _ => return .none

/-- A method on texts with some number of arguments. -/
def textSome (name : String) (least most : Nat) (f : Engine → Text → List Value → Run Value) : String × NativeBody :=
  methodSome "str" name least most fun eng self args => do
    match ← self.plain with
    | .str s => f eng s args
    | _ => return .none

/-- Puts values in for the fields of a text in braces. The fuel is the length of the text. -/
def braceFormat (eng : Engine) (args : List Value) (kw : List (String × Value)) : Nat → Nat → Text → Run Text
  | 0, _, s => return s
  | _ + 1, _, [] => return []
  | fuel + 1, auto, 123 :: 123 :: s => return 123 :: (← braceFormat eng args kw fuel auto s)
  | fuel + 1, auto, 125 :: 125 :: s => return 125 :: (← braceFormat eng args kw fuel auto s)
  | _ + 1, _, 125 :: _ => fail "ValueError" "Single '\x7d' encountered in format string"
  | fuel + 1, auto, 123 :: s => do
    match Text.find? [125] s 0 with
    | none => fail "ValueError" "expected '\x7d' before end of string"
    | some i =>
      let field := s.take i
      let name := field.takeWhile fun c => c ≠ 33 && c ≠ 58
      let after := field.drop name.length
      let (conversion, after) : Option Nat × Text := match after with
        | 33 :: c :: rest => (some c, rest)
        | rest => (none, rest)
      let spec := after.drop 1
      let base := name.takeWhile fun c => c ≠ 46 && c ≠ 91
      let (v, auto) ← if base = [] then match args[auto]? with
          | some v => pure (v, auto + 1)
          | none => fail "IndexError" ("Replacement index " ++ toString auto ++ " out of range for positional args tuple")
        else if base.all fun c => 48 ≤ c && c ≤ 57 then match args[digitsIn 10 (Text.chars base)]? with
          | some v => pure (v, auto)
          | none =>
            fail "IndexError" ("Replacement index " ++ (Text.string base) ++ " out of range for positional args tuple")
        else match kw.find? (·.1 = (Text.string base)) with
          | some (_, v) => pure (v, auto)
          | none => throwValue (← exception "KeyError" [.str base] [])
      let v ← match name.drop base.length with
        | 46 :: attr => getAttr eng v (Text.string attr)
        | 91 :: key =>
          let key := key.takeWhile (· ≠ 93)
          getItem eng v (if key.all fun c => 48 ≤ c && c ≤ 57 then .int (digitsIn 10 (Text.chars key)) else .str key)
        | _ => pure v
      let v ← match conversion with
        | some 114 => do pure (Value.str (← repr eng v))
        | some 115 => do pure (Value.str (← str eng v))
        | some 97 => do pure (Value.str (← asciiRepr eng v))
        | _ => pure v
      return (← format eng v spec) ++ (← braceFormat eng args kw fuel auto (s.drop (i + 1)))
  | fuel + 1, auto, c :: s => return c :: (← braceFormat eng args kw fuel auto s)

/-- The methods of texts. -/
def textMethods : List (String × NativeBody) := [
  textZero "upper" fun s => return .str (mapCase Char.toUpper s),
  textZero "lower" fun s => return .str (mapCase Char.toLower s),
  textZero "casefold" fun s => return .str (mapCase Char.toLower s),
  textZero "swapcase" fun s => return .str (mapCase (fun c => if c.isUpper then c.toLower else c.toUpper) s),
  textZero "capitalize" fun s => return .str (match s with
    | [] => []
    | c :: cs => mapCase Char.toUpper [c] ++ mapCase Char.toLower cs),
  textZero "title" fun s =>
    return .str (titled false s),
  textSome "strip" 0 1 fun _ s args => stripped s args true true,
  textSome "lstrip" 0 1 fun _ s args => stripped s args true false,
  textSome "rstrip" 0 1 fun _ s args => stripped s args false true,
  methodNamed "str" "split" ["sep", "maxsplit"] fun eng self arg => do
    let s ← needText "self" self
    let limit ← match arg "maxsplit" with
      | some v => do
        let n ← needInt eng v
        pure (if n < 0 then none else some n.toNat)
      | none => pure none
    let parts ← match arg "sep" with
      | none | some .none => pure (Text.words (s.length + 1) limit s)
      | some v => do
        let sep ← match ← v.plain with
          | .str t => pure t
          | _ => typeError ("must be str or None, not " ++ (← v.typeName))
        if sep = [] then fail "ValueError" "empty separator" else pure (Text.splitOn sep (s.length + 1) limit [] s)
    list (parts.map .str),
  textSome "splitlines" 0 1 fun eng s args => do
    let keep ← match args with
      | [v] => truth eng v
      | _ => pure false
    list ((linesOf keep [] s).map .str),
  methodOne "str" "join" fun eng self v => do
    let sep ← needText "self" self
    match ← attempt (iter eng v) with
    | .error e => if ← isRaised e "TypeError" then typeError "can only join an iterable" else throwValue e
    | .ok it =>
      let texts ← (← itemsOf eng it).zipIdx.mapM fun (x, i) => do
        match ← x.plain with
        | .str t => return t
        | _ => typeError ("sequence item " ++ toString i ++ ": expected str instance, " ++ (← x.typeName) ++ " found")
      return .str (Text.join sep texts),
  textSome "startswith" 1 3 fun eng s args => do
    let (a, b) ← searchBounds eng s.length args[1]? args[2]?
    let part := (s.take b).drop a
    return .bool ((← affixes "startswith" (args.getD 0 .none)).any fun t => a ≤ b && t.isPrefixOf part),
  textSome "endswith" 1 3 fun eng s args => do
    let (a, b) ← searchBounds eng s.length args[1]? args[2]?
    let part := (s.take b).drop a
    return .bool ((← affixes "endswith" (args.getD 0 .none)).any fun t => a ≤ b && t.isSuffixOf part),
  textSome "removeprefix" 1 1 fun _ s args => do
    let t ← needText "removeprefix() argument" (args.getD 0 .none)
    return .str (if t.isPrefixOf s then s.drop t.length else s),
  textSome "removesuffix" 1 1 fun _ s args => do
    let t ← needText "removesuffix() argument" (args.getD 0 .none)
    return .str (if t ≠ [] ∧ t.isSuffixOf s then s.take (s.length - t.length) else s),
  textSome "find" 1 3 fun eng s args => do
    return .int (((← findText eng s (← needText "find() argument 1" (args.getD 0 .none)) args[1]? args[2]? false).map
      Int.ofNat).getD (-1)),
  textSome "rfind" 1 3 fun eng s args => do
    return .int (((← findText eng s (← needText "rfind() argument 1" (args.getD 0 .none)) args[1]? args[2]? true).map
      Int.ofNat).getD (-1)),
  textSome "index" 1 3 fun eng s args => do
    match ← findText eng s (← needText "index() argument 1" (args.getD 0 .none)) args[1]? args[2]? false with
    | some i => return .int i
    | none => fail "ValueError" "substring not found",
  textSome "count" 1 3 fun eng s args => do
    let t ← needText "count() argument 1" (args.getD 0 .none)
    let (a, b) ← searchBounds eng s.length args[1]? args[2]?
    let part := (s.take b).drop a
    return .int (if t = [] then part.length + 1 else (Text.splitOn t (part.length + 1) none [] part).length - 1 : Nat),
  textSome "replace" 2 3 fun _ s args => do
    let old ← needText "replace() argument 1" (args.getD 0 .none)
    let new ← needText "replace() argument 2" (args.getD 1 .none)
    if old = [] then return .str (new ++ s.flatMap fun c => c :: new)
    else return .str (Text.replace old new (s.length + 1) s),
  textSome "partition" 1 1 fun _ s args => do
    let sep ← needText "must be str, not" (args.getD 0 .none)
    match Text.find? sep s 0 with
    | some i => return .tuple [.str (s.take i), .str sep, .str (s.drop (i + sep.length))]
    | none => return .tuple [.str s, .str [], .str []],
  textSome "zfill" 1 1 fun eng s args => do
    let width ← needInt eng (args.getD 0 .none)
    let zeros := List.replicate (width.toNat - s.length) 48
    return .str (match s with
      | 43 :: rest => 43 :: zeros ++ rest
      | 45 :: rest => 45 :: zeros ++ rest
      | s => zeros ++ s),
  textSome "ljust" 1 2 fun eng s args => do return .str (padText (← fillOf args) '<' (← needInt eng (args.getD 0 .none)).toNat s),
  textSome "rjust" 1 2 fun eng s args => do return .str (padText (← fillOf args) '>' (← needInt eng (args.getD 0 .none)).toNat s),
  textSome "center" 1 2 fun eng s args => do return .str (padText (← fillOf args) '^' (← needInt eng (args.getD 0 .none)).toNat s),
  textZero "isdigit" fun s => return .bool (s ≠ [] && s.all fun n => 48 ≤ n && n ≤ 57),
  textZero "isalpha" fun s => return .bool (s ≠ [] && s.all isLetter),
  textZero "isalnum" fun s => return .bool (s ≠ [] && s.all fun n => isLetter n || (48 ≤ n && n ≤ 57)),
  textZero "isspace" fun s => return .bool (s ≠ [] && s.all Text.isSpace),
  textZero "isupper" fun s => return .bool (s.any (fun n => (Char.ofNat n).isUpper) && !s.any fun n => (Char.ofNat n).isLower),
  textZero "islower" fun s => return .bool (s.any (fun n => (Char.ofNat n).isLower) && !s.any fun n => (Char.ofNat n).isUpper),
  textZero "isprintable" fun s => return .bool (s.all isPrintable),
  textZero "isidentifier" fun s => return .bool (match s with
    | [] => false
    | c :: cs => isNameStart (Char.ofNat c) && cs.all fun n => isNameChar (Char.ofNat n)),
  methodNamed "str" "encode" ["encoding", "errors"] fun _ self arg => do
    checkEncoding (arg "encoding") "encode() argument 'encoding'"
    return .bytes (← encodeText (← needText "self" self)),
  ("format", fun eng args kw => do
    let (self, rest) ← receiver "str" "format" args
    let s ← needText "self" self
    return .str (← braceFormat eng rest kw (s.length + 1) 0 s))]
where
  /-- A text without what is at its ends. -/
  stripped (s : Text) (args : List Value) (left right : Bool) : Run Value := do
    match args with
    | [] | [.none] => return .str (s.strip Text.isSpace left right)
    | v :: _ => match ← v.plain with
      | .str t => return .str (s.strip t.contains left right)
      | _ => typeError "strip arg must be None or str"
  /-- The character that fills a text up. -/
  fillOf (args : List Value) : Run Nat := do
    match (args.drop 1).head? with
    | none => return 32
    | some (.str [c]) => return c
    | some _ => typeError "The fill character must be exactly one character long"

end PluginHost.Python
