import PluginHost.Script.LuaNumber

/-!
# Lua patterns

The small pattern language of the `string` library. `matchFrom` tries a pattern at one place of a text; a pattern that is not
well formed is an error, found only when the match gets there. Each item of a pattern moves on in the pattern before the rest is
tried, so its length bounds how deep the search goes.
-/

namespace PluginHost.Lua.Pattern

/-- What parentheses keep: the start and, once closed, the length, or a position alone. -/
inductive Capture
  | «open» (start : Nat)
  | closed (start length : Nat)
  | position (start : Nat)

/-- A try: an error, or no match, or the end of the match and what it kept. -/
abbrev Try := Except String (Option (Nat × Array Capture))

/-- Whether a character belongs to a class by its letter. -/
def inClass (c letter : Char) : Bool :=
  let n := c.toNat
  let isPunctuation := 33 ≤ n && n ≤ 126 && !c.isAlphanum
  let member := match letter.toLower with
    | 'a' => c.isAlpha
    | 'c' => n < 32 || n = 127
    | 'd' => c.isDigit
    | 'g' => 33 ≤ n && n ≤ 126
    | 'l' => c.isLower
    | 'p' => isPunctuation
    | 's' => isSpace c
    | 'u' => c.isUpper
    | 'w' => c.isAlphanum
    | 'x' => isHexDigit c
    | _ => c = letter
  if letter.isUpper && "acdglpsuwx".contains letter.toLower then !member else member

/-- The end of a set that opens before `i`; a bracket right after the start belongs to the set. -/
def setEnd (p : Array Char) : Nat → Nat → Bool → Except String Nat
  | 0, _, _ => throw "malformed pattern (missing ']')"
  | fuel + 1, i, isFirst => match p[i]? with
    | none => throw "malformed pattern (missing ']')"
    | some ']' => if isFirst then setEnd p fuel (i + 1) false else return i + 1
    | some '%' => setEnd p fuel (i + 2) false
    | some _ => setEnd p fuel (i + 1) false

/-- The end of the single item at `i`. -/
def itemEnd (p : Array Char) (i : Nat) : Except String Nat :=
  match p[i]? with
  | some '%' => if i + 1 < p.size then return i + 2 else throw "malformed pattern (ends with '%')"
  | some '[' =>
    let start := if p[i + 1]? = some '^' then i + 2 else i + 1
    setEnd p (p.size + 1) start true
  | _ => return i + 1

/-- Whether a character is in the set between two places. -/
def inSet (c : Char) (p : Array Char) (last : Nat) : Nat → Nat → Bool
  | 0, _ => false
  | fuel + 1, i =>
    if last ≤ i then false
    else match p[i]? with
      | some '%' => inClass c (p.getD (i + 1) '%') || inSet c p last fuel (i + 2)
      | some low =>
        if p[i + 1]? = some '-' ∧ i + 2 < last then
          (low ≤ c && c ≤ p.getD (i + 2) ' ') || inSet c p last fuel (i + 3)
        else c = low || inSet c p last fuel (i + 1)
      | none => false

/-- Whether the single item between two places takes the character at a place of the text. -/
def takes (s p : Array Char) (at_ i last : Nat) : Bool :=
  match s[at_]?, p[i]? with
  | some c, some '.' => c = c
  | some c, some '%' => inClass c (p.getD (i + 1) '%')
  | some c, some '[' =>
    if p[i + 1]? = some '^' then !inSet c p (last - 1) (p.size + 1) (i + 2) else inSet c p (last - 1) (p.size + 1) (i + 1)
  | some c, some d => c = d
  | _, _ => false

/-- The first success of several tries. -/
def firstOf (tryAt : Nat → Try) : List Nat → Try
  | [] => return none
  | n :: rest => do
    match ← tryAt n with
    | some r => return some r
    | none => firstOf tryAt rest

/-- How many characters from a place on an item takes, at most as many as there are. -/
def countTaken (s p : Array Char) (at_ i last : Nat) : Nat :=
  ((List.range (s.size - at_)).takeWhile fun n => takes s p (at_ + n) i last).length

/-- The end of a text that starts with one character and goes up to another that closes it. -/
def balancedEnd (s : Array Char) (first last : Char) : Nat → Nat → Nat → Option Nat
  | 0, _, _ => none
  | fuel + 1, i, depth => match s[i]? with
    | none => none
    | some c =>
      if c = last then (if depth = 1 then some (i + 1) else balancedEnd s first last fuel (i + 1) (depth - 1))
      else if c = first then balancedEnd s first last fuel (i + 1) (depth + 1)
      else balancedEnd s first last fuel (i + 1) depth

/-- Closes the innermost open capture. -/
def closeCapture (captures : Array Capture) (at_ : Nat) : Except String (Array Capture) :=
  match (List.range captures.size).reverse.find? fun i => captures[i]?.any fun
      | .open _ => true
      | _ => false with
  | some i => match captures[i]? with
    | some (.open start) => return captures.setIfInBounds i (.closed start (at_ - start))
    | _ => return captures
  | none => throw "invalid pattern capture"

/-- Tries the pattern from an item on at a place of the text. -/
def matchFrom (s p : Array Char) : Nat → Nat → Nat → Array Capture → Try
  | 0, _, _, _ => throw "pattern too complex"
  | fuel + 1, at_, i, captures => do
    match p[i]? with
    | none => return some (at_, captures)
    | some '(' =>
      if p[i + 1]? = some ')' then matchFrom s p fuel at_ (i + 2) (captures.push (.position at_))
      else matchFrom s p fuel at_ (i + 1) (captures.push (.open at_))
    | some ')' => matchFrom s p fuel at_ (i + 1) (← closeCapture captures at_)
    | some '$' =>
      if i + 1 = p.size then return (if at_ = s.size then some (at_, captures) else none)
      else single fuel at_ i captures
    | some '%' => match p[i + 1]? with
      | some 'b' => match p[i + 2]?, p[i + 3]? with
        | some first, some last =>
          if s[at_]? = some first then
            match balancedEnd s first last (s.size + 1) (at_ + 1) 1 with
            | some stop => matchFrom s p fuel stop (i + 4) captures
            | none => return none
          else return none
        | _, _ => throw "malformed pattern (missing arguments to '%b')"
      | some 'f' =>
        if p[i + 2]? = some '[' then
          let last ← itemEnd p (i + 2)
          let previous := if at_ = 0 then '\x00' else s.getD (at_ - 1) '\x00'
          let here := s.getD at_ '\x00'
          let inside := fun c => takes #[c] p 0 (i + 2) last
          if !inside previous && inside here then matchFrom s p fuel at_ last captures else return none
        else throw "missing '[' after '%f' in pattern"
      | some d =>
        if d.isDigit then
          match captures[d.toNat - 49]? with
          | some (.closed start length) =>
            if d ≠ '0' ∧ s.extract start (start + length) = s.extract at_ (at_ + length) ∧ at_ + length ≤ s.size then
              matchFrom s p fuel (at_ + length) (i + 2) captures
            else return none
          | _ => throw s!"invalid capture index %{d.toNat - 48}"
        else single fuel at_ i captures
      | none => single fuel at_ i captures
    | some _ => single fuel at_ i captures
where
  /-- Tries a single item with what says how often it may occur. -/
  single (fuel at_ i : Nat) (captures : Array Capture) : Try := do
    let last ← itemEnd p i
    let rest := fun n => matchFrom s p fuel (at_ + n) (last + 1) captures
    match p[last]? with
    | some '?' => firstOf rest (if takes s p at_ i last then [1, 0] else [0])
    | some '+' => firstOf rest ((List.range (countTaken s p at_ i last + 1)).reverse.filter (0 < ·))
    | some '*' => firstOf rest (List.range (countTaken s p at_ i last + 1)).reverse
    | some '-' => firstOf rest (List.range (countTaken s p at_ i last + 1))
    | _ => if takes s p at_ i last then matchFrom s p fuel (at_ + 1) last captures else return none

/-- The first match at or behind a place: its start, its end and what it kept. -/
def search (s p : Array Char) (start : Nat) : Except String (Option (Nat × Nat × Array Capture)) :=
  let anchored := p[0]? = some '^'
  let places := if anchored then [start] else (List.range (s.size + 1 - start)).map (start + ·)
  go (if anchored then 1 else 0) places
where
  /-- Tries places one after the other. -/
  go (first : Nat) : List Nat → Except String (Option (Nat × Nat × Array Capture))
    | [] => return none
    | at_ :: rest => do
      match ← matchFrom s p (p.size + 1) at_ first #[] with
      | some (stop, captures) => return some (at_, stop, captures)
      | none => go first rest

/-- Whether a text has a character that means something in patterns. -/
def hasSpecials (p : Array Char) : Bool := p.any ("^$*+?.([%-".contains ·)

/-- The first place at or behind a place where a text occurs as it is. -/
def findPlain (s p : Array Char) (start : Nat) : Option Nat :=
  ((List.range (s.size + 1 - start)).map (start + ·)).find? fun i => s.extract i (i + p.size) = p

end PluginHost.Lua.Pattern
