import PluginHost.Script.PythonClass

/-!
# Arguments of Python calls

How the arguments of a call are given to the parameters of a function, and the exceptions for calls that do not fit. Names come
first: an unknown one or one that is given twice is reported before there are too many or too few arguments.
-/

namespace PluginHost.Python

open Run

/-- What a function takes. -/
structure Signature where
  /-- The function, as reports name it. -/
  name : String
  /-- The parameters that can be given by place; the first of them by place only. -/
  params : List String
  positionalOnly : Nat := 0
  /-- The defaults of the last of them. -/
  defaults : List Value := []
  rest : Option String := none
  keywordOnly : List String := []
  keywordDefaults : List (String × Value) := []
  restKeywords : Option String := none

/-- Names in quotes, as a sentence lists them. -/
def nameList (names : List String) : String :=
  match (names.map fun n => "'" ++ n ++ "'").reverse with
  | [] => ""
  | [a] => a
  | [b, a] => a ++ " and " ++ b
  | last :: others => String.intercalate ", " others.reverse ++ ", and " ++ last

/-- Raises the exception for parameters without arguments. -/
def missingArguments {α : Type} (name kind : String) (missing : List String) : Run α :=
  typeError (name ++ "() missing " ++ toString missing.length ++ " required " ++ kind ++ " argument"
    ++ (if missing.length = 1 then "" else "s") ++ ": " ++ nameList missing)

/-- Raises the exception for too many arguments. -/
def tooManyArguments {α : Type} (s : Signature) (given keywords : Nat) : Run α :=
  let most := s.params.length
  let least := most - s.defaults.length
  let isPlural := if s.defaults.isEmpty then most ≠ 1 else true
  let takes := if s.defaults.isEmpty then toString most else "from " ++ toString least ++ " to " ++ toString most
  let extra := if keywords = 0 then ""
    else " positional argument" ++ (if given = 1 then "" else "s") ++ " (and " ++ toString keywords ++ " keyword-only argument"
      ++ (if keywords = 1 then "" else "s") ++ ")"
  typeError (s.name ++ "() takes " ++ takes ++ " positional argument" ++ (if isPlural then "s" else "") ++ " but "
    ++ toString given ++ extra ++ (if given = 1 ∧ keywords = 0 then " was" else " were") ++ " given")

/-- Gives named arguments to parameters. What no parameter takes is left over for the one that takes all. -/
def takeKeywords (s : Signature) (bound : List (String × Value)) :
    List (String × Value) → List (String × Value) → Run (List (String × Value) × List (String × Value))
  | [], others => return (bound, others)
  | (n, v) :: rest, others => do
    if (s.params.drop s.positionalOnly).contains n ∨ s.keywordOnly.contains n then
      if bound.any (·.1 = n) then typeError (s.name ++ "() got multiple values for argument '" ++ n ++ "'")
      else takeKeywords s (bound ++ [(n, v)]) rest others
    else if s.restKeywords.isSome then takeKeywords s bound rest (others ++ [(n, v)])
    else
      let misplaced := ((n, v) :: rest).filter fun a => (s.params.take s.positionalOnly).contains a.1
      if misplaced.isEmpty then typeError (s.name ++ "() got an unexpected keyword argument '" ++ n ++ "'")
      else
        typeError (s.name ++ "() got some positional-only arguments passed as keyword arguments: '"
          ++ String.intercalate ", " (misplaced.map (·.1)) ++ "'")

/-- The values of the parameters of a function in a call. -/
def bindArguments (s : Signature) (args : List Value) (kw : List (String × Value)) : Run (List (String × Value)) := do
  let placed := s.params.zip args
  let (bound, others) ← takeKeywords s placed kw []
  if args.length > s.params.length ∧ s.rest.isNone then
    tooManyArguments s args.length (bound.filter fun a => s.keywordOnly.contains a.1).length
  else
    let required := s.params.take (s.params.length - s.defaults.length)
    match required.filter fun p => !bound.any (·.1 = p) with
    | [] =>
      let optional := (s.params.drop required.length).zip s.defaults
      let bound := bound ++ optional.filter fun p => !bound.any (·.1 = p.1)
      let bound := bound ++ s.keywordDefaults.filter fun p => !bound.any (·.1 = p.1)
      match s.keywordOnly.filter fun p => !bound.any (·.1 = p) with
      | [] =>
        let rest := match s.rest with
          | some r => [(r, .tuple (args.drop s.params.length))]
          | none => []
        let restKeywords ← match s.restKeywords with
          | some r => pure [(r, ← dictOf others)]
          | none => pure []
        return bound ++ rest ++ restKeywords
      | missing => missingArguments s.name "keyword-only" missing
    | missing => missingArguments s.name "positional" missing

end PluginHost.Python
