import TestScout.Syntax.Piece

/-!
How far the parts of a function's head reach: types, lists of types in angle brackets, and what
stands before an arrow or a body. Types are looked through rather than read: all that counts is
where they end.
-/

namespace TestScout.Syntax

/-- Words of a type that stand before another type. -/
def typeLeads : List String :=
  ["keyof", "typeof", "unique", "readonly", "infer", "asserts", "abstract", "new"]

/-- How many pieces belong to a type, `depth` angle brackets deep. A type is `wanted` after an
operator; `paren` if the last piece was a group in parentheses, after which an arrow goes on with a
type of functions. With `list`, the end is the bracket that closes the outermost one. -/
def typeRest? (functions list : Bool) (depth : Nat) (wanted paren : Bool) :
    List Piece → Option Nat
  | [] => if wanted || depth ≠ 0 then none else some 0
  | p :: ps =>
    let stop := if wanted || depth ≠ 0 then none else some 0
    match p.shape with
    | .mark text =>
      if text = ">" && depth ≠ 0 then
        if depth = 1 && list then some 1
        else (typeRest? functions list (depth - 1) false false ps).map (· + 1)
      else if wanted then
        if text = "|" || text = "&" || text = "-" || text = "..." then
          (typeRest? functions list depth true false ps).map (· + 1)
        else none
      else if text = "<" then (typeRest? functions list (depth + 1) true false ps).map (· + 1)
      else if text = "=>" then
        if paren && (functions || depth ≠ 0) then
          (typeRest? functions list depth true false ps).map (· + 1)
        else stop
      else if text = "." || text = "|" || text = "&" ||
          (depth ≠ 0 && (text = "," || text = "=" || text = "?" || text = ":")) then
        (typeRest? functions list depth true false ps).map (· + 1)
      else stop
    | .word name =>
      if wanted then
        (typeRest? functions list depth (typeLeads.contains name) false ps).map (· + 1)
      else if name = "extends" || name = "is" then
        (typeRest? functions list depth true false ps).map (· + 1)
      else stop
    | .operand _ =>
      if wanted then (typeRest? functions list depth false false ps).map (· + 1) else stop
    | .group bracket _ =>
      if wanted || bracket = .square then
        (typeRest? functions list depth false (bracket = .paren) ps).map (· + 1)
      else stop

/-- How many pieces after an opening angle bracket belong to its list of types. -/
def anglesRest? (pieces : List Piece) : Option Nat := typeRest? false true 1 true false pieces

/-- A node for pieces that have only been looked through, after the comments before them. -/
def looked (kind : Kind) (pieces : List Piece) : List Node :=
  match pieces, pieces.getLast? with
  | p :: rest, some last =>
    p.before ++ [.of kind p.span.start last.span.stop (p.inner ++ rest.flatMap Piece.nodes)]
  | _, _ => []

/-- A list of types at the front, if there is one, and what follows. -/
def takeTypes (typed : Bool) (pieces : List Piece) : List Node × List Piece :=
  match pieces with
  | p :: rest =>
    if typed && p.isMark "<" then
      match anglesRest? rest with
      | some n => (looked .typeArguments (p :: rest.take n), rest.drop n)
      | none => ([], pieces)
    else ([], pieces)
  | [] => ([], [])

/-- The parameters in parentheses at the front, and what follows. -/
def takeParameters? (pieces : List Piece) : Option (List Node × List Piece) :=
  match pieces with
  | p :: rest =>
    match p.shape with
    | .group .paren children =>
      some (p.before ++ [.of .parameters p.span.start p.span.stop children], rest)
    | _ => none
  | [] => none

/-- The type of what a function returns, if it is written, and what follows. -/
def takeResult (typed functions : Bool) (pieces : List Piece) : List Node × List Piece :=
  match pieces with
  | p :: rest =>
    if typed && p.isMark ":" then
      match typeRest? functions false 0 true false rest with
      | some n => (looked .resultType (p :: rest.take n), rest.drop n)
      | none => ([], pieces)
    else ([], pieces)
  | [] => ([], [])

/-- The head of an arrow function at the front, and what follows its arrow. -/
def takeArrow? (typed : Bool) (pieces : List Piece) : Option (List Node × List Piece) :=
  match pieces with
  | p :: rest =>
    match p.shape with
    | .word name => (afterArrow? rest).map fun r => ([wordNode name p.span], r)
    | _ => do
      let (types, r) := takeTypes typed pieces
      let (parameters, r) ← takeParameters? r
      let finish (functions : Bool) : Option (List Node × List Piece) :=
        let (result, r) := takeResult typed functions r
        (afterArrow? r).map fun r => (types ++ parameters ++ result, r)
      finish true <|> finish false
  | [] => none
where
  afterArrow? : List Piece → Option (List Piece)
    | p :: rest => if p.isMark "=>" then some rest else none
    | [] => none

/-- The block at the front, if there is one, and what follows. -/
def takeBlock (pieces : List Piece) : List Node × List Piece :=
  match pieces with
  | p :: rest =>
    match p.shape with
    | .group .block children => (p.before ++ [groupNode .block p.span children], rest)
    | _ => ([], pieces)
  | [] => ([], [])

/-- A function written with its keyword, which is the first piece, and what follows. It is a
`declaration` where its name counts for the statements around it. -/
def takeFunction? (typed declaration : Bool) (start : Nat) (pieces : List Piece) :
    Option (Node × List Piece) := do
  let rest := pieces.tail
  let star := rest.head?.any (·.isMark "*")
  let rest := if star then rest.tail else rest
  let (name, rest) := match rest with
    | p :: r =>
      match p.shape with
      | .word w => (p.before ++ [wordNode w p.span], r)
      | _ => ([], rest)
    | [] => ([], [])
  let (types, rest) := takeTypes typed rest
  let (parameters, rest) ← takeParameters? rest
  let (result, rest) := takeResult typed true rest
  let (body, rest) := takeBlock rest
  let parts := name ++ types ++ parameters ++ result ++ body
  let kind : Kind := if declaration && !name.isEmpty then .declaration
    else if star then .generator
    else .function
  let stop := (parts.getLast?.map fun n => n.span.stop).getD start
  return (.of kind start stop parts, rest)

end TestScout.Syntax
