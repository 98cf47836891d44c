import TestScout.Syntax.Heads

/-!
From the pieces between two brackets to syntax trees. Operands grow to the right: a name followed by
arguments is a call, a call followed by a point and a name is a member of what it returns. Operands
with operators between them make one phrase; a comma, a semicolon, or an operand that follows
another without an operator begins the next. A phrase that is more than one bare operand becomes an
operation, so an operand that stands alone in its phrase can be told from one that is only part of
it.
-/

namespace TestScout.Syntax

structure Manner where
  typed : Bool
  statements : Bool

structure OpenArrow where
  start : Nat
  head : List Node
  nodes : List Node
  joined : Bool

/-- What has been read so far: finished phrases and the nodes of the current one, the last first.
The phrase is `joined` once it has an operator, and `bound` while its last piece ended an operand;
`news` counts constructions that still lack their arguments. -/
structure Reading where
  done : List Node
  nodes : List Node
  joined : Bool
  bound : Bool
  news : Nat
  arrows : List OpenArrow

namespace Reading

def start : Reading := ⟨[], [], false, false, 0, []⟩

/-- The nodes of a phrase in order, made one node but for the comments around it. -/
def phrase (m : Manner) (joined : Bool) (nodes : List Node) : List Node :=
  let leading := nodes.takeWhile (·.extra)
  let rest := (nodes.dropWhile (·.extra)).reverse
  let trailing := (rest.takeWhile (·.extra)).reverse
  let core := (rest.dropWhile (·.extra)).reverse
  match core.head?, core.getLast? with
  | some first, some last =>
    let whole := if core.length = 1 && !joined then first
      else .of .operation first.span.start last.span.stop core
    let whole := if m.statements && whole.kind ≠ .block && whole.kind ≠ .declaration then
        .of .statement whole.span.start whole.span.stop [whole]
      else whole
    leading ++ whole :: trailing
  | _, _ => nodes

/-- Ends the bodies of all open arrow functions; what is left are the nodes of the outermost phrase
and whether it is joined. -/
def closeArrows (m : Manner) (nodes : List Node) (joined : Bool) :
    List OpenArrow → List Node × Bool
  | [] => (nodes, joined)
  | a :: arrows =>
    let parts := a.head ++ phrase { m with statements := false } joined nodes.reverse
    let stop := (parts.getLast?.map fun n => n.span.stop).getD a.start
    closeArrows m (.of .arrow a.start stop parts :: a.nodes) a.joined arrows

def close (m : Manner) (r : Reading) : Reading :=
  let (nodes, joined) := closeArrows m r.nodes r.joined r.arrows
  { start with done := (phrase m joined nodes.reverse).reverse ++ r.done }

/-- Makes room for something that begins with an operand. -/
def part (m : Manner) (r : Reading) : Reading := if r.bound then r.close m else r

def remark (r : Reading) (comments : List Node) : Reading :=
  { r with nodes := comments.reverse ++ r.nodes }

def operand (m : Manner) (r : Reading) (before : List Node) (n : Node) : Reading :=
  let r := (r.part m).remark before
  { r with nodes := n :: r.nodes, bound := true }

def joint (r : Reading) (before : List Node) : Reading :=
  { r.remark before with joined := true, bound := false, news := 0 }

/-- Replaces the last operand by one that it is the beginning of. -/
def extend (r : Reading) (stop : Nat) (kind : Kind) (role : Role) (more : List Node) : Reading :=
  match r.nodes with
  | n :: nodes =>
    { r with nodes := .of kind n.span.start stop (n.withRole role :: more) :: nodes }
  | [] => r

/-- Calls the last operand, or completes the construction that it belongs to. -/
def call (r : Reading) (before : List Node) (arguments : Node) : Reading :=
  let more := before ++ [arguments.withRole .arguments]
  if r.news = 0 then r.extend arguments.span.stop .call .callee more
  else { r.extend arguments.span.stop .construction .callee more with news := r.news - 1 }

/-- Calls the last operand with a piece, if that can be. -/
def callWith? (r : Reading) (before : List Node) (p : Piece) : Option Reading :=
  match p.shape with
  | .group .paren children =>
    some (r.call (before ++ p.before) (.of .arguments p.span.start p.span.stop children))
  | .operand n => if n.kind = .template then some (r.call (before ++ p.before) n) else none
  | _ => none

/-- Goes on with an arrow function whose head has been read, and says what follows. -/
def arrow (m : Manner) (r : Reading) (start : Nat) (before head : List Node)
    (rest : List Piece) : Reading × List Piece :=
  match takeBlock rest with
  | ([], _) =>
    let r := (r.part m).remark before
    ({ Reading.start with
      done := r.done
      arrows := ⟨start, head, r.nodes, r.joined⟩ :: r.arrows }, rest)
  | (body, rest) =>
    let stop := (body.getLast?.map fun n => n.span.stop).getD start
    (r.operand m before (.of .arrow start stop (head ++ body)), rest)

/-- Reads a word, and says what follows what has been read. -/
def word (m : Manner) (r : Reading) (p : Piece) (name : String) (rest : List Piece) :
    Reading × List Piece :=
  let declaration := m.statements && r.arrows.isEmpty && (r.bound || (!r.joined && r.nodes.isEmpty))
  let function? (pieces : List Piece) : Option (Reading × List Piece) :=
    if pieces.head?.any (·.isWord "function") then
      (takeFunction? m.typed declaration p.span.start pieces).map fun (n, more) =>
        (r.operand m p.before n, more)
    else none
  let arrow? (pieces : List Piece) : Option (Reading × List Piece) :=
    (takeArrow? m.typed pieces).map fun (head, more) =>
      r.arrow m p.span.start p.before head more
  let async? : Option (Reading × List Piece) :=
    if name = "async" && rest.head?.any (!·.fresh) then function? rest <|> arrow? rest else none
  let known := leadingWords.contains name
  match function? (p :: rest) <|> async? <|> (if known then none else arrow? (p :: rest)) with
  | some found => found
  | none =>
    if r.bound && infixWords.contains name then (r.joint p.before, rest)
    else if name = "new" && !rest.head?.any (·.isMark ".") then
      let r := r.part m
      ({ r.joint p.before with news := r.news + 1 }, rest)
    else if known || name = "function" then ((r.part m).joint p.before, rest)
    else (r.operand m p.before (wordNode name p.span), rest)

/-- Reads a point or a question mark with a point, and says what follows what has been read. -/
def link (r : Reading) (p : Piece) (rest : List Piece) (typed optional : Bool) :
    Reading × List Piece :=
  let mark := if optional then [Node.of .optionalChain p.span.start p.span.stop []] else []
  let (types, after) := if optional then takeTypes typed rest else ([], rest)
  match after with
  | q :: more =>
    match q.shape with
    | .word _ =>
      let name := Node.of .property q.span.start q.span.stop []
      (r.extend q.span.stop .member .other (p.before ++ mark ++ q.before ++ [name]), more)
    | .group .square children =>
      if optional then
        (r.extend q.span.stop .element .other (p.before ++ mark ++ q.before ++ children), more)
      else (r.joint p.before, rest)
    | _ =>
      match if optional then r.callWith? (p.before ++ mark ++ types) q else none with
      | some r => (r, more)
      | none => (r.joint p.before, rest)
  | [] => (r.joint p.before, rest)

def mark (m : Manner) (r : Reading) (p : Piece) (text : String) (rest : List Piece) :
    Reading × List Piece :=
  if text = "," then ((r.remark p.before).close m, rest)
  else if text = ";" then
    let empty := r.arrows.isEmpty && !r.joined && r.nodes.all (·.extra)
    let r := (r.remark p.before).close m
    if m.statements && empty then
      ({ r with done := .of .emptyStatement p.span.start p.span.stop [] :: r.done }, rest)
    else (r, rest)
  else if r.bound then
    if text = "." || text = "?." then r.link p rest m.typed (text = "?.")
    else if text = "!" && m.typed && !p.fresh then
      (r.extend p.span.stop .assertion .other p.before, rest)
    else if (text = "++" || text = "--") && !p.fresh then
      (r.extend p.span.stop .operation .other p.before, rest)
    else
      let (types, after) := takeTypes m.typed (p :: rest)
      match types, after with
      | _ :: _, q :: more =>
        match r.callWith? types q with
        | some r => (r, more)
        | none => (r.joint p.before, rest)
      | _, _ => (r.joint p.before, rest)
  else if text = "<" then
    match takeArrow? m.typed (p.bare :: rest) with
    | some (head, more) => r.arrow m p.span.start p.before head more
    | none => (r.joint p.before, rest)
  else (r.joint p.before, rest)

def group (m : Manner) (r : Reading) (p : Piece) (bracket : Bracket) (children : List Node)
    (rest : List Piece) : Reading × List Piece :=
  let whole := r.operand m p.before (groupNode bracket p.span children)
  match bracket, r.bound with
  | .paren, true => ((r.callWith? [] p).getD r, rest)
  | .paren, false =>
    match takeArrow? m.typed (p.bare :: rest) with
    | some (head, more) => r.arrow m p.span.start p.before head more
    | none => (whole, rest)
  | .square, true => (r.extend p.span.stop .element .other (p.before ++ children), rest)
  | _, _ => (whole, rest)

/-- Reads one piece, and says what follows what has been read. -/
def step (m : Manner) (r : Reading) (p : Piece) (rest : List Piece) : Reading × List Piece :=
  match p.shape with
  | .word name => r.word m p name rest
  | .mark text => r.mark m p text rest
  | .operand n =>
    match if r.bound then r.callWith? [] p else none with
    | some r => (r, rest)
    | none => (r.operand m p.before n, rest)
  | .group bracket children => r.group m p bracket children rest

/-- Reads all pieces. What follows a step is never more than what followed its piece. -/
def run (m : Manner) (r : Reading) : List Piece → Reading
  | [] => r
  | p :: rest =>
    let (r, more) := r.step m p rest
    run m r (rest.drop (rest.length - more.length))
termination_by pieces => pieces.length
decreasing_by
  rw [List.length_drop, List.length_cons]
  omega

end Reading

/-- The nodes of the pieces between two brackets, with the comments before the closing one. -/
def nodesOf (m : Manner) (pieces : List Piece) (trailing : List Node) : List Node :=
  (((Reading.start.run m pieces).remark trailing).close m).done.reverse

end TestScout.Syntax
