import TestScout.Literal
import TestScout.Syntax.Language
import TestScout.Syntax.Lexeme
import TestScout.Syntax.Phrase

/-!
One pass over a source text that finds its pieces and nests its brackets. What a character begins
depends on what stands before it: a slash after an operand divides, elsewhere it begins a regular
expression; an angle bracket after an operand compares, elsewhere it may open markup. The scan
remembers that much of what it has just read (`Standing`) and keeps the open brackets, templates and
markup elements on a stack. When a bracket closes, its contents are read at once, so the scan never
comes back to them.
-/

namespace TestScout.Syntax

inductive Standing where
  /-- Nothing: a statement begins. -/
  | start
  /-- Something that has a value. -/
  | operand
  /-- An operator, which needs an operand. -/
  | operator
  /-- The arrow of a function, whose body may be a block. -/
  | arrow
  /-- A keyword with a condition in parentheses. -/
  | condition
  /-- A point, after which any word is a name. -/
  | dot
  /-- Something that an operand or a block may follow. -/
  | either
  deriving DecidableEq, Repr, Inhabited

def Standing.wantsOperand : Standing → Bool
  | .operand | .dot => false
  | _ => true

/-- Whether a brace holds statements. -/
def Standing.opensBlock : Standing → Bool
  | .operator => false
  | _ => true

inductive Region where
  | bracket (kind : Bracket)
  /-- An expression in a template. -/
  | substitution
  /-- An expression in markup. -/
  | container
  | template
  /-- The opening tag of an element, `depth` angle brackets deep; `valued` after an equals sign. -/
  | tag (depth : Nat) (valued : Bool)
  /-- What stands between the tags of an element. -/
  | body
  deriving DecidableEq, Repr, Inhabited

namespace Region

/-- Whether a closing brace ends it. -/
def closedByBrace : Region → Bool
  | bracket .block | bracket .object | substitution | container => true
  | _ => false

/-- Whether it ends with the given bracket, which is not a brace. -/
def closedBy (kind : Bracket) : Region → Bool
  | bracket k => k = kind
  | _ => false

end Region

/-- An open region: where it begins, its pieces so far, the last first, with the comments and the
new line before it; how many question marks in it wait for a colon; what stands before what follows
it. -/
structure Frame where
  region : Region
  start : Nat
  pieces : List Piece
  before : List Node
  fresh : Bool
  pending : Nat
  after : Standing

/-- Where a scan stands: the byte offset, what has been read just before, comments and a new line
that belong to the next piece, and the open regions, innermost first. -/
structure Scan where
  offset : Nat
  standing : Standing
  comments : List Node
  fresh : Bool
  top : Frame
  outer : List Frame

namespace Scan

def start : Scan where
  offset := 0
  standing := .start
  comments := []
  fresh := true
  top := ⟨.bracket .block, 0, [], [], true, 0, .start⟩
  outer := []

/-- Adds a piece and says what stands before the next one. -/
def push (s : Scan) (shape : Shape) (stop : Nat) (standing : Standing) : Scan :=
  let piece : Piece := ⟨shape, ⟨s.offset, stop⟩, s.comments.reverse, s.fresh⟩
  { s with
    standing := standing
    comments := []
    fresh := false
    top := { s.top with pieces := piece :: s.top.pieces } }

def operand (s : Scan) (kind : Kind) (stop : Nat) (children : List Node) : Scan :=
  s.push (.operand (.of kind s.offset stop children)) stop .operand

def enter (s : Scan) (region : Region) (standing after : Standing) : Scan where
  offset := s.offset
  standing := standing
  comments := []
  fresh := false
  top := ⟨region, s.offset, [], s.comments.reverse, s.fresh, 0, after⟩
  outer := s.top :: s.outer

/-- What the pieces of a region make up. -/
def shapeOf (typed : Bool) (f : Frame) (stop : Nat) (trailing : List Node) : Shape :=
  let read (statements : Bool) := nodesOf ⟨typed, statements⟩ f.pieces.reverse trailing
  let parts := f.pieces.reverse.flatMap Piece.nodes ++ trailing
  match f.region with
  | .bracket kind => .group kind (read (kind = .block))
  | .substitution => .operand (.of .substitution f.start stop (read false))
  | .container => .operand (.of .container f.start stop (read false))
  | .template => .operand (.of .template f.start stop parts)
  | .tag _ _ | .body => .operand (.of .markup f.start stop parts)

/-- Closes the innermost region at `stop`. -/
def leave (typed : Bool) (s : Scan) (stop : Nat) : Scan :=
  match s.outer with
  | [] => s
  | below :: outer =>
    let piece : Piece :=
      ⟨shapeOf typed s.top stop s.comments.reverse, ⟨s.top.start, stop⟩, s.top.before, s.top.fresh⟩
    { s with
      standing := s.top.after
      comments := []
      fresh := false
      top := { below with pieces := piece :: below.pieces }
      outer := outer }

/-- Closes `n` regions, all but the last where the closing bracket of that one begins. -/
def leaveMany (typed : Bool) (s : Scan) (stop : Nat) : Nat → Scan
  | 0 => s
  | 1 => s.leave typed stop
  | n + 1 => (s.leave typed s.offset).leaveMany typed stop n

/-- The open regions that a bracket could close. -/
def regions (s : Scan) : List Region := (s.top :: s.outer).dropLast.map (·.region)

/-- Reads a closing bracket: closes what it ends, or takes it as a mark if nothing does. -/
def closing (typed : Bool) (s : Scan) (c : Char) (stop : Nat) : Scan :=
  let kind : Bracket := if c = ')' then .paren else .square
  let depth? := if c = '}' then s.regions.findIdx? Region.closedByBrace
    else
      ((s.regions.takeWhile fun r => !r.closedByBrace).findIdx? (Region.closedBy kind))
  match depth? with
  | some n => s.leaveMany typed stop (n + 1)
  | none => s.push (.mark c.toString) stop (if c = '}' then .start else .operand)

def afterWord (standing : Standing) (name : String) : Standing :=
  if standing = .dot then .operand
  else if ["if", "for", "while", "with", "switch", "catch"].contains name then .condition
  else if name = "await" && standing = .condition then .condition
  else if ["do", "else", "try", "finally"].contains name then .start
  else if ["void", "class"].contains name then .either
  else if standing = .operand && ["of", "as", "satisfies"].contains name then .operator
  else if leadingWords.contains name || name = "instanceof" then .operator
  else .operand

def mark (s : Scan) (text : String) (stop : Nat) : Scan :=
  let pending := s.top.pending
  let inBlock := match s.top.region with
    | .bracket .block => true
    | _ => false
  let (standing, pending) : Standing × Nat :=
    if text = ";" then (.start, 0)
    else if text = "?" then (.operator, pending + 1)
    else if text = ":" then (if inBlock && pending = 0 then .start else .operator, pending - 1)
    else if text = "=>" then (.arrow, pending)
    else if text = "." || text = "?." then (.dot, pending)
    else if text = ">" then (.either, pending)
    else if (text = "++" || text = "--" || text = "!") && s.standing = .operand then
      (.operand, pending)
    else (.operator, pending)
  let s := s.push (.mark text) stop standing
  { s with top := { s.top with pending := pending } }

def openBrace (s : Scan) : Scan :=
  if s.standing.opensBlock then
    s.enter (.bracket .block) .start (if s.standing = .arrow then .operand else .start)
  else s.enter (.bracket .object) .operator .operand

/-- Reads a comment of `n` characters. -/
def comment (s : Scan) (text : List Char) (stop : Nat) : Scan :=
  { s with
    comments := .comment s.offset stop :: s.comments
    fresh := s.fresh || text.any Lexeme.isLineBreak }

/-- Whether the characters after an opening angle bracket open an element. A name in brackets may
also be a parameter that stands for a type, unless the text closes an element of that name. -/
def opensMarkup (cs : List Char) : Bool :=
  let cs := cs.dropWhile Lexeme.isBlank
  match cs with
  | '>' :: _ => true
  | c :: _ =>
    if Lexeme.startsWord c then
      let name := cs.takeWhile fun c => Lexeme.isWordChar c || c = '.' || c = '-' || c = ':'
      let rest := (cs.drop name.length).dropWhile Lexeme.isBlank
      if rest.head? = some ',' || "extends ".toList.isPrefixOf rest then false
      else if rest.head? = some '>' then closes name rest
      else true
    else false
  | [] => false
where
  /-- Whether an element of a name is closed somewhere. -/
  closes (name : List Char) : List Char → Bool
    | [] => false
    | c :: cs =>
      (c = '<' && (match cs.dropWhile Lexeme.isBlank with
        | '/' :: r => name.isPrefixOf (r.dropWhile Lexeme.isBlank)
        | _ => false)) || closes name cs

/-- The fragments and escapes in the body of a literal that begins at `start`. -/
def literalParts (start : Nat) (cs : List Char) : List Node :=
  go start none cs
where
  /-- The rest of the parts; a fragment has begun where `open?` says. -/
  go (at_ : Nat) (open? : Option Nat) (cs : List Char) : List Node :=
    match cs with
    | [] => fragment open? at_
    | '\\' :: c :: rest =>
      let n := (Literal.escape c rest).2
      let stop := at_ + 1 + c.utf8Size + Text.byteCount (rest.take n)
      fragment open? at_ ++ .of .escape at_ stop [] :: go stop none (rest.drop n)
    | c :: rest => go (at_ + c.utf8Size) (some (open?.getD at_)) rest
  termination_by cs.length
  decreasing_by all_goals simp_wf <;> omega
  /-- The fragment up to `stop`, if one has begun. -/
  fragment (open? : Option Nat) (stop : Nat) : List Node :=
    match open? with
    | some start => [.of .fragment start stop []]
    | none => []

/-- Whether a comment begins that would hide a script in a page. -/
def pageComment (c : Char) (rest : List Char) : Bool :=
  (c = '<' && ['!', '-', '-'].isPrefixOf rest) || (c = '-' && ['-', '>'].isPrefixOf rest)

/-- Reads what stands in brackets and outside of them, from a character on; the answer says how many
more characters have been read. -/
def code (lang : Language) (s : Scan) (c : Char) (rest : List Char) : Scan × Nat :=
  let stop (n : Nat) : Nat := s.offset + c.utf8Size + Text.byteCount (rest.take n)
  if Lexeme.isBlank c then ({ s with fresh := s.fresh || Lexeme.isLineBreak c }, 0)
  else if c = '#' && s.offset = 0 && rest.head? = some '!' then
    let n := Lexeme.lineRest rest
    (s.comment [] (stop n), n)
  else if (c = '/' && rest.head? = some '/') || (s.standing.wantsOperand && pageComment c rest) then
    let n := Lexeme.lineRest rest
    (s.comment [] (stop n), n)
  else if c = '/' && rest.head? = some '*' then
    let n := 1 + Lexeme.blockRest rest.tail
    (s.comment (rest.take n) (stop n), n)
  else if Lexeme.startsWord c || c = '\\' ||
      (c = '#' && rest.head?.any Lexeme.startsWord) then
    let n := Lexeme.wordRest rest
    let name := String.ofList (c :: rest.take n)
    (s.push (.word name) (stop n) (afterWord s.standing name), n)
  else if Text.isDigit c || (c = '.' && rest.head?.any Text.isDigit) then
    let n := Lexeme.numberRest c rest
    (s.operand .number (stop n) [], n)
  else if c = '(' || c = '[' then
    let kind : Bracket := if c = '(' then .paren else .square
    let condition := c = '(' && s.standing = .condition
    (s.enter (.bracket kind) .operator (if condition then .start else .operand), 0)
  else if c = '{' then (s.openBrace, 0)
  else if c = '}' || c = ')' || c = ']' then (s.closing lang.typed c (stop 0), 0)
  else if c = '\x60' then (s.enter .template .operator .operand, 0)
  else if c = '<' && lang.markup && s.standing.wantsOperand && opensMarkup rest then
    (s.enter (.tag 0 false) .operator .operand, 0)
  else
    let literal? : Option (Kind × Nat) :=
      if c = '"' || c = '\'' then (Lexeme.stringRest? c rest).map ((Kind.string, ·))
      else if c = '/' && s.standing.wantsOperand then
        (Lexeme.regexRest? rest).map ((Kind.regex, ·))
      else none
    match literal? with
    | some (.string, n) =>
      (s.operand .string (stop n) (literalParts (s.offset + 1) (rest.take (n - 1))), n)
    | some (kind, n) => (s.operand kind (stop n) [], n)
    | none =>
      let n := Lexeme.markRest c rest
      (s.mark (String.ofList (c :: rest.take n)) (stop n), n)

/-- Reads what stands in a template. -/
def template (lang : Language) (s : Scan) (c : Char) (rest : List Char) : Scan × Nat :=
  let stop (n : Nat) : Nat := s.offset + c.utf8Size + Text.byteCount (rest.take n)
  match c, rest with
  | '\x60', _ => (s.leave lang.typed (stop 0), 0)
  | '$', '{' :: _ => (s.enter .substitution .operator .operator, 1)
  | '\\', e :: more =>
    let n := 1 + (Literal.escape e more).2
    (s.operand .escape (stop n) [], n)
  | _, _ =>
    let n := fragmentRest rest
    (s.operand .fragment (stop n) [], n)
where
  /-- The rest of a stretch without escapes and substitutions. -/
  fragmentRest : List Char → Nat
    | [] => 0
    | c :: cs =>
      if c = '\x60' || c = '\\' || (c = '$' && cs.head? = some '{') then 0
      else 1 + fragmentRest cs

/-- Reads what stands in an opening tag. -/
def tag (lang : Language) (s : Scan) (depth : Nat) (valued : Bool) (c : Char) (rest : List Char) :
    Scan × Nat :=
  let stop (n : Nat) : Nat := s.offset + c.utf8Size + Text.byteCount (rest.take n)
  let become (region : Region) : Scan := { s with top := { s.top with region := region } }
  if Lexeme.isBlank c then (s, 0)
  else if c = '>' then (become (if depth = 0 then .body else .tag (depth - 1) false), 0)
  else if c = '<' then
    if valued then ((become (.tag depth false)).enter (.tag 0 false) .operator .operand, 0)
    else (become (.tag (depth + 1) false), 0)
  else if c = '/' && rest.head? = some '>' then (s.leave lang.typed (stop 1), 1)
  else if c = '/' && rest.head? = some '/' then
    let n := Lexeme.lineRest rest
    (s.comment [] (stop n), n)
  else if c = '/' && rest.head? = some '*' then
    let n := 1 + Lexeme.blockRest rest.tail
    (s.comment (rest.take n) (stop n), n)
  else if c = '{' then ((become (.tag depth false)).enter .container .operator .operand, 0)
  else if c = '"' || c = '\'' then
    let n := (rest.takeWhile (· ≠ c)).length
    if n < rest.length then ((become (.tag depth false)).operand .string (stop (n + 1)) [], n + 1)
    else (s, 0)
  else (become (.tag depth (c = '=')), 0)

/-- Reads what stands between the tags of an element. -/
def body (lang : Language) (s : Scan) (c : Char) (rest : List Char) : Scan × Nat :=
  let stop (n : Nat) : Nat := s.offset + c.utf8Size + Text.byteCount (rest.take n)
  if c = '{' then (s.enter .container .operator .operand, 0)
  else if c = '<' then
    if (rest.dropWhile Lexeme.isBlank).head? = some '/' then
      let n := (rest.takeWhile (· ≠ '>')).length + 1
      (s.leave lang.typed (stop n), n)
    else (s.enter (.tag 0 false) .operator .operand, 0)
  else (s, 0)

/-- Reads from a character on, and says how many more characters have been read. -/
def step (lang : Language) (s : Scan) (c : Char) (rest : List Char) : Scan × Nat :=
  match s.top.region with
  | .template => s.template lang c rest
  | .tag depth valued => s.tag lang depth valued c rest
  | .body => s.body lang c rest
  | _ => s.code lang c rest

def run (lang : Language) (s : Scan) : List Char → Scan
  | [] => s
  | c :: rest =>
    let (next, n) := s.step lang c rest
    run lang { next with offset := s.offset + c.utf8Size + Text.byteCount (rest.take n) }
      (rest.drop n)
termination_by cs => cs.length
decreasing_by
  rw [List.length_drop, List.length_cons]
  omega

/-- The tree of what has been read, with everything closed that is still open. It begins with the
first thing that is not blank, or at the end if there is none. -/
def tree (lang : Language) (s : Scan) : Node :=
  let s := s.leaveMany lang.typed s.offset s.outer.length
  let first := match s.top.pieces.getLast? with
    | some p => (p.before.head?.map fun n => n.span.start).getD p.span.start
    | none => (s.comments.getLast?.map fun n => n.span.start).getD s.offset
  .of .program first s.offset (nodesOf ⟨lang.typed, true⟩ s.top.pieces.reverse s.comments.reverse)

end Scan

def parse (lang : Language) (text : String) : Node :=
  (Scan.start.run lang text.toList).tree lang

end TestScout.Syntax
