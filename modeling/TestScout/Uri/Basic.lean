import TestScout.Path
import TestScout.Uri.Host
import TestScout.Text.Numeral

/-!
Identifiers of resources. They are read generously: blanks around them are passed over, dots in
paths are resolved, and characters that may not stand in them are encoded. Two identifiers are the
same if they come out with the same parts.
-/

namespace TestScout

inductive UriPath where
  | segments (names : List String)
  | plain (text : String)
  deriving DecidableEq, Repr, Inhabited

/-- An identifier. The host is missing also where it is empty. -/
structure Uri where
  scheme : String
  user : String
  host : Option String
  port : Option Nat
  path : UriPath
  query : Option String
  fragment : Option String
  deriving DecidableEq, Repr, Inhabited

namespace Uri

/-- The ports of the schemes of the web. A file has none. -/
def specialPorts : List (String × Option Nat) :=
  [("http", some 80), ("https", some 443), ("ws", some 80), ("wss", some 443), ("ftp", some 21),
    ("file", none)]

/-- Whether a scheme is one of the web. -/
def isSpecial (scheme : String) : Bool := (specialPorts.lookup scheme).isSome

/-- The scheme at the front, in lower case, and what follows its colon. -/
def takeScheme? (cs : List Char) : Option (String × List Char) :=
  let name := cs.takeWhile fun c => c.isAlphanum || c = '+' || c = '-' || c = '.'
  match cs.head?, cs.drop name.length with
  | some c, ':' :: rest =>
    if c.isAlpha then some (String.ofList (name.map Char.toLower), rest) else none
  | _, _ => none

def isSeparator (special : Bool) (c : Char) : Bool := c = '/' || (special && c = '\\')

/-- Whether a name means the directory itself. -/
def isHere (name : List Char) : Bool :=
  [".", "%2e"].contains (String.ofList (name.map Char.toLower))

/-- Whether a name means the directory above. -/
def isAbove (name : List Char) : Bool :=
  ["..", ".%2e", "%2e.", "%2e%2e"].contains (String.ofList (name.map Char.toLower))

/-- Whether a name is a letter for a drive. -/
def isDrive (name : List Char) : Bool :=
  match name with
  | [c, d] => c.isAlpha && (d = ':' || d = '|')
  | _ => false

def splitNames (special : Bool) : List Char → List (List Char)
  | [] => [[]]
  | c :: cs =>
    if isSeparator special c then [] :: splitNames special cs
    else
      match splitNames special cs with
      | name :: names => (c :: name) :: names
      | [] => [[c]]

/-- The names without those that only lead back. In a file, nothing leads above a drive. -/
def resolve (file : Bool) (kept : List (List Char)) : List (List Char) → List (List Char)
  | [] => kept
  | name :: names =>
    let last := names.isEmpty
    if isAbove name then
      let above := if file && kept.length = 1 && kept.all isDrive then kept else kept.dropLast
      resolve file (if last then above ++ [[]] else above) names
    else if isHere name then resolve file (if last then kept ++ [[]] else kept) names
    else
      let name := if file && kept.isEmpty && isDrive name then name.take 1 ++ [':'] else name
      resolve file (kept ++ [name]) names

/-- A path below a root; what comes before its first separator is a name too. -/
def pathOf (scheme : String) (cs : List Char) : UriPath :=
  let special := isSpecial scheme
  let cs := match cs with
    | c :: rest => if isSeparator special c then rest else cs
    | [] => []
  .segments ((resolve (scheme = "file") [] (splitNames special cs)).map fun name =>
    String.ofList (encode inPath name))

/-- The user and the rest before a path, the last `@` being the one that ends the user. -/
def takeUser (cs : List Char) : String × List Char :=
  let after := (cs.reverse.takeWhile (· ≠ '@')).reverse
  let before := (cs.take (cs.length - after.length)).dropLast
  (String.ofList (encode (inUser.filter (· ≠ ':')) before), after)

/-- How many characters of what is left after the user are the host. A colon in square brackets
separates nothing. -/
def hostLength (inside : Bool) : List Char → Nat
  | [] => 0
  | c :: cs =>
    if c = ':' && !inside then 0
    else 1 + hostLength (c = '[' || (inside && c ≠ ']')) cs

/-- The port of what is left after a host. -/
def readPort (cs : List Char) : Except UriFault (Option Nat) :=
  let digits := cs.drop 1
  let value := Text.decimalValue digits
  if digits.isEmpty then .ok none
  else if digits.all Text.isDigit && value < 0x10000 then .ok (some value)
  else .error .badPort

/-- An identifier with a host, from what follows the two slashes. -/
def withHost (scheme : String) (cs : List Char) (query fragment : Option String) :
    Except UriFault Uri := do
  let special := isSpecial scheme
  let authority := cs.takeWhile fun c => !isSeparator special c
  let rest := cs.drop authority.length
  let (user, after) := takeUser authority
  let written := after.take (hostLength false after)
  let beyond := after.drop written.length
  if written.isEmpty && (special || !user.isEmpty || !beyond.isEmpty) then throw .noHost
  else
    let host ← if written.isEmpty then pure none else some <$> readHost special written
    let port ← readPort beyond
    let path := if rest.isEmpty && !special then UriPath.segments [] else pathOf scheme rest
    return ⟨scheme, user, host.map String.ofList,
      port.filter fun p => specialPorts.lookup scheme ≠ some (some p), path, query, fragment⟩

/-- A file, from what follows the scheme. Its host may be missing; a drive is no host. -/
def ofFile (cs : List Char) (query fragment : Option String) : Except UriFault Uri := do
  let (host, rest) := match cs with
    | a :: b :: rest =>
      if isSeparator true a && isSeparator true b then
        let host := rest.takeWhile fun c => !isSeparator true c
        if isDrive host then ([], rest) else (host, rest.drop host.length)
      else ([], cs)
    | _ => ([], cs)
  let host ← if host.isEmpty then pure none else some <$> readHost true host
  return ⟨"file", "", (host.map String.ofList).filter (· ≠ "localhost"), none, pathOf "file" rest,
    query, fragment⟩

def ofText (text : String) : Except UriFault Uri := do
  let idle (c : Char) : Bool := c ≤ ' '
  let trimmed := ((text.toList.dropWhile idle).reverse.dropWhile idle).reverse
  let cs := trimmed.filter fun c => c ≠ '\t' && c ≠ '\n' && c ≠ '\r'
  let (scheme, rest) ← match takeScheme? cs with
    | some parts => pure parts
    | none => throw UriFault.noScheme
  let special := isSpecial scheme
  let body := rest.takeWhile (· ≠ '#')
  let fragment := match rest.drop body.length with
    | _ :: f => some (String.ofList (encode inFragment f))
    | [] => none
  let main := body.takeWhile (· ≠ '?')
  let query := match body.drop main.length with
    | _ :: q => some (String.ofList (encode (inQuery special) q))
    | [] => none
  if scheme = "file" then ofFile main query fragment
  else if special then
    withHost scheme (main.dropWhile (isSeparator true)) query fragment
  else
    match main with
    | '/' :: '/' :: rest => withHost scheme rest query fragment
    | '/' :: _ => return ⟨scheme, "", none, none, pathOf scheme main, query, fragment⟩
    | _ => return ⟨scheme, "", none, none, .plain (String.ofList (encode [] main)), query, fragment⟩

def pathText (u : Uri) : String :=
  match u.path with
  | .segments names => String.join (names.map ("/" ++ ·))
  | .plain text => text

/-- The path of the file that an identifier stands for. One without a host gives its names, decoded;
of any other the path is taken as it is written. -/
def filePath (u : Uri) : Path :=
  match u.path, u.host with
  | .segments (name :: names), none => ⟨closeDrive (bytesOf (name :: names))⟩
  | .segments (name :: names), some "localhost" => ⟨closeDrive (bytesOf (name :: names))⟩
  | _, _ => .ofString u.pathText
where
  /-- The names, decoded, each after a separator. -/
  bytesOf (names : List String) : List UInt8 := names.flatMap fun n => slash :: decode n
  /-- A drive at the end is a directory. -/
  closeDrive (bytes : List UInt8) : List UInt8 :=
    match bytes.reverse with
    | d :: c :: _ :: _ =>
      if (Char.ofNat c.toNat).isAlpha && (d = 0x3A || d = 0x7C) then bytes ++ [slash] else bytes
    | _ => bytes

end Uri

end TestScout
