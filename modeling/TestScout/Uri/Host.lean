import TestScout.Uri.Percent
import TestScout.Text.Numeral

/-!
Hosts of identifiers: names, addresses of four bytes, and addresses in square brackets. Equal hosts
are written equally. Letters of names are compared without their case as far as ASCII goes.
-/

namespace TestScout

inductive UriFault where
  | noScheme
  | noHost
  | badPort
  | badAddress
  | badLongAddress
  | badName
  | badCharacter
  deriving DecidableEq, Repr

def UriFault.message : UriFault → String
  | .noScheme => "relative URL without a base"
  | .noHost => "empty host"
  | .badPort => "invalid port number"
  | .badAddress => "invalid IPv4 address"
  | .badLongAddress => "invalid IPv6 address"
  | .badName => "invalid international domain name"
  | .badCharacter => "invalid domain character"

end TestScout

namespace TestScout.Uri

def notInHost : List Char :=
  ['\x00', '\t', '\n', '\r', ' ', '#', '/', ':', '<', '>', '?', '@', '[', '\\', ']', '^', '|']

/-- The number that part of an address writes, in base ten, eight or sixteen. -/
def addressPart? (cs : List Char) : Option Nat :=
  let digits (base : Nat) (ds : List Char) : Option Nat :=
    if ds.all fun d => (Text.hexValue? d).any (· < base) then
      some ((ds.filterMap Text.hexValue?).foldl (fun n d => n * base + d) 0)
    else none
  match cs with
  | [] => none
  | '0' :: x :: rest => if x = 'x' || x = 'X' then digits 16 rest else digits 8 (x :: rest)
  | ds => digits 10 ds

def pointParts (cs : List Char) : List (List Char) := cs.splitOn '.'

/-- Whether a name has to be an address since its last part is a number. -/
def endsInNumber (parts : List (List Char)) : Bool :=
  match parts.getLast? with
  | some last => (!last.isEmpty && last.all Text.isDigit) ||
      (match last with
        | '0' :: x :: _ => (x = 'x' || x = 'X') && (addressPart? last).isSome
        | _ => false)
  | none => false

/-- The value of an address whose parts are numbers. The last one fills all bytes that are left. -/
def addressValue? : List Nat → Nat → Option Nat
  | [], _ => none
  | [n], bytes => if n < Nat.pow 256 bytes then some n else none
  | n :: rest, bytes =>
    match bytes with
    | b + 2 =>
      if n < 256 then (addressValue? rest (b + 1)).map (n * Nat.pow 256 (b + 1) + ·) else none
    | _ => none

def addressText (n : Nat) : List Char :=
  let bytes := [n / 0x1000000, n / 0x10000 % 256, n / 256 % 256, n % 256]
  ['.'].intercalate (bytes.map (Nat.toDigits 10))

/-- A host in the form in which it is compared; `special` for the schemes of the web. -/
def readHost (special : Bool) (cs : List Char) : Except UriFault (List Char) :=
  match cs with
  | '[' :: rest =>
    if rest.getLast? = some ']' && rest.dropLast.contains ':' && rest.dropLast.all fun c =>
        (Text.hexValue? c).isSome || c = ':' || c = '.' then .ok (cs.map Char.toLower)
    else .error .badLongAddress
  | _ =>
    if !special then
      if cs.any notInHost.contains then .error .badCharacter else .ok (encode [] cs)
    else
      match Text.ofBytes? (decode (String.ofList cs)) with
      | none => .error .badName
      | some name =>
        let name := name.toList.map Char.toLower
        if name.isEmpty then .error .noHost
        else if name.any fun c => notInHost.contains c || c = '%' || c < ' ' || c = '\x7f' then
          .error .badName
        else
          let parts := pointParts name
          let rooted := 1 < parts.length && parts.getLast? = some []
          let parts := if rooted then parts.dropLast else parts
          if !endsInNumber parts then .ok name
          else if 4 < parts.length then .error .badAddress
          else
            match (parts.mapM addressPart?).bind fun ns => addressValue? ns 4 with
            | some n => .ok (addressText n)
            | none => .error .badAddress

end TestScout.Uri
