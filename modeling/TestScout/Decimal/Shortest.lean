/-!
The shortest decimal that reads back as a given binary floating-point number. The number is
`m · 2 ^ q` exactly; every real nearer to it than to its neighbours reads back as it, and so do the
two midpoints when `m` is even. For one digit, two digits, and so on, the two decimals of that many
digits around the number are tried, and the first that lies in this interval is the answer; if both
do, the nearer one.
-/

namespace TestScout.Decimal

/-- The nonnegative number `digits · 10 ^ (point - d)`, where `d` is the number of digits: the
decimal point stands after `point` digits. -/
structure Digits where
  digits : Nat
  point : Int
  deriving DecidableEq, Repr

/-- A positive binary fraction `m · 2 ^ q`; below it the neighbours are twice as close if `edge`. -/
structure Binary where
  m : Nat
  q : Int
  edge : Bool

namespace Binary

/-- `x` quarters of the last place, over `10 ^ t`, as numerator and denominator. -/
def ratio (b : Binary) (x : Nat) (t : Int) : Nat × Nat :=
  let e := b.q - 2
  (x * Nat.pow 2 e.toNat * Nat.pow 10 (-t).toNat, Nat.pow 2 (-e).toNat * Nat.pow 10 t.toNat)

/-- How many places the decimal point moves to bring the number into `[1/10, 1)`. -/
def point (b : Binary) : Int :=
  let (num, den) := b.ratio (4 * b.m) 0
  if den ≤ num then ((Nat.toDigits 10 (num / den)).length : Int)
  else 1 - ((Nat.toDigits 10 ((den - 1) / num)).length : Int)

/-- Whether `d · 10 ^ t` reads back as the number. -/
def holds (b : Binary) (d : Nat) (t : Int) : Bool :=
  let (lowNum, den) := b.ratio (4 * b.m - (if b.edge then 1 else 2)) t
  let (highNum, _) := b.ratio (4 * b.m + 2) t
  if b.m % 2 = 0 then lowNum ≤ d * den && d * den ≤ highNum
  else lowNum < d * den && d * den < highNum

/-- The decimal of `n` digits nearest to the number, if one of `n` digits reads back as it. -/
def tryDigits (b : Binary) (n : Nat) : Option Nat :=
  let t := b.point - n
  let (num, den) := b.ratio (4 * b.m) t
  let low := num / den
  match b.holds low t, b.holds (low + 1) t with
  | true, true => some (if 2 * (num % den) ≤ den then low else low + 1)
  | true, false => some low
  | false, true => some (low + 1)
  | false, false => none

/-- The shortest decimal that reads back; seventeen digits always do. -/
def shortest (b : Binary) : Digits :=
  match (List.range 17).findSome? (fun n => (b.tryDigits (n + 1)).map (·, n + 1)) with
  | some (d, n) => if d = Nat.pow 10 n then ⟨1, b.point + 1⟩ else ⟨d, b.point⟩
  | none => ⟨b.m, b.point⟩

end Binary

/-- How numbers are laid out: written out in full while the leading digit's power of ten lies in
`[leastPower, greatestPower]`, otherwise as a mantissa and a signed power. -/
structure Layout where
  leastPower : Int
  greatestPower : Int

/-- The text of a decimal, always with a point or a power. -/
def Digits.text (layout : Layout) (d : Digits) : List Char :=
  let ds := ((Nat.toDigits 10 d.digits).reverse.dropWhile (· = '0')).reverse
  let power := d.point - 1
  if layout.leastPower ≤ power && power ≤ layout.greatestPower then
    if d.point ≤ 0 then '0' :: '.' :: List.replicate (-d.point).toNat '0' ++ ds
    else
      let whole := ds.take d.point.toNat
      let fraction := ds.drop d.point.toNat
      whole ++ List.replicate (d.point.toNat - whole.length) '0' ++ '.' ::
        (if fraction.isEmpty then ['0'] else fraction)
  else
    let mantissa := match ds with
      | [] => ['0']
      | [c] => [c]
      | c :: more => c :: '.' :: more
    mantissa ++ 'e' :: (if power < 0 then '-' else '+') :: Nat.toDigits 10 power.natAbs

/-- The number that sixty-four bits stand for, without its sign; `none` for zero. -/
def ofBits? (bits : UInt64) : Option Binary :=
  let fraction := (bits &&& 0xFFFFFFFFFFFFF).toNat
  let exponent := ((bits >>> 52) &&& 0x7FF).toNat
  if exponent = 0 then
    if fraction = 0 then none else some ⟨fraction, -1074, false⟩
  else some ⟨0x10000000000000 + fraction, (exponent : Int) - 1075, fraction = 0 && 1 < exponent⟩

/-- The text of a finite floating-point number. -/
def floatText (layout : Layout) (bits : UInt64) : String :=
  let sign := if bits >>> 63 = 0 then [] else ['-']
  let body := match ofBits? bits with
    | none => ['0', '.', '0']
    | some b => b.shortest.text layout
  String.ofList (sign ++ body)

end TestScout.Decimal
