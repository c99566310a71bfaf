/-!
Doubles as decimals. `shortest` gives the fewest digits that read back as the same double, and
`scale` reads digits and a power of ten by multiplying or dividing once in double arithmetic.
-/

namespace TemplateMatch.Json

/-- The number `digits · 10 ^ exponent`. -/
structure Decimal where
  digits : Nat
  exponent : Int
deriving DecidableEq, Repr

/-- The number `mantissa · 2 ^ exponent`, as a positive finite double holds it. -/
structure Binary where
  mantissa : Nat
  exponent : Int
deriving DecidableEq, Repr

namespace Binary

/-- The first bit of a mantissa, which the bits of a double leave out. -/
def hiddenBit : Nat := 0x10000000000000

/-- The parts of the bits of a positive finite double. -/
def ofBits (bits : Nat) : Binary :=
  let fraction : Nat := bits % hiddenBit
  let biased : Nat := bits / hiddenBit % 0x800
  if biased = 0 then ⟨fraction, -1074⟩ else ⟨hiddenBit + fraction, (biased : Int) - 1075⟩

/-- The least mantissa of a binade has a nearer neighbour below than above. -/
def isLowest (b : Binary) : Bool := b.mantissa == hiddenBit && b.exponent != -1074

/-- Whether `d · 10 ^ e` is rounded to `b`: it lies half way to the neighbours at most, and less
than that if the mantissa is odd. All is scaled to whole quarters of the last place. -/
def isNearestTo (b : Binary) (d : Nat) (e : Int) : Bool :=
  let up (base : Nat) (k : Int) : Nat := Nat.pow base k.toNat
  let value := d * up 10 e * up 2 (2 - b.exponent)
  let unit := up 10 (-e) * up 2 (b.exponent - 2)
  let low := (4 * b.mantissa - if b.isLowest then 1 else 2) * unit
  let high := (4 * b.mantissa + 2) * unit
  if b.mantissa % 2 = 0 then low ≤ value && value ≤ high else low < value && value < high

/-- The multiple of `10 ^ e` below or at `b`, as a count, and whether the next one is nearer. Half
way between them the even one counts as nearer. -/
def floorOn (b : Binary) (e : Int) : Nat × Bool :=
  let up (base : Nat) (k : Int) : Nat := Nat.pow base k.toNat
  let num := b.mantissa * up 2 b.exponent * up 10 (-e)
  let den := up 2 (-b.exponent) * up 10 e
  let low := num / den
  (low, den < 2 * (num % den) || (den == 2 * (num % den) && low % 2 == 1))

/-- The coarsest grid of powers of ten, from `e` down, that has a point rounded to `b`. Of two such
points the nearer is taken. -/
def shortestFrom (b : Binary) : Nat → Int → Decimal
  | 0, e => ⟨(b.floorOn e).1, e⟩
  | fuel + 1, e =>
    let (low, upper) := b.floorOn e
    let first := if upper then low + 1 else low
    let second := if upper then low else low + 1
    if b.isNearestTo first e then ⟨first, e⟩
    else if b.isNearestTo second e then ⟨second, e⟩
    else shortestFrom b fuel (e - 1)

/-- The search begins at a power of ten above `b` and needs 17 digits at most. -/
def shortest (b : Binary) : Decimal :=
  shortestFrom b 20 ((Nat.log2 b.mantissa + 1 + b.exponent) * 30103 / 100000 + 1)

end Binary

/-- How decimals are written: with a point from `1e-5` up to below `1e16`, and with an exponent
that has its sign otherwise. There is always a digit behind a point that stands alone. -/
def Decimal.text (d : Decimal) : String :=
  let ds := Nat.toDigits 10 d.digits
  let exponent := d.exponent + (ds.length : Int) - 1
  let zeros (n : Int) : List Char := List.replicate n.toNat '0'
  String.ofList <|
    if -5 ≤ exponent ∧ exponent < 16 then
      if 0 ≤ d.exponent then ds ++ zeros d.exponent ++ ['.', '0']
      else if 0 ≤ exponent then
        ds.take (exponent.toNat + 1) ++ ['.'] ++ ds.drop (exponent.toNat + 1)
      else ['0', '.'] ++ zeros (-exponent - 1) ++ ds
    else
      let point := if ds.length = 1 then ds else ds.take 1 ++ ['.'] ++ ds.drop 1
      let sign := if exponent < 0 then '-' else '+'
      point ++ ['e', sign] ++ Nat.toDigits 10 exponent.natAbs

/-- The text of a finite double. -/
def floatText (x : Float) : String :=
  let bits := x.toBits.toNat
  let sign := if bits / 0x8000000000000000 = 1 then "-" else ""
  let magnitude := bits % 0x8000000000000000
  if magnitude = 0 then sign ++ "0.0"
  else sign ++ (Binary.ofBits magnitude).shortest.text

/-- The double for a power of ten up to 308. -/
def powerOfTen (k : Nat) : Float := Float.ofScientific 1 false k

/-- `x` times a power of ten, in steps that a double can hold; nothing if the result is too large
for one. -/
def scale : Nat → Float → Int → Option Float
  | 0, x, _ => some x
  | fuel + 1, x, e =>
    if e.natAbs ≤ 308 then
      if 0 ≤ e then
        let y := x * powerOfTen e.natAbs
        if y.isInf then none else some y
      else some (x / powerOfTen e.natAbs)
    else if x == 0 then some x
    else if 0 ≤ e then none
    else scale fuel (x / powerOfTen 308) (e + 308)

/-- The double for a whole number below `2 ^ 64` and a power of ten. Two steps of 308 bring every
such number to zero. -/
def floatOfDecimal (negative : Bool) (significand : Nat) (e : Int) : Option Float :=
  (scale 5 significand.toUInt64.toFloat e).map fun x => if negative then -x else x

end TemplateMatch.Json
