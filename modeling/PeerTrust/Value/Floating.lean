import PeerTrust.Text.Basic

/-!
Floating-point numbers and the one way of writing them.

Numbers with a point or an exponent are kept in double precision.  A number is shown by the shortest
decimal that reads back to it, so `Floating.ofDecimal` replaces a decimal by that one; and since
zero has a sign and large decimals become infinite, both are part of the type.

A magnitude is written with its significant digits only (`Decimal.display`).  Numbers of ordinary
size are positional and keep at least one digit after the point (`1.5`, `2.0`); from 10^16 on and
below 10^-4 the form is `d.ddde+XX`, with a sign and at least two digits in the exponent.

A double-precision magnitude is `significand * 2 ^ exponent` with at most 53 bits in the
significand.  Every decimal magnitude has a nearest one (`Binary.nearest?`), unless it is too
large; and every such magnitude has a shortest decimal that reads back to it (`Binary.shortest`).
All is computed on natural numbers: a ratio is compared and rounded, never approximated.
-/

namespace PeerTrust

/-! ## Decimal magnitudes -/

/-- The number `units * 10 ^ exponent`. -/
structure Decimal where
  units : Nat
  exponent : Int
deriving DecidableEq, Repr

namespace Decimal

/-- The number zero. -/
def isZero (d : Decimal) : Bool := d.units == 0

/-- The significant digits, without zeros at the end; none for zero. -/
def digits (d : Decimal) : Text :=
  if d.isZero then [] else ((Nat.toDigits 10 d.units).reverse.dropWhile (· == '0')).reverse

/-- The place of the decimal point, counted from the front of the first significant digit. -/
def pointPlace (d : Decimal) : Int :=
  if d.isZero then 1 else (Nat.toDigits 10 d.units).length + d.exponent

/-- An exponent, with its sign and at least two digits. -/
def exponentText (e : Int) : Text :=
  let ds := Nat.toDigits 10 e.natAbs
  (if e < 0 then '-' else '+') :: (List.replicate (2 - ds.length) '0' ++ ds)

/-- Digits with the point at `place`, zeros filling what the digits leave open. -/
def positional (digits : Text) (place : Int) : Text :=
  let padded := List.replicate (1 - place).toNat '0' ++ digits
  let cut := (max place 1).toNat
  let whole := padded.take cut
  let fraction := padded.drop cut
  whole ++ List.replicate (cut - whole.length) '0' ++
    '.' :: (if fraction.isEmpty then ['0'] else fraction)

/-- Digits in exponent form. -/
def scientific (digits : Text) (place : Int) : Text :=
  digits.take 1 ++ (if digits.length ≤ 1 then [] else '.' :: digits.drop 1) ++
    'e' :: exponentText (place - 1)

/-- The magnitude as text. -/
def display (d : Decimal) : Text :=
  if -4 < d.pointPlace ∧ d.pointPlace ≤ 16 then positional d.digits d.pointPlace
  else scientific d.digits d.pointPlace

end Decimal

/-! ## Double precision -/

/-- The positive number `num / den`. -/
structure Ratio where
  num : Nat
  den : Nat
deriving DecidableEq, Repr

namespace Ratio

/-- The ratio times a power of `base`. -/
def scale (r : Ratio) (base : Nat) (e : Int) : Ratio :=
  ⟨r.num * Nat.pow base e.toNat, r.den * Nat.pow base (-e).toNat⟩

/-- The least `k` such that the ratio is below the `k`-th power of `base`. -/
def magnitude (r : Ratio) (base : Nat) : Int :=
  let k : Int := (Nat.toDigits base r.num).length - (Nat.toDigits base r.den).length
  let scaled := r.scale base (-k)
  if scaled.num < scaled.den then k else k + 1

/-- The ratio as a whole number, a half going to the even neighbour. -/
def rounded (r : Ratio) : Nat :=
  let q := r.num / r.den
  match compare (2 * (r.num % r.den)) r.den with
  | .lt => q
  | .gt => q + 1
  | .eq => q + q % 2

end Ratio

/-- The magnitude `significand * 2 ^ exponent`, with all 53 bits of the significand in use unless
the exponent is the least one. -/
structure Binary where
  significand : Nat
  exponent : Int
deriving DecidableEq, Repr

namespace Binary

/-- The least exponent. -/
def leastExponent : Int := -1074

/-- The greatest exponent. -/
def greatestExponent : Int := 971

/-- The magnitude as a ratio. -/
def toRatio (x : Binary) : Ratio := (Ratio.mk x.significand 1).scale 2 x.exponent

/-- The nearest double-precision magnitude to a ratio, unless that is too large. -/
def ofRatio? (r : Ratio) : Option Binary :=
  let e := max leastExponent (r.magnitude 2 - 53)
  let m := (r.scale 2 (-e)).rounded
  -- Rounding up can carry into one more bit.
  let x : Binary := if m = Nat.pow 2 53 then ⟨Nat.pow 2 52, e + 1⟩ else ⟨m, e⟩
  if greatestExponent < x.exponent then none else some x

/-- The nearest double-precision magnitude, unless the decimal is too large.  Beyond the powers
400 and -400 of ten the size alone decides. -/
def nearest? (d : Decimal) : Option Binary :=
  if d.isZero ∨ d.pointPlace < -400 then some ⟨0, leastExponent⟩
  else if 400 < d.pointPlace then none
  else ofRatio? ((Ratio.mk d.units 1).scale 10 d.exponent)

/-- The decimal that reads back to `x` and is one of its two neighbours among the multiples of the
`e`-th power of ten: the nearer one if both do, and the even one if both are equally near. -/
def neighbour? (x : Binary) (e : Int) : Option Decimal :=
  let r := x.toRatio.scale 10 (-e)
  let near := r.rounded
  let far := if near = r.num / r.den then near + 1 else near - 1
  ([⟨near, e⟩, ⟨far, e⟩] : List Decimal).find? fun d => nearest? d == some x

/-- The decimal that is exactly `x`. -/
def exact (x : Binary) : Decimal :=
  ⟨x.significand * Nat.pow 2 x.exponent.toNat * Nat.pow 5 (-x.exponent).toNat, min x.exponent 0⟩

/-- The shortest decimal that reads back to `x`.  Seventeen digits are always enough. -/
def shortest (x : Binary) : Decimal :=
  if x.significand = 0 then ⟨0, 0⟩
  else
    let k := x.toRatio.magnitude 10
    ((List.range 17).findSome? fun (i : Nat) => neighbour? x (k - 1 - i)).getD x.exact

end Binary

/-! ## Numbers -/

/-- A floating-point number. -/
inductive Floating where
  | finite (negative : Bool) (size : Decimal)
  | infinite (negative : Bool)
  /-- The result of an operation that has none. -/
  | undefined
deriving DecidableEq, Repr

namespace Floating

/-- The number zero, with either sign. -/
def isZero : Floating → Bool
  | finite _ size => size.isZero
  | infinite _ => false
  | undefined => false

/-- The number that a signed decimal denotes in double precision. -/
def ofDecimal (negative : Bool) (size : Decimal) : Floating :=
  match Binary.nearest? size with
  | some x => finite negative x.shortest
  | none => infinite negative

/-- The number as text. -/
def display : Floating → Text
  | finite negative size => (if negative then ['-'] else []) ++ size.display
  | infinite negative => (if negative then ['-'] else []) ++ "inf".toList
  | undefined => "nan".toList

end Floating

end PeerTrust
