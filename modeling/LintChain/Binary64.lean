/-!
Double-precision numbers as a sign, a whole number and a power of two: the one nearest to a decimal
number, and the shortest decimal number that is nearest to it. All arithmetic is exact.
-/

namespace LintChain

inductive Binary64
  | nan
  | infinity (negative : Bool)
  /-- `significand * 2 ^ exponent`, with a significand below `2 ^ 53`. -/
  | finite (negative : Bool) (significand : Nat) (exponent : Int)
  deriving DecidableEq

namespace Binary64

/-- `n / d` to the nearest whole number, a half to the even one. -/
def roundDiv (n d : Nat) : Nat :=
  let q := n / d
  let r := n % d
  if 2 * r < d then q else if d < 2 * r then q + 1 else if q % 2 = 0 then q else q + 1

/-- The fraction `n / d` as one of a denominator scaled by `2 ^ e`. -/
def scaled (n d : Nat) (e : Int) : Nat × Nat :=
  if 0 ≤ e then (n, d <<< e.toNat) else (n <<< (-e).toNat, d)

/-- The double nearest to `n / d`. -/
def ofFraction (negative : Bool) (n d : Nat) : Binary64 :=
  if n = 0 then .finite negative 0 0
  else
    let guess : Int := (Nat.log2 n : Int) - (Nat.log2 d : Int) - 52
    let (n', d') := scaled n d guess
    let exponent := max (if n' < d' <<< 52 then guess - 1 else guess) (-1074)
    let (n', d') := scaled n d exponent
    let m := roundDiv n' d'
    let (m, exponent) := if m = 1 <<< 53 then (1 <<< 52, exponent + 1) else (m, exponent)
    if 971 < exponent then .infinity negative else .finite negative m exponent

/-- The double nearest to `digits * 10 ^ exponent`. -/
def ofDecimal (negative : Bool) (digits : Nat) (exponent : Int) : Binary64 :=
  let size : Int := exponent + (toString digits).length
  if digits = 0 ∨ size < -400 then .finite negative 0 0
  else if 400 < size then .infinity negative
  else if 0 ≤ exponent then ofFraction negative (digits * Nat.pow 10 exponent.toNat) 1
  else ofFraction negative digits (Nat.pow 10 (-exponent).toNat)

/-- The multiple of `10 ^ place` nearest to `m * 2 ^ e`, the upper of two, if it is closer to that
double than to any other; the three numbers are quarters of the last bit. -/
def nearestWithin (below value above : Nat) (closed : Bool) (e place : Int) : Option Nat :=
  let up := if 0 ≤ e then 1 <<< e.toNat else 1
  let down := if 0 ≤ e then 1 else 1 <<< (-e).toNat
  let unit := if 0 ≤ place then Nat.pow 10 place.toNat * down else down
  let widen := if 0 ≤ place then up else up * Nat.pow 10 (-place).toNat
  let v := value * widen
  let low := below * widen
  let high := above * widen
  let inside (k : Nat) : Bool :=
    if closed then low ≤ k * unit && k * unit ≤ high else low < k * unit && k * unit < high
  let floor := v / unit
  let candidates := [(2 * v + unit) / (2 * unit), floor, floor + 1]
  candidates.find? inside

/-- The fewest digits whose decimal number is nearest to the double, with a power of ten. -/
def shortest (m : Nat) (e : Int) : Nat × Int :=
  let below := if m = 1 <<< 52 ∧ -1074 < e then 4 * m - 1 else 4 * m - 2
  let top : Int := ((Nat.log2 m : Int) + e) * 30103 / 100000 + 1
  let places : List Int := (List.range 800).map fun (i : Nat) => top - (i : Int)
  let found := places.findSome? fun place =>
    (nearestWithin below (4 * m) (4 * m + 2) (m % 2 = 0) (e - 2) place).map (·, place)
  found.getD (m, 0)

/-- Decimal digits with a point, never an exponent. -/
def positional (digits : Nat) (place : Int) : String :=
  if 0 ≤ place then toString (digits * Nat.pow 10 place.toNat) ++ ".0"
  else
    let places := (-place).toNat
    let cs := (toString digits).toList
    let padded := List.replicate (places + 1 - cs.length) '0' ++ cs
    let fraction := padded.drop (padded.length - places)
    String.ofList (padded.take (padded.length - places)) ++ "." ++ String.ofList fraction

/-- Always with a decimal point, unless it is not a finite number. -/
def text : Binary64 → String
  | nan => "NaN"
  | infinity negative => if negative then "-inf" else "inf"
  | finite negative m e =>
    let (digits, place) := shortest m e
    let plain := if m = 0 then "0.0" else positional digits place
    if negative then "-" ++ plain else plain

end Binary64

end LintChain
