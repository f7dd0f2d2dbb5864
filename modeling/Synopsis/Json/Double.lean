import Synopsis.Json.Basic

namespace Synopsis

/-!
# Floating-point numbers in JSON

The digits of a number are taken into a significand of 64 bits as long as they fit; the
significand is then scaled by a power of ten.

* `absorb` — digits taken into a significand;
* `scale?` — a significand times a power of ten, unless that is too large;
* `Numeral.double?` — the value of a number.
-/

/-- Takes digits into a significand while it fits into 64 bits: the significand, and how many
    digits did not fit. -/
def absorb (significand : Nat) : Text → Nat × Nat
  | [] => (significand, 0)
  | d :: r =>
    let next := significand * 10 + (d.toNat - '0'.toNat)
    if next < wordLimit then absorb next r else (significand, r.length + 1)

/-- A power of ten with a natural exponent. -/
def powerOfTen (e : Nat) : Float := OfScientific.ofScientific 1 false e

/-- The greatest exponent by which a number is scaled at once. -/
def maxDecimalExponent : Nat := 308

/-- A number times a power of ten; none if the product is too large. -/
def scale? (x : Float) (e : Int) : Option Float :=
  if 0 ≤ e then
    if e.toNat ≤ maxDecimalExponent then
      let product := x * powerOfTen e.toNat
      if product.isInf then none else some product
    else if x == 0 then some x
    else none
  else if _h : e.natAbs ≤ maxDecimalExponent then some (x / powerOfTen e.natAbs)
  else if x == 0 then some x
  else scale? (x / powerOfTen maxDecimalExponent) (e + maxDecimalExponent)
termination_by e.natAbs
decreasing_by
  simp only [maxDecimalExponent] at _h ⊢
  omega

/-- The exponent of a number as written. -/
def Numeral.writtenExponent (n : Numeral) : Int :=
  match n.exponent with
  | some (true, ds) => -(Nat.ofDigitChars 10 ds 0 : Int)
  | some (false, ds) => Nat.ofDigitChars 10 ds 0
  | none => 0

/-- The value of a number as a double; none if it is too large. -/
def Numeral.double? (n : Numeral) : Option Float :=
  let fraction := n.fraction.getD []
  let (whole, extra) := absorb 0 n.integer
  let (significand, dropped) := absorb whole fraction
  let e : Int := n.writtenExponent + extra - (fraction.length - dropped : Nat)
  (scale? (Float.ofNat significand) e).map fun x => if n.negative then -x else x

end Synopsis
