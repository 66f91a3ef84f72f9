/-
  The double that a decimal number is read as.

  A decimal is rounded to 53 binary digits, ties to even, with no digit below 2 ^ (-1074); from
  2 ^ 1024 on it is infinite.

  * `roundDiv`: a quotient rounded to the nearest whole number, ties to even;
  * `Double`: a whole double, one with a fraction, or an infinite one;
  * `Double.ofDecimal`: the double for `mantissa * 10 ^ exponent`;
  * `JsonNumber.hasDouble`, `JsonNumber.isNonneg`: whether a number is read as a double, and whether
    as one that is not negative.

  `roundDiv_of_dvd`: an exact quotient is not changed.
-/
import DiagramLint.Json.Basic

namespace DiagramLint

/-- The whole number nearest to `n / d`; of two equally near ones the even one. -/
def roundDiv (n d : Nat) : Nat :=
  let q := n / d
  if 2 * (n % d) < d ∨ (2 * (n % d) = d ∧ q % 2 = 0) then q else q + 1

theorem roundDiv_of_dvd {n d : Nat} (hd : 0 < d) (h : d ∣ n) : roundDiv n d = n / d := by
  simp [roundDiv, Nat.mod_eq_zero_of_dvd h, hd]

/-- The rounded quotient is off by half of one at most. -/
theorem roundDiv_near {n d : Nat} (hd : 0 < d) :
    2 * n ≤ 2 * (d * roundDiv n d) + d ∧ 2 * (d * roundDiv n d) ≤ 2 * n + d := by
  have hmod := Nat.mod_lt n hd
  have hdiv := Nat.div_add_mod n d
  unfold roundDiv
  simp only
  split
  · omega
  · rw [Nat.mul_add, Nat.mul_one]
    omega

/-- What an integer can be made of. -/
inductive Double where
  | whole (n : Int)
  | fractional
  | infinite
  deriving Repr, DecidableEq

namespace Double

/-- The power of two with the exponent `k`, one if `k` is negative. -/
def twoPow (k : Int) : Nat := Nat.pow 2 k.toNat

/-- The power of ten with the exponent `k`, one if `k` is negative. -/
def tenPow (k : Int) : Nat := Nat.pow 10 k.toNat

/-- The greatest `k` with `2 ^ k ≤ n / d`. -/
def binaryExponent (n d : Nat) : Int :=
  let k : Int := (n.log2 : Int) - d.log2
  if d * twoPow k ≤ n * twoPow (-k) then k else k - 1

/-- The double nearest to `n / d`, with the sign `sign`. -/
def ofRatio (sign : Int) (n d : Nat) : Double :=
  if n = 0 then .whole 0
  else
    let unit := max (binaryExponent n d - 52) (-1074)
    let q := roundDiv (n * twoPow (-unit)) (d * twoPow unit)
    if 0 ≤ unit then
      let m := q * twoPow unit
      if twoPow 1024 ≤ m then .infinite else .whole (sign * m)
    else if q % twoPow (-unit) = 0 then .whole (sign * (q / twoPow (-unit) : Nat))
    else .fractional

/-- The double for `mantissa * 10 ^ exponent`.  Beyond 400 places it is infinite or zero, and no
    power of ten is computed. -/
def ofDecimal (mantissa exponent : Int) : Double :=
  let n := mantissa.natAbs
  let places : Int := (Nat.toDigits 10 n).length + exponent
  if n = 0 ∨ places < -400 then .whole 0
  else if 400 < places then .infinite
  else ofRatio mantissa.sign (n * tenPow exponent) (tenPow (-exponent))

end Double

namespace JsonNumber

/-- The number is read as a double; an integer beyond all doubles is not. -/
def hasDouble : JsonNumber → Bool
  | int n => Double.ofDecimal n 0 != .infinite
  | decimal _ _ | infinity _ | nan => true

/-- The double that the number is read as is not negative; a small negative number is read as
    zero. -/
def isNonneg : JsonNumber → Bool
  | int n => 0 ≤ n
  | decimal mantissa exponent => 0 ≤ mantissa || Double.ofDecimal mantissa exponent == .whole 0
  | infinity negative => !negative
  | nan => false

end JsonNumber

end DiagramLint
