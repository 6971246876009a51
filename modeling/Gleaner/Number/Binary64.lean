/-!
# Binary floating-point numbers of 64 bits

A finite number is a sign, a significand below `2 ^ 53` and an exponent of two; the exponent is the
least possible one, so a number has one form.  Every operation is exact arithmetic on integers
followed by one rounding to the nearest number, a tie going to the even significand.

* `Binary64.ofRatio` — rounding of a quotient, the only place where precision is lost.
* `Binary64.ofDecimal` — a decimal numeral read as a number.
* `add`, `sub`, `mul`, `floor`, `lt`, `le` — arithmetic and comparison.
-/

namespace Gleaner

/-- A binary floating-point number. -/
inductive Binary64 where
  | nan
  | infinite (negative : Bool)
  | finite (negative : Bool) (significand : Nat) (exponent : Int)
  deriving DecidableEq, Repr

namespace Binary64

/-- The least exponent of a finite number. -/
def minExponent : Int := -1074

/-- The greatest exponent of a finite number. -/
def maxExponent : Int := 971

/-- The quotient rounded to the nearest natural number, a tie to the even one. -/
def roundQuotient (num den : Nat) : Nat :=
  let q := num / den
  let r := num % den
  if 2 * r < den then q
  else if den < 2 * r then q + 1
  else q + q % 2

/-- `num / den / 2 ^ e` as a quotient of natural numbers. -/
def scaled (num den : Nat) (e : Int) : Nat × Nat :=
  if 0 ≤ e then (num, den * Nat.pow 2 e.toNat) else (num * Nat.pow 2 (-e).toNat, den)

/-- The exponent at which `num / den` has a significand of 53 bits, or the least exponent. -/
def exponentOf (num den : Nat) : Int :=
  let e := (Nat.log2 num : Int) - Nat.log2 den - 53
  let (n, d) := scaled num den e
  max (if Nat.pow 2 53 ≤ n / d then e + 1 else e) minExponent

/-- Zero with a sign. -/
def zero (negative : Bool) : Binary64 :=
  .finite negative 0 minExponent

/-- A significand of at most 53 bits and an exponent, with the carry into a 54th bit resolved. -/
def carry (negative : Bool) (m : Nat) (e : Int) : Binary64 :=
  let (m, e) := if m = Nat.pow 2 53 then (Nat.pow 2 52, e + 1) else (m, e)
  if maxExponent < e then .infinite negative else .finite negative m e

/-- The number nearest to `num / den`. -/
def ofRatio (negative : Bool) (num den : Nat) : Binary64 :=
  if num = 0 then zero negative
  else
    let e := exponentOf num den
    let (n, d) := scaled num den e
    carry negative (roundQuotient n d) e

/-- The number nearest to an integer. -/
def ofInt (n : Int) : Binary64 :=
  ofRatio (n < 0) n.natAbs 1

/-- How many decimal digits a natural number has. -/
def decimalLength (n : Nat) : Nat :=
  (Nat.toDigits 10 n).length

/-- The number nearest to `digits * 10 ^ exponent`.  Numerals beyond any finite number, and those
below half the least one, are settled by their length alone. -/
def ofDecimal (negative : Bool) (digits : Nat) (exponent : Int) : Binary64 :=
  let magnitude := (decimalLength digits : Int) + exponent
  if digits = 0 then zero negative
  else if 400 < magnitude then .infinite negative
  else if magnitude < -400 then zero negative
  else if 0 ≤ exponent then ofRatio negative (digits * Nat.pow 10 exponent.toNat) 1
  else ofRatio negative digits (Nat.pow 10 (-exponent).toNat)

/-- A finite number as a signed multiple of `2 ^ exponent`. -/
def signed (negative : Bool) (m : Nat) : Int :=
  if negative then -m else m

/-- The absolute value of a finite number as a quotient. -/
def magnitude (m : Nat) (e : Int) : Nat × Nat :=
  scaled m 1 (-e)

/-- Rounds `n * 2 ^ e`; `negativeZero` is the sign of an exact zero. -/
def ofScaledInt (n : Int) (e : Int) (negativeZero : Bool) : Binary64 :=
  if n = 0 then zero negativeZero
  else
    let (num, den) := magnitude n.natAbs e
    ofRatio (n < 0) num den

/-- The opposite number. -/
def neg : Binary64 → Binary64
  | .nan => .nan
  | .infinite s => .infinite !s
  | .finite s m e => .finite (!s) m e

/-- The sum, rounded. -/
def add : Binary64 → Binary64 → Binary64
  | .nan, _ | _, .nan => .nan
  | .infinite s, .infinite t => if s = t then .infinite s else .nan
  | .infinite s, .finite .. | .finite .., .infinite s => .infinite s
  | .finite s m e, .finite t n f =>
      let low := min e f
      let a := signed s m * Nat.pow 2 (e - low).toNat
      let b := signed t n * Nat.pow 2 (f - low).toNat
      ofScaledInt (a + b) low (s && t)

/-- The difference, rounded. -/
def sub (x y : Binary64) : Binary64 :=
  add x y.neg

/-- The product, rounded. -/
def mul : Binary64 → Binary64 → Binary64
  | .nan, _ | _, .nan => .nan
  | .infinite s, .infinite t => .infinite (s != t)
  | .infinite s, .finite t n _ | .finite t n _, .infinite s =>
      if n = 0 then .nan else .infinite (s != t)
  | .finite s m e, .finite t n f => ofScaledInt (signed s m * signed t n) (e + f) (s != t)

/-- Half of a number, rounded. -/
def half (x : Binary64) : Binary64 :=
  mul x (.finite false (Nat.pow 2 52) (-53))

/-- The floor of a finite number as an integer. -/
def floorInt (negative : Bool) (m : Nat) (e : Int) : Int :=
  if 0 ≤ e then signed negative m * Nat.pow 2 e.toNat
  else Int.fdiv (signed negative m) (Nat.pow 2 (-e).toNat)

/-- The greatest integer that is not above a number. -/
def floor : Binary64 → Binary64
  | .finite s m e =>
      let n := floorInt s m e
      if n = 0 then zero s else ofInt n
  | x => x

/-- The integer next to a finite number in the direction of zero. -/
def truncate? : Binary64 → Option Int
  | .finite s m e =>
      if 0 ≤ e then some (signed s m * Nat.pow 2 e.toNat)
      else some (signed s (m / Nat.pow 2 (-e).toNat))
  | _ => none

/-- The integer that a number is, if it is one. -/
def toInt? : Binary64 → Option Int
  | .finite s m e =>
      if 0 ≤ e then some (signed s m * Nat.pow 2 e.toNat)
      else if m % Nat.pow 2 (-e).toNat = 0 then some (signed s (m / Nat.pow 2 (-e).toNat))
      else none
  | _ => none

/-- The order of two numbers; `none` when one of them is not a number. -/
def compare? : Binary64 → Binary64 → Option Ordering
  | .nan, _ | _, .nan => none
  | .infinite s, .infinite t =>
      if s = t then some .eq else if s then some .lt else some .gt
  | .infinite s, .finite .. => if s then some .lt else some .gt
  | .finite .., .infinite s => if s then some .gt else some .lt
  | .finite s m e, .finite t n f =>
      let low := min e f
      let a := signed s m * Nat.pow 2 (e - low).toNat
      let b := signed t n * Nat.pow 2 (f - low).toNat
      some (compare a b)

/-- Strictly less; false when one of the two is not a number. -/
def lt (x y : Binary64) : Bool :=
  compare? x y == some .lt

/-- Less or equal; false when one of the two is not a number. -/
def le (x y : Binary64) : Bool :=
  compare? x y == some .lt || compare? x y == some .eq

/-- Neither zero nor the missing number. -/
def isTruthy : Binary64 → Bool
  | .nan => false
  | .infinite _ => true
  | .finite _ m _ => m != 0

end Binary64

end Gleaner
