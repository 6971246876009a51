import Gleaner.Number.Binary64
import Gleaner.Text.Digit

/-!
# The shortest numeral of a number

A number is written with the fewest decimal digits that read back as the same number; of two such
numerals the nearer one is taken.  Where the digits stand around the decimal point is a matter of
the layout, a record of its own.

* `Binary64.shortest` — the digits and their exponent of ten.
* `Layout` — the decisions of a written form.
* `Layout.write` — the written form of a number.
-/

namespace Gleaner.Binary64

/-- The exponent of ten of the first digit of `num / den`. -/
def decimalExponent (num den : Nat) : Int :=
  if den ≤ num then (decimalLength (num / den) : Int) - 1
  else
    let j := decimalLength (den / num) - 1
    if den ≤ num * Nat.pow 10 j then -(j : Int) else -(j : Int) - 1

/-- `num / den / 10 ^ s` as a quotient. -/
def tenScaled (num den : Nat) (s : Int) : Nat × Nat :=
  if 0 ≤ s then (num, den * Nat.pow 10 s.toNat) else (num * Nat.pow 10 (-s).toNat, den)

/-- The numeral of `count` digits next to the number that reads back as it, if there is one: the
nearer of the neighbours below and above on the grid of `10 ^ s`. -/
def onGrid (x : Binary64) (num den : Nat) (s : Int) : Option Nat :=
  let (n, d) := tenScaled num den s
  let below := n / d
  let reads (q : Nat) : Bool := ofDecimal false q s == x
  match reads below, reads (below + 1) with
  | true, true =>
      let twice := 2 * (n % d)
      if twice < d then some below
      else if d < twice then some (below + 1)
      else some (below + below % 2)
  | true, false => some below
  | false, true => some (below + 1)
  | false, false => none

/-- Removes the final zeros of a numeral, at most `fuel` of them. -/
def dropZeros (digits : Nat) (exponent : Int) : Nat → Nat × Int
  | 0 => (digits, exponent)
  | fuel + 1 =>
      if digits ≠ 0 ∧ digits % 10 = 0 then dropZeros (digits / 10) (exponent + 1) fuel
      else (digits, exponent)

/-- The fewest digits that read back as the finite number `m * 2 ^ e`, and the exponent of ten of
the last of them.  Seventeen digits always suffice. -/
def shortest (m : Nat) (e : Int) : Nat × Int :=
  let x := Binary64.finite false m e
  let (num, den) := magnitude m e
  let k := decimalExponent num den
  let found := (List.range 17).findSome? fun (i : Nat) =>
    let s := k - i
    (onGrid x num den s).map fun q => (q, s)
  match found with
  | some (q, s) => dropZeros q s 20
  | none => (num / den, 0)

end Gleaner.Binary64

namespace Gleaner

/-- The decisions of a written form of numbers.

* A number is written positionally when the exponent of ten of its first digit is at least `low`
  and below `high`, else with an exponent that has at least `exponentWidth` digits.
* `pointZero` keeps one zero behind the point of an integer.
-/
structure Layout where
  low : Int
  high : Int
  exponentWidth : Nat
  pointZero : Bool
  nan : Text
  infinity : Text
  negativeZero : Bool

namespace Layout

/-- Digits with a point, or an exponent, for `digits * 10 ^ exponent`. -/
def writeDigits (l : Layout) (digits : Nat) (exponent : Int) : Text :=
  let ds := Text.ofNat digits
  let first := exponent + ds.length - 1
  if l.low ≤ first && first < l.high then
    if 0 ≤ exponent then
      ds ++ List.replicate exponent.toNat '0' ++ (if l.pointZero then ['.', '0'] else [])
    else if 0 ≤ first then
      let whole := (first + 1).toNat
      ds.take whole ++ '.' :: ds.drop whole
    else
      '0' :: '.' :: (List.replicate (-first - 1).toNat '0' ++ ds)
  else
    let fraction := ds.drop 1
    let exp := Text.ofNat first.natAbs
    ds.take 1 ++ (if fraction.isEmpty then [] else '.' :: fraction)
      ++ ['e', if first < 0 then '-' else '+']
      ++ List.replicate (l.exponentWidth - exp.length) '0' ++ exp

/-- The written form of a number. -/
def write (l : Layout) : Binary64 → Text
  | .nan => l.nan
  | .infinite negative => (if negative then ['-'] else []) ++ l.infinity
  | .finite negative m e =>
      let sign : Text := if negative && (m != 0 || l.negativeZero) then ['-'] else []
      if m = 0 then sign ++ (if l.pointZero then ['0', '.', '0'] else ['0'])
      else
        let (digits, exponent) := Binary64.shortest m e
        sign ++ l.writeDigits digits exponent

end Layout

end Gleaner
