import Gleaner.Text.Blank
import Gleaner.Text.Digit

/-!
# Integers in texts

An integer may stand between blanks, have a sign and have single low lines between its digits, which
may be of any script.  The control characters that separate records are blanks elsewhere, but not
around an integer.

* `isMargin`, `withoutMargins` — what may stand around an integer, and its removal.
* `numeral?` — the digits of a numeral.
* `integer?` — the integer that a text writes.
-/

namespace Gleaner.Text

/-- A blank that may stand around an integer. -/
def isMargin (c : Char) : Bool :=
  isBlank c && !(0x1c ≤ c.toNat && c.toNat ≤ 0x1f)

/-- Removes what may stand around an integer. -/
def withoutMargins (t : Text) : Text :=
  ((t.dropWhile isMargin).reverse.dropWhile isMargin).reverse

/-- The digits of a numeral without its low lines; each of them stands between two digits. -/
def numeral? : Text → Option Text
  | [] => none
  | [c] => if isDecimal c then some [c] else none
  | c :: '_' :: rest => if isDecimal c then (numeral? rest).map (c :: ·) else none
  | c :: d :: rest => if isDecimal c then (numeral? (d :: rest)).map (c :: ·) else none

/-- The integer that a text writes. -/
def integer? (t : Text) : Option Int :=
  match withoutMargins t with
  | '-' :: rest => (numeral? rest).map fun ds => -(digitsValue ds : Int)
  | '+' :: rest => (numeral? rest).map fun ds => (digitsValue ds : Int)
  | rest => (numeral? rest).map fun ds => (digitsValue ds : Int)

end Gleaner.Text
