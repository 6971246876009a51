import Gleaner.Text.Basic

/-!
# Spans of code points

A property of characters is kept as an ascending list of spans.  In scripts where upper- and
lowercase letters alternate a span takes every second code point, hence the step.

* `Span` — the code points from `first` to `last` in steps of `step`.
* `Span.covers` — membership in an ascending list of spans.
-/

namespace Gleaner.Text

/-- The code points `first`, `first + step`, … up to `last`. -/
structure Span where
  first : Nat
  last : Nat
  step : Nat
  deriving DecidableEq, Repr

/-- Whether one span holds a code point. -/
def Span.holds (s : Span) (n : Nat) : Bool :=
  s.first ≤ n && n ≤ s.last && (n - s.first) % s.step == 0

/-- Whether an ascending list of spans holds a code point. -/
def Span.covers : List Span → Nat → Bool
  | [], _ => false
  | s :: rest, n =>
      if n < s.first then false else s.holds n || Span.covers rest n

end Gleaner.Text
