import Gleaner.Text.Basic

/-!
# Letters whatever their case

A lowercase ASCII letter is met in either case; the dotless and the dotted capital `i`, the long `s`
and the Kelvin sign count as forms of their letters.

* `sameLetter` — one letter.
* `afterFolded?` — what follows a word that stands at the front in any case.
-/

namespace Gleaner.Text

/-- Whether `c` is a form of the lowercase letter (or other character) `p`. -/
def sameLetter (p c : Char) : Bool :=
  c.toLower == p || (p == 'i' && (c == 'ı' || c == 'İ')) || (p == 's' && c == 'ſ')
    || (p == 'k' && c == 'K')

/-- What follows a lowercase word that stands at the front in any case. -/
def afterFolded? : Text → Text → Option Text
  | [], t => some t
  | _ :: _, [] => none
  | p :: ps, c :: rest => if sameLetter p c then afterFolded? ps rest else none

end Gleaner.Text
