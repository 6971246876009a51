import Gleaner.Text.Blank
import Gleaner.Text.Cased
import Gleaner.Text.Digit
import Gleaner.Text.IgnoreCase

/-!
# Scene headings and transitions

A scene heading begins with one of four marks, in any case, with or without a point, and a blank
behind it.  A transition of a transcript is a line in capitals that names one.

* `isHeading` — a line that opens a scene.
* `isNumberedHeading`, `dropNumber` — headings behind a scene number.
* `namesTransition` — a line that names a transition.
-/

namespace Gleaner.Screenplay

/-- The marks that open a scene. -/
def headingMarks : List Text := ["int", "ext", "i/e", "int/ext"]

/-- A blank behind an optional point. -/
def endsMark (t : Text) : Bool :=
  let rest := if t.head? == some '.' then t.drop 1 else t
  (rest.head?.map Text.isBlank).getD false

/-- A line that opens a scene. -/
def isHeading (t : Text) : Bool :=
  headingMarks.any fun mark => ((Text.afterFolded? mark t).map endsMark).getD false

/-- What follows a number and blanks at the front. -/
def afterNumber? (t : Text) : Option Text :=
  let digits := t.takeWhile Text.isDecimal
  let rest := t.drop digits.length
  if digits.isEmpty || !(rest.head?.map Text.isBlank).getD false then none
  else some (Text.stripLeft rest)

/-- A heading, with or without a scene number in front. -/
def isNumberedHeading (t : Text) : Bool :=
  ((afterNumber? t).map isHeading).getD false || isHeading t

/-- A line without its scene number. -/
def dropNumber (t : Text) : Text :=
  (afterNumber? t).getD t

/-- The words that name a transition. -/
def transitionWords : List Text := ["FADE", "CUT TO", "DISSOLVE", "SMASH CUT"]

/-- A line in capitals that names a transition. -/
def namesTransition (t : Text) : Bool :=
  Text.isCapitals t && transitionWords.any fun w => t.contains w

end Gleaner.Screenplay
