import Gleaner.Screenplay.Heading
import Gleaner.Text.CaseMap

/-!
# The elements of a Fountain text

Every line that is not blank is one element.  Its kind hangs on the line itself and, for a line in
capitals, on the next line that is not blank: a speaker is followed by what they say.

* `Element` — a kind and a text.
* `classify` — the element of a line, given the lines behind it.
* `elements` — the elements of a text.
-/

namespace Gleaner.Screenplay

/-- The kinds of elements. -/
inductive ElementKind where
  | title
  | sceneHeading
  | transition
  | character
  | parenthetical
  | dialogue
  | action
  deriving DecidableEq, Repr

/-- The name of a kind. -/
def ElementKind.label : ElementKind → Text
  | .title => "title"
  | .sceneHeading => "scene_heading"
  | .transition => "transition"
  | .character => "character"
  | .parenthetical => "parenthetical"
  | .dialogue => "dialogue"
  | .action => "action"

/-- An element of a screenplay. -/
structure Element where
  kind : ElementKind
  text : Text
  deriving DecidableEq, Repr

/-- A line that names the title. -/
def isTitleLine (line : Text) : Bool :=
  Text.startsWith (Text.lower line) "title:"

/-- What stands behind the first colon of a line. -/
def afterColon (line : Text) : Text :=
  match Text.cut? ':' line with
  | some (_, right) => Text.strip right
  | none => []

/-- Whether the next line that is not blank is spoken: not in capitals, or in brackets. -/
def spokenNext (later : List Text) : Bool :=
  match later.find? fun l => !(Text.strip l).isEmpty with
  | some l => !Text.isCapitals (Text.strip l) || (Text.strip l).startsWith "("
  | none => false

/-- The element of a line without blanks at its end, given the lines behind it. -/
def classify (line : Text) (later : List Text) : Element :=
  if isTitleLine line then ⟨.title, afterColon line⟩
  else if isHeading line then ⟨.sceneHeading, line⟩
  else if namesTransition line then ⟨.transition, line⟩
  else if line.startsWith ">" then ⟨.transition, Text.strip (line.drop 1)⟩
  else if Text.isCapitals line && line.length < 40 && !line.startsWith "(" && spokenNext later then
    ⟨.character, line⟩
  else if line.startsWith "(" && line.endsWith ")" then ⟨.parenthetical, line⟩
  else if 20 ≤ Text.indent line then ⟨.character, Text.strip line⟩
  else if 10 ≤ Text.indent line then ⟨.dialogue, Text.strip line⟩
  else ⟨.action, Text.strip line⟩

/-- The elements of a list of lines. -/
def elementsOfLines : List Text → List Element
  | [] => []
  | l :: later =>
      let line := Text.stripRight l
      if (Text.strip line).isEmpty then elementsOfLines later
      else classify line later :: elementsOfLines later

/-- The elements of a text. -/
def elements (t : Text) : List Element :=
  elementsOfLines (Text.splitOn '\n' t)

end Gleaner.Screenplay
