import Gleaner.Screenplay.Heading
import Gleaner.Screenplay.Page
import Gleaner.Text.CaseMap

/-!
# From pages to Fountain

A page with a transcript or a screenplay becomes a text in the Fountain format, line by line.  The
two kinds of pages differ in a few decisions, which are kept in one record.

* `Conversion` — the decisions.
* `transcript` — pages of television transcripts.
* `film` — pages of film screenplays.
* `Conversion.text` — the converted text of a page.
* `Conversion.apply` — the same, refused when a character reference cannot be read.
-/

namespace Gleaner.Screenplay

/-- The decisions of a conversion.

* Lines before the first line of content are dropped when it is among the first `headerLines`; one
  line before it stays.
* `lines` takes the remaining text apart.
* `line` is the converted form of a line that is not blank.
* `wholePages` takes pages without a preformatted part as they are, else they give nothing.
* `trimmed` removes blanks at the ends of the result.
-/
structure Conversion where
  headerLines : Nat
  lines : List Text → List Text
  line : Text → List Text
  wholePages : Bool
  trimmed : Bool

/-- A line of content: not blank, and no remnant of markup or script. -/
def isContent (line : Text) : Bool :=
  let t := Text.strip line
  !t.isEmpty && !(t.startsWith "<" || t.startsWith "//" || t.startsWith "if ")

/-- The lines from the one before the first line of content on. -/
def dropHeader (limit : Nat) (lines : List Text) : List Text :=
  match lines.findIdx? isContent with
  | some i => if i < limit then lines.drop (i - 1) else lines
  | none => lines

/-- Three newlines or more become two. -/
def collapseBlankLines (t : Text) : Text :=
  Text.substitute
    (fun c rest =>
      let more := (rest.takeWhile (· == '\n')).length
      if c = '\n' ∧ 2 ≤ more then some (more, ['\n', '\n']) else none) t

namespace Conversion

/-- The lines of a page that are converted. -/
def bodyLines (r : Conversion) (part : Text) : List Text :=
  r.lines (dropHeader r.headerLines (Text.splitOn '\n' (plain part)))

/-- The converted form of a line; blank lines become empty ones. -/
def convertLine (r : Conversion) (line : Text) : List Text :=
  if (Text.strip line).isEmpty then [[]] else r.line line

/-- The part of a page that is converted. -/
def part? (r : Conversion) (page : Text) : Option Text :=
  match preformatted? page with
  | some part => some part
  | none => if r.wholePages then some page else none

/-- The converted text of a page. -/
def text (r : Conversion) (page : Text) : Text :=
  match r.part? page with
  | none => []
  | some part =>
      let out := collapseBlankLines
        (Text.join ['\n'] ((r.bodyLines part).flatMap r.convertLine))
      if r.trimmed then Text.strip out else out

/-- The converted text of a page, refused when a character reference cannot be read. -/
def apply (r : Conversion) (page : Text) : Except Fault Text :=
  match (r.part? page).bind fun part => Markup.CharRef.oversized? (untagged part) with
  | some digits => .error (.longInteger digits)
  | none => .ok (r.text page)

end Conversion

/-! ## Transcripts -/

/-- A short name in capitals. -/
def isSpeaker (t : Text) : Bool :=
  Text.isCapitals t && t.length < 40

/-- A speaker and, if there is any, what they say, from a line such as `KYLE: Hello.` -/
def speech? (t : Text) : Option (List Text) :=
  match Text.cut? ':' t with
  | some (left, right) =>
      let speaker := Text.strip left
      let words := Text.strip right
      if isSpeaker speaker then
        some (if words.isEmpty then [speaker] else [speaker, words])
      else none
  | none => none

/-- A line of a transcript. -/
def transcriptLine (line : Text) : List Text :=
  let t := Text.strip line
  if isHeading t then [Text.upper t]
  else if 4 ≤ Text.indent line ∧ isSpeaker t ∧ !List.contains t ':' then [t]
  else
    match speech? t with
    | some lines => lines
    | none => if namesTransition t then ['>' :: ' ' :: t] else [t]

/-- Pages of television transcripts. -/
def transcript : Conversion where
  headerLines := 20
  lines := id
  line := transcriptLine
  wholePages := false
  trimmed := true

/-! ## Screenplays of films -/

/-- A line in capitals that leads over to the next scene. -/
def leadsOver (t : Text) : Bool :=
  Text.isCapitals t && (t.endsWith ":" || t.contains " TO:" || t.startsWith "FADE TO")

/-- A line of a film screenplay. -/
def filmLine (line : Text) : List Text :=
  let t := Text.strip line
  if isNumberedHeading t then [Text.upper (dropNumber t)]
  else if leadsOver t then ['>' :: ' ' :: t]
  else [t]

/-- Pages of film screenplays. -/
def film : Conversion where
  headerLines := 30
  lines := fun ls => Text.lines (Text.join ['\n'] ls)
  line := filmLine
  wholePages := true
  trimmed := false

end Gleaner.Screenplay
