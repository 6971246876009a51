import Gleaner.Json.Access
import Gleaner.Text.Alphanumeric
import Gleaner.Text.Blank
import Gleaner.Text.Substitute

/-!
# Names of episodes

An episode is known by its season, its number in the season and its title.  The title is cleaned
before it becomes part of a file name.

* `Episode` — an episode, its parts as they were read.
* `Episode.safeName`, `Episode.displayName` — its names for files and for people.
* `code` — season and number, such as `S01E02`.
* `fileTitle`, `fileName` — the name of the file of a transcript.
-/

namespace Gleaner

/-- An episode, its parts as they were read. -/
structure Episode where
  title : Json
  season : Json
  number : Json

namespace Episode

/-- Season and number, with two digits at least. -/
def code (season number : Json) : Except Fault Text := do
  let s ← season.twoDigits
  let n ← number.twoDigits
  return Text.cat ["S", s, "E", n]

/-- A title without punctuation, words joined by low lines. -/
def cleanTitle (title : Text) : Text :=
  let kept := title.filter fun c => Text.isWord c || Text.isBlank c || c == '-'
  Text.replaceRuns Text.isBlank ['_'] (Text.strip kept)

/-- A name for files. -/
def safeName (e : Episode) : Except Fault Text := do
  let title ←
    match e.title with
    | .str t => pure (cleanTitle t)
    | v => .error (.notText v.kind)
  let c ← code e.season e.number
  return Text.cat [c, "_", title]

/-- A name for people. -/
def displayName (e : Episode) : Except Fault Text := do
  let c ← code e.season e.number
  return Text.cat [c, " - ", e.title.display]

/-- A title in the name of a transcript's file: blanks as low lines, then letters, numbers, low lines
and hyphens only. -/
def fileTitle (title : Text) : Text :=
  (title.map fun c => if c = ' ' then '_' else c).filter fun c =>
    Text.isAlphanumeric c || c == '_' || c == '-'

/-- The name of a transcript's file. -/
def fileName (code : Text) (title : Text) : Text :=
  Text.cat [code, "_", fileTitle title, ".fountain"]

end Episode

end Gleaner
