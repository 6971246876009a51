import Gleaner.Json.Access
import Gleaner.Text.Substitute

/-!
# Films

A film has a title and a year, and pages on two sites.  The parts are kept as they were read.

* `Movie` — a film.
* `Movie.safeName`, `Movie.fileName` — its names for files.
* `Movie.toJson` — a film as it is stored.
-/

namespace Gleaner

/-- A film: title and year, its number and page on the chart's site, and its page on the site of
scripts. -/
structure Movie where
  title : Json
  year : Json
  id : Json
  page : Json
  script : Json

namespace Movie

/-- A film as people write it, with its year. -/
def label (m : Movie) : Text :=
  Text.cat [m.title.display, " (", m.year.display, ")"]

/-- A name for files: strokes and colons become hyphens. -/
def safeName (m : Movie) : Text :=
  Text.replace [':'] ['-'] (Text.replace ['/'] ['-'] m.label)

/-- The name of the file of a screenplay. -/
def fileName (m : Movie) : Text :=
  m.safeName ++ ".fountain"

/-- A film as it is stored. -/
def toJson (m : Movie) : Json :=
  Json.object [("title", m.title), ("year", m.year), ("imdb_id", m.id), ("imdb_url", m.page),
    ("imsdb_url", m.script)]

/-- A film from a stored value; what is missing is empty. -/
def ofJson (v : Json) : Except Fault Movie := do
  let title ← v.getD "title" ""
  let year ← v.getD "year" (.int 0)
  let id ← v.getD "imdb_id" ""
  let page ← v.getD "imdb_url" ""
  let script ← v.getD "imsdb_url" ""
  return ⟨title, year, id, page, script⟩

end Movie

end Gleaner
