import Gleaner.Json.Access
import Gleaner.Markup.Select
import Gleaner.Text.CaseMap
import Gleaner.World.Sites

/-!
# Looking for the script of a film

The site of scripts is asked in two ways.  The address of a script can be guessed from the title; then
the page must hold a text in which the title is found again.  Or the site's own search is asked, and
the result that agrees best with the title leads to the script.

* `allScripts` — the page of all scripts, read once.
* `score`, `bestMatch?` — how well a result agrees with a title.
* `search` — the site's own search.
* `verify` — whether a page holds the script of a film.
* `guess` — the address made from the title.
* `download` — the page of a script.
-/

namespace Gleaner.Film

/-- The page of all scripts; it is asked for once. -/
def allScripts : Program Markup.Node := do
  match (← get).index with
  | some page => return page
  | none => do
      let url := Site.scripts ++ "/all-scripts.html"
      let reply ← fetch (.str url) Site.timeout
      requireSuccess url reply
      let page ← Program.lift (Markup.parse reply.text)
      modify fun w => { w with index := some page }
      return page

/-! ## The search of the site -/

/-- A result of the search: where it leads and what it is called. -/
structure Result where
  target : Text
  text : Text
  deriving DecidableEq, Repr

/-- A result as it is shown. -/
def Result.toJson (r : Result) : Json :=
  Json.object [("href", .str r.target), ("text", .str r.text)]

/-- The part of a page of results that holds them: the second cell at the top of the first table that
has two. -/
def resultBlock? (page : Markup.Node) : Option Markup.Node :=
  (page.findAll (Markup.Node.isElement "table")).findSome? fun table =>
    (table.findAll (Markup.Node.withAttribute "td" "valign" "top"))[1]?

/-- Whether a link leads to the page of a film. -/
def isFilmLink (target : Text) : Bool :=
  Text.contains (Text.lower target) "/movie/" || Text.contains target "/Movie Scripts/"

/-- The results of a search. -/
def results (block : Markup.Node) : List Result :=
  block.links.filterMap fun (link, target) =>
    if isFilmLink target then some ⟨target, link.strippedText⟩ else none

/-- A title as it is compared: in lowercase, without the article. -/
def comparedTitle (title : Text) : Text :=
  Text.strip (Text.replace "the " [] (Text.strip (Text.lower title)))

/-- The text of a result as it is compared. -/
def comparedText (text : Text) : Text :=
  Text.strip (Text.replace " script" [] (Text.lower text))

/-- How well the text of a result agrees with a title: they are equal, one holds the other, or the text
holds every longer word of the title. -/
def score (title text : Text) : Nat :=
  if title = text then 100
  else if Text.contains text title || Text.contains title text then 80
  else if ((Text.words title).filter fun w => 2 < w.length).all fun w => Text.contains text w then 60
  else 0

/-- The first of the results that agree best with a title, and how well they do; a result that does
not agree at all is no match. -/
def bestMatch? (title : Text) (rs : List Result) : Option (Text × Nat) :=
  let best := rs.foldl
    (fun (best : Text × Nat) r =>
      let s := score title (comparedText r.text)
      if best.2 < s then (r.target, s) else best)
    ([], 0)
  if best.1.isEmpty || best.2 < 60 then none else some best

/-- The address of the script on the page of a film. -/
def scriptOnPage (url : Json) : Program (Option Text) := do
  let found ← Program.attempt do
    let reply ← fetch url Site.timeout
    if reply.status ≠ 200 then pure none
    else do
      let page ← Program.lift (Markup.parse reply.text)
      pure ((page.linkBelow? "script-details" "/scripts").map fun t => Site.scripts ++ t)
  return found.toOption.join

/-- The search of the site for a title. -/
def searchFor (title : Text) : Program (Option Text) := do
  let reply ← send (Site.scripts ++ "/search.php") Site.timeout
    (Json.object [("search_query", .str (Text.strip title)), ("submit", "Go!")])
  if reply.status ≠ 200 then return none
  let page ← Program.lift (Markup.parse reply.text)
  match (resultBlock? page).map results with
  | none | some [] => return none
  | some rs => do
      say [Json.literal (.arr (rs.map Result.toJson))]
      match bestMatch? (comparedTitle title) rs with
      | none => return none
      | some (target, _) =>
          let url := if Text.startsWith target "/" then Site.scripts ++ target else target
          scriptOnPage (.str url)

/-- The address of the script of a film, by the search of the site. -/
def search (title : Json) : Program (Option Text) := do
  let title ← Program.lift (title.asText "strip")
  match ← Program.attempt (searchFor title) with
  | .ok url => return url
  | .error f => do
      say ["Search error: ", f.message]
      return none

/-! ## Guessing the address -/

/-- The text inside the first preformatted part of a page. -/
def firstPreformatted? (page : Text) : Option Text := do
  let tag ← Text.after? page "<pre"
  let inside ← Text.after? tag ">"
  Text.before? inside "</pre>"

/-- Whether a title is found again at the beginning of a script: at least half of its words. -/
def mentions (script title : Text) : Bool :=
  let top := Text.lower (script.take 1000)
  let words := Text.words (Text.lower title)
  words.length ≤ 2 * (words.countP fun w => Text.contains top w)

/-- Whether a page holds the script of a film; an empty title agrees with any script. -/
def verify (url title : Json) : Program Bool := do
  let found ← Program.attempt do
    let reply ← fetch url Site.timeout
    if reply.status ≠ 200 then pure false
    else
      match firstPreformatted? reply.text with
      | none => pure false
      | some script =>
          if (Text.strip script).length < 100 then pure false
          else if title.isTruthy then do
            let title ← Program.lift (title.asText "lower")
            pure (mentions script title)
          else pure true
  return found.toOption.getD false

/-- The address of a script that the title suggests. -/
def guessedUrl (title : Text) : Text :=
  Text.cat [Site.scripts, "/scripts/", Text.strip (Text.replace [' '] ['-'] title), ".html"]

/-- The address that the title suggests, if it holds the script. -/
def guess (title : Json) : Program (Option Text) := do
  let t ← Program.lift (title.asText "replace")
  let url := guessedUrl t
  if ← verify (.str url) title then return some url else return none

/-- The address of the script of a film: the guessed one, or else the one that is found. -/
def findScript (title : Json) : Program (Option Text) := do
  match ← guess title with
  | some url => return some url
  | none => search title

/-- The page of a script; a request that fails is reported. -/
def download (url : Json) : Program (Option Text) := do
  let got ← Program.attempt do
    let reply ← fetch url Site.timeout
    requireSuccess url.display reply
    pure reply.text
  match got with
  | .ok t => return some t
  | .error f =>
      if f.isRequest then
        say ["Error downloading script from '", url.display, "': ", f.message]
        return none
      else Program.fail f

end Gleaner.Film
